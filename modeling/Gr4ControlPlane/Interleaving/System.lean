import Gr4ControlPlane.Interleaving.Program
import Mathlib.Data.List.Basic

/-! Calls running concurrently over one shared state.  A call begins by running its
first command; after that any call may run its next command at any time. -/

namespace Gr4ControlPlane.Interleaving

variable {I : Interface}

structure System (I : Interface) where
  State : Type
  Env : Type
  Op : Type
  Result : Type
  body : Op → Program I Result
  /-- The command's effect, given what the environment answers; `none` while it blocks. -/
  exec : (c : I.Cmd) → Env → State → Option (I.Ans c × State)

structure Thread (S : System I) where
  op : S.Op
  prog : Program I S.Result
  trace : Trace I
  envs : List S.Env

structure Config (S : System I) where
  shared : S.State
  threads : List (Thread S)

inductive Label (S : System I)
  | invoke (op : S.Op) (e : S.Env)
  | run (i : Nat) (e : S.Env)

variable {S : System I}

namespace Thread

def start (op : S.Op) : Thread S := ⟨op, S.body op, [], []⟩

def active (th : Thread S) : Bool := !th.prog.finished

def result (th : Thread S) : Option S.Result :=
  match th.prog with
  | .ret a => some a
  | .step _ _ => none

theorem prog_of_result {th : Thread S} {a : S.Result} (h : th.result = some a) : th.prog = .ret a := by
  unfold result at h
  split at h
  · next hret => rw [hret, Option.some.inj h]
  · cases h

def advance (th : Thread S) (e : S.Env) (σ : S.State) : Option (Thread S × S.State) :=
  match th.prog with
  | .ret _ => none
  | .step c k => (S.exec c e σ).map fun (r, σ') =>
      ({ th with prog := k r, trace := ⟨c, r⟩ :: th.trace, envs := e :: th.envs }, σ')

theorem advance_cases {th th' : Thread S} {e : S.Env} {σ σ' : S.State}
    (h : th.advance e σ = some (th', σ')) :
    ∃ c k r, th.prog = .step c k ∧ S.exec c e σ = some (r, σ') ∧
      th' = ⟨th.op, k r, ⟨c, r⟩ :: th.trace, e :: th.envs⟩ := by
  unfold advance at h
  split at h
  · cases h
  · next c k hp =>
    obtain ⟨⟨r, σ''⟩, hr, heq⟩ := Option.map_eq_some_iff.mp h
    obtain ⟨rfl, rfl⟩ := Prod.mk.inj heq
    exact ⟨c, k, r, hp, hr, rfl⟩

theorem advance_of_exec {th : Thread S} {c : I.Cmd} {k : I.Ans c → Program I S.Result} {e : S.Env} {σ σ' : S.State}
    {r : I.Ans c} (hp : th.prog = .step c k) (h : S.exec c e σ = some (r, σ')) :
    th.advance e σ = some (⟨th.op, k r, ⟨c, r⟩ :: th.trace, e :: th.envs⟩, σ') := by
  obtain ⟨op, prog, trace, envs⟩ := th
  obtain rfl : prog = .step c k := hp
  exact congrArg (Option.map _) h

theorem active_iff {th : Thread S} : th.active = true ↔ ∃ c k, th.prog = .step c k := by
  unfold active
  cases th.prog <;> simp [Program.finished]

theorem inactive_iff {th : Thread S} : th.active = false ↔ ∃ a, th.prog = .ret a := by
  unfold active
  cases th.prog <;> simp [Program.finished]

theorem advance_active {th th' : Thread S} {e : S.Env} {σ σ' : S.State}
    (h : th.advance e σ = some (th', σ')) : th.active = true := by
  obtain ⟨c, k, _, hp, _, _⟩ := advance_cases h
  exact active_iff.mpr ⟨c, k, hp⟩

end Thread

namespace Config

def step (c : Config S) : Label S → Option (Config S)
  | .invoke op e => ((Thread.start op).advance e c.shared).map fun (th, σ) =>
      ⟨σ, c.threads ++ [th]⟩
  | .run i e => c.threads[i]?.bind fun th => (th.advance e c.shared).map fun (th', σ) =>
      ⟨σ, c.threads.set i th'⟩

def run : Config S → List (Label S) → Option (Config S)
  | c, [] => some c
  | c, l :: ls => (c.step l).bind (·.run ls)

theorem step_invoke {c c' : Config S} {op : S.Op} {e : S.Env} (h : c.step (.invoke op e) = some c') :
    ∃ th, (Thread.start op).advance e c.shared = some (th, c'.shared) ∧
      c'.threads = c.threads ++ [th] := by
  obtain ⟨⟨th, σ⟩, hth, rfl⟩ := Option.map_eq_some_iff.mp h
  exact ⟨th, hth, rfl⟩

theorem step_run {c c' : Config S} {i : Nat} {e : S.Env} (h : c.step (.run i e) = some c') :
    ∃ th th', c.threads[i]? = some th ∧ th.advance e c.shared = some (th', c'.shared) ∧
      c'.threads = c.threads.set i th' := by
  obtain ⟨th, hi, h⟩ := Option.bind_eq_some_iff.mp h
  obtain ⟨⟨th', σ⟩, hth, rfl⟩ := Option.map_eq_some_iff.mp h
  exact ⟨th, th', hi, hth, rfl⟩

theorem step_of_invoke {c : Config S} {op : S.Op} {e : S.Env} {th : Thread S} {σ : S.State}
    (h : (Thread.start op).advance e c.shared = some (th, σ)) :
    c.step (.invoke op e) = some ⟨σ, c.threads ++ [th]⟩ := congrArg (Option.map _) h

theorem step_of_run {c : Config S} {i : Nat} {e : S.Env} {th th' : Thread S} {σ : S.State}
    (hi : c.threads[i]? = some th) (h : th.advance e c.shared = some (th', σ)) :
    c.step (.run i e) = some ⟨σ, c.threads.set i th'⟩ := by
  simp only [step, hi, h, Option.bind_some, Option.map_some]

theorem lookup_run {ths : List (Thread S)} {i j : Nat} {th u : Thread S} (hi : i < ths.length)
    (h : (ths.set i th)[j]? = some u) : (j = i ∧ u = th) ∨ (j ≠ i ∧ ths[j]? = some u) := by
  rw [List.getElem?_set] at h
  by_cases hj : i = j
  · rw [if_pos hj, if_pos hi] at h
    exact .inl ⟨hj.symm, (Option.some.inj h).symm⟩
  · rw [if_neg hj] at h
    exact .inr ⟨Ne.symm hj, h⟩

theorem lookup_invoke {ths : List (Thread S)} {j : Nat} {th u : Thread S}
    (h : (ths ++ [th])[j]? = some u) : ths[j]? = some u ∨ (j = ths.length ∧ u = th) := by
  rw [List.getElem?_append] at h
  split at h
  · exact .inl h
  · rw [List.getElem?_singleton] at h
    split at h
    · exact .inr ⟨by omega, (Option.some.inj h).symm⟩
    · cases h

theorem mem_invoke {ths : List (Thread S)} {th u : Thread S} (h : u ∈ ths ++ [th]) :
    u ∈ ths ∨ u = th := by
  simpa using h

theorem run_append {c : Config S} {ls ms : List (Label S)} :
    c.run (ls ++ ms) = (c.run ls).bind (·.run ms) := by
  induction ls generalizing c with
  | nil => rfl
  | cons l ls ih =>
    simp only [List.cons_append, run, Option.bind_assoc]
    exact congrArg _ (funext fun d => ih)

end Config

/-- The configurations reached from `c₀` by steps that all satisfy `ok`. -/
inductive Reach (ok : Config S → Label S → Config S → Prop) (c₀ : Config S) : Config S → Prop
  | init : Reach ok c₀ c₀
  | step {c l c'} : Reach ok c₀ c → c.step l = some c' → ok c l c' → Reach ok c₀ c'

theorem Reach.of_run {c₀ c d : Config S} {ls : List (Label S)}
    (hc : Reach (fun _ _ _ => True) c₀ c) (h : c.run ls = some d) :
    Reach (fun _ _ _ => True) c₀ d := by
  induction ls generalizing c with
  | nil => cases h; exact hc
  | cons l ls ih =>
    obtain ⟨c', hl, h⟩ := Option.bind_eq_some_iff.mp h
    exact ih (hc.step hl trivial) h

def Config.runOk (ok : Config S → Label S → Config S → Prop) [∀ c l c', Decidable (ok c l c')] :
    Config S → List (Label S) → Option (Config S)
  | c, [] => some c
  | c, l :: ls => (c.step l).bind fun c' => if ok c l c' then c'.runOk ok ls else none

theorem Reach.of_runOk {ok : Config S → Label S → Config S → Prop} [∀ c l c', Decidable (ok c l c')]
    {c₀ c d : Config S} {ls : List (Label S)} (hc : Reach ok c₀ c) (h : c.runOk ok ls = some d) :
    Reach ok c₀ d := by
  induction ls generalizing c with
  | nil => cases h; exact hc
  | cons l ls ih =>
    obtain ⟨c', hl, h⟩ := Option.bind_eq_some_iff.mp h
    split at h
    · next hok => exact ih (hc.step hl hok) h
    · cases h

theorem Reach.mono {ok ok' : Config S → Label S → Config S → Prop} {c₀ c : Config S}
    (hok : ∀ c l c', ok c l c' → ok' c l c') (h : Reach ok c₀ c) : Reach ok' c₀ c := by
  induction h with
  | init => exact .init
  | step _ hs ho ih => exact ih.step hs (hok _ _ _ ho)

inductive Program.Follows (p : Program I α) : Trace I → Program I α → Prop
  | nil : Follows p [] p
  | snoc {t c k r} : Follows p t (.step c k) → Follows p (⟨c, r⟩ :: t) (k r)

theorem Program.Follows.of_ret {a : α} {t : Trace I} {q : Program I α}
    (h : (Program.ret a).Follows t q) : t = [] ∧ q = .ret a := by
  induction h with
  | nil => exact ⟨rfl, rfl⟩
  | snoc _ ih => cases ih.2

theorem Program.Follows.of_step {c : I.Cmd} {k : I.Ans c → Program I α} {t : Trace I}
    {q : Program I α} (h : (Program.step c k).Follows t q) :
    (t = [] ∧ q = .step c k) ∨ ∃ r t', (k r).Follows t' q ∧ t = t' ++ [⟨c, r⟩] := by
  induction h with
  | nil => exact .inl ⟨rfl, rfl⟩
  | snoc _ ih =>
    right
    rcases ih with ⟨rfl, heq⟩ | ⟨r, t', hf, rfl⟩
    · cases heq
      exact ⟨_, [], .nil, rfl⟩
    · exact ⟨r, _, .snoc hf, rfl⟩

theorem Program.Follows.of_bind {p : Program I α} {f : α → Program I β} {t : Trace I}
    {q : Program I β} (h : (p >>= f).Follows t q) :
    (∃ q', p.Follows t q' ∧ q = (q' >>= f)) ∨
      ∃ a t₁ t₂, p.Follows t₁ (.ret a) ∧ (f a).Follows t₂ q ∧ t = t₂ ++ t₁ := by
  induction h with
  | nil => exact .inl ⟨p, .nil, rfl⟩
  | @snoc t c k r _ ih =>
    rcases ih with ⟨q', hq', heq⟩ | ⟨a, t₁, t₂, h₁, h₂, rfl⟩
    · cases q' with
      | ret a => exact .inr ⟨a, t, [⟨c, r⟩], hq', .snoc (heq ▸ .nil), rfl⟩
      | step c' k' =>
        cases heq
        exact .inl ⟨_, .snoc hq', rfl⟩
    · exact .inr ⟨a, t₁, ⟨c, r⟩ :: t₂, h₁, .snoc h₂, rfl⟩

theorem Program.Follows.of_inr {J : Interface} {p : Program J α} {t : Trace (I.sum J)}
    {q : Program (I.sum J) α} (h : (p.inr : Program (I.sum J) α).Follows t q) :
    ∃ q', p.Follows t.right q' ∧ q = q'.inr := by
  induction h with
  | nil => exact ⟨p, .nil, rfl⟩
  | @snoc t c k r _ ih =>
    obtain ⟨q', hq', heq⟩ := ih
    cases q' with
    | ret a => cases heq
    | step c' k' =>
      cases heq
      exact ⟨_, .snoc hq', rfl⟩

theorem Thread.advance_follows {th th' : Thread S} {e : S.Env} {σ σ' : S.State}
    (h : th.advance e σ = some (th', σ')) (hf : (S.body th.op).Follows th.trace th.prog) :
    (S.body th'.op).Follows th'.trace th'.prog := by
  obtain ⟨c, k, r, hp, -, rfl⟩ := Thread.advance_cases h
  exact .snoc (hp ▸ hf)

theorem Reach.each {ok : Config S → Label S → Config S → Prop} {P : Thread S → Prop} {σ : S.State}
    {c : Config S} (h : Reach ok ⟨σ, []⟩ c) (hstart : ∀ op, P (Thread.start op))
    (hadv : ∀ {th th' e σ σ'}, P th → th.advance e σ = some (th', σ') → P th') :
    ∀ th ∈ c.threads, P th := by
  induction h with
  | init => simp
  | @step c l c' _ hs _ ih =>
    intro u hu
    cases l with
    | invoke op e =>
      obtain ⟨th, hth, heq⟩ := Config.step_invoke hs
      rcases Config.mem_invoke (heq ▸ hu) with hu | rfl
      · exact ih u hu
      · exact hadv (hstart op) hth
    | run i e =>
      obtain ⟨th, th', hi, hth, heq⟩ := Config.step_run hs
      rcases List.mem_or_eq_of_mem_set (heq ▸ hu) with hu | rfl
      · exact ih u hu
      · exact hadv (ih th (List.mem_of_getElem? hi)) hth

theorem Reach.follows {ok : Config S → Label S → Config S → Prop} {σ : S.State} {c : Config S}
    (h : Reach ok ⟨σ, []⟩ c) : ∀ th ∈ c.threads, (S.body th.op).Follows th.trace th.prog :=
  h.each (fun _ => .nil) fun hf hadv => Thread.advance_follows hadv hf

theorem Reach.answers {ok : Config S → Label S → Config S → Prop} {σ : S.State} {c : Config S}
    {A : (c : I.Cmd) → I.Ans c → Prop} (h : Reach ok ⟨σ, []⟩ c)
    (hA : ∀ {c e σ r σ'}, S.exec c e σ = some (r, σ') → A c r) :
    ∀ th ∈ c.threads, ∀ ev ∈ th.trace, A ev.1 ev.2 := by
  refine h.each ?_ ?_
  · intro op ev hev
    cases hev
  · intro th th' e σ σ' hth hadv ev hev
    obtain ⟨c, k, r, -, hr, rfl⟩ := Thread.advance_cases hadv
    cases hev with
    | head => exact hA hr
    | tail _ hev => exact hth ev hev

theorem Reach.begun {ok : Config S → Label S → Config S → Prop} {σ : S.State} {c : Config S}
    (h : Reach ok ⟨σ, []⟩ c) : ∀ th ∈ c.threads, th.trace ≠ [] := by
  induction h with
  | init => simp
  | @step c l c' _ hs _ ih =>
    intro u hu
    cases l with
    | invoke op e =>
      obtain ⟨th, hadv, hths⟩ := Config.step_invoke hs
      rcases Config.mem_invoke (hths ▸ hu) with hu | rfl
      · exact ih u hu
      · obtain ⟨_, _, _, -, -, rfl⟩ := Thread.advance_cases hadv
        exact List.cons_ne_nil _ _
    | run i e =>
      obtain ⟨th, th', hi, hadv, hths⟩ := Config.step_run hs
      rcases List.mem_or_eq_of_mem_set (hths ▸ hu) with hu | rfl
      · exact ih u hu
      · obtain ⟨_, _, _, -, -, rfl⟩ := Thread.advance_cases hadv
        exact List.cons_ne_nil _ _

def Program.Ends (A : (c : I.Cmd) → I.Ans c → Prop) (P : α → Prop) : Program I α → Prop
  | .ret a => P a
  | .step c k => ∀ r, A c r → (k r).Ends A P

namespace Program.Ends

variable {A : (c : I.Cmd) → I.Ans c → Prop} {P P' : α → Prop} {p q : Program I α}

theorem mono (h : p.Ends A P) (hP : ∀ a, P a → P' a) : p.Ends A P' := by
  induction p with
  | ret a => exact hP a h
  | step c k ih => exact fun r hr => ih r (h r hr)

theorem of_forall (h : ∀ a, P a) : p.Ends A P := by
  induction p with
  | ret a => exact h a
  | step c k ih => exact fun r _ => ih r

theorem bind {p : Program I β} {f : β → Program I α} (h : p.Ends A fun a => (f a).Ends A P) :
    (p >>= f).Ends A P := by
  induction p with
  | ret a => exact h
  | step c k ih => exact fun r hr => ih r (h r hr)

theorem inr {J : Interface} {A : (c : (I.sum J).Cmd) → (I.sum J).Ans c → Prop} {p : Program J α}
    (h : p.Ends (fun c r => A (.inr c) r) P) : (p.inr : Program (I.sum J) α).Ends A P := by
  induction p with
  | ret a => exact h
  | step c k ih => exact fun r hr => ih r (h r hr)

theorem follows {t : Trace I} (h : p.Ends A P) (hf : p.Follows t q) (ht : ∀ ev ∈ t, A ev.1 ev.2) : q.Ends A P := by
  induction hf with
  | nil => exact h
  | snoc _ ih =>
    have hrest := ih fun ev hev => ht ev (List.mem_cons_of_mem _ hev)
    exact hrest _ (ht _ List.mem_cons_self)

end Program.Ends

end Gr4ControlPlane.Interleaving
