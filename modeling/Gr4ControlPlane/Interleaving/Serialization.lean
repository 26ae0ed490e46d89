import Gr4ControlPlane.Interleaving.System

/-! Calls whose commands read and change nothing but the view of their own key can be
executed one after another: any order that keeps the calls of each key in order gives
the same views and the same answers as the interleaved run. -/

namespace Gr4ControlPlane.Interleaving

variable {I : Interface} {S : System I} {K V : Type}

def Program.All (P : I.Cmd → Prop) (A : (c : I.Cmd) → I.Ans c → Prop) : Program I α → Prop
  | .ret _ => True
  | .step c k => P c ∧ ∀ r, A c r → (k r).All P A

namespace Program

variable {J : Interface} {α β ε : Type} {P : I.Cmd → Prop} {A : (c : I.Cmd) → I.Ans c → Prop}

theorem All.bind {p : Program I α} {f : α → Program I β} (h : p.All P A)
    (hf : ∀ a, (f a).All P A) : (p >>= f).All P A := by
  induction p with
  | ret a => exact hf a
  | step c k ih => exact ⟨h.1, fun r hr => ih r (h.2 r hr)⟩

theorem All.inr {P : (I.sum J).Cmd → Prop} {A : (c : (I.sum J).Cmd) → (I.sum J).Ans c → Prop}
    {p : Program J α} (h : p.All (fun c => P (.inr c)) (fun c r => A (.inr c) r)) :
    (p.inr : Program (I.sum J) α).All P A := by
  induction p with
  | ret a => trivial
  | step c k ih => exact ⟨h.1, fun r hr => ih r (h.2 r hr)⟩

theorem all_bind {x : Action I ε α} {f : α → Action I ε β} (h : x.run.All P A)
    (hf : ∀ a, (f a).run.All P A) : (x >>= f).run.All P A := by
  rw [ExceptT.run_bind]
  apply All.bind h
  intro a
  cases a with
  | ok a => exact hf a
  | error e => trivial

end Program

/-- What each command does, as a function of the view of the key it is addressed to. -/
structure Keyed (S : System I) (K V : Type) where
  key : S.Op → K
  view : K → S.State → V
  act : (c : I.Cmd) → S.Env → V → Option (I.Ans c × V)
  addressed : K → I.Cmd → Prop
  answers : (c : I.Cmd) → I.Ans c → Prop
  exec_view : ∀ {x c}, addressed x c → ∀ e σ,
    (S.exec c e σ).map (fun p => (p.1, view x p.2)) = act c e (view x σ)
  frame : ∀ {x y c e σ r σ'}, addressed x c → S.exec c e σ = some (r, σ') → y ≠ x →
    view y σ' = view y σ
  possible : ∀ {c e σ r σ'}, S.exec c e σ = some (r, σ') → answers c r
  body : ∀ op, (S.body op).All (addressed (key op)) answers

variable (D : Keyed S K V)

namespace Thread

def perform (th : Thread S) (e : S.Env) (v : V) : Option (Thread S × V) :=
  match th.prog with
  | .ret _ => none
  | .step c k => (D.act c e v).map fun (r, v') =>
      ({ th with prog := k r, trace := ⟨c, r⟩ :: th.trace, envs := e :: th.envs }, v')

def replay : Thread S → List S.Env → V → Option (Thread S × V)
  | th, [], v => some (th, v)
  | th, e :: es, v => (th.perform D e v).bind fun (th', v') => replay th' es v'

/-- The call, run again from its beginning on the view `v`, does the same and ends on `v'`. -/
def Replays (th : Thread S) (v v' : V) : Prop :=
  replay D (start th.op) th.envs.reverse v = some (th, v')

variable {D} {th th' : Thread S} {e : S.Env} {σ σ' : S.State} {v v' w : V}

theorem replay_append {es fs : List S.Env} :
    th.replay D (es ++ fs) v = (th.replay D es v).bind fun p => p.1.replay D fs p.2 := by
  induction es generalizing th v with
  | nil => rfl
  | cons e es ih =>
    simp only [List.cons_append, replay, Option.bind_assoc]
    exact congrArg _ (funext fun p => ih)

theorem perform_op (h : th.perform D e v = some (th', v')) :
    th'.op = th.op ∧ th'.envs = e :: th.envs := by
  unfold perform at h
  split at h
  · cases h
  · obtain ⟨_, _, heq⟩ := Option.map_eq_some_iff.mp h
    obtain ⟨rfl, -⟩ := Prod.mk.inj heq
    exact ⟨rfl, rfl⟩

theorem Replays.snoc (h : th.Replays D v v') (hp : th.perform D e v' = some (th', w)) :
    th'.Replays D v w := by
  obtain ⟨hop, henvs⟩ := perform_op hp
  unfold Replays at *
  rw [hop, henvs, List.reverse_cons, replay_append, h]
  simp [replay, hp]

theorem Replays.start_of_perform (h : (start th.op).perform D e v = some (th, v')) :
    th.Replays D v v' := by
  obtain ⟨-, henvs⟩ := perform_op h
  unfold Replays
  rw [henvs, show (e :: (start th.op : Thread S).envs).reverse = [e] from rfl, replay, h]
  rfl

theorem Replays.unique (h : th.Replays D v v') (h' : th.Replays D v w) : v' = w := by
  unfold Replays at *
  rw [h] at h'
  exact (Prod.mk.inj (Option.some.inj h')).2

def Addressed (D : Keyed S K V) (th : Thread S) : Prop :=
  th.prog.All (D.addressed (D.key th.op)) D.answers

theorem start_addressed (op : S.Op) : (start op : Thread S).Addressed D := D.body op

theorem advance_view (ha : th.Addressed D) (e : S.Env) (σ : S.State) :
    (th.advance e σ).map (fun p => (p.1, D.view (D.key th.op) p.2)) =
      th.perform D e (D.view (D.key th.op) σ) := by
  unfold Addressed at ha
  unfold advance perform
  split <;> simp_all [Program.All, ← D.exec_view, Function.comp_def]

theorem perform_of_advance (ha : th.Addressed D) (h : th.advance e σ = some (th', σ')) :
    th.perform D e (D.view (D.key th.op) σ) = some (th', D.view (D.key th.op) σ') := by
  simp [← advance_view ha, h]

theorem advance_of_perform (ha : th.Addressed D)
    (h : th.perform D e (D.view (D.key th.op) σ) = some (th', v)) :
    ∃ σ', th.advance e σ = some (th', σ') ∧ D.view (D.key th.op) σ' = v := by
  rw [← advance_view ha] at h
  obtain ⟨⟨u, σ'⟩, hu, heq⟩ := Option.map_eq_some_iff.mp h
  obtain ⟨rfl, rfl⟩ := Prod.mk.inj heq
  exact ⟨σ', hu, rfl⟩

theorem advance_addressed (ha : th.Addressed D) (h : th.advance e σ = some (th', σ')) :
    th'.Addressed D := by
  obtain ⟨c, k, r, hp, hx, rfl⟩ := advance_cases h
  unfold Addressed at *
  rw [hp] at ha
  exact ha.2 r (D.possible hx)

theorem advance_frame (ha : th.Addressed D) (h : th.advance e σ = some (th', σ')) {y : K}
    (hy : y ≠ D.key th.op) : D.view y σ' = D.view y σ := by
  obtain ⟨c, k, r, hp, hx, -⟩ := advance_cases h
  unfold Addressed at ha
  rw [hp] at ha
  exact D.frame ha.1 hx hy

end Thread

inductive Replayed : List (Thread S) → V → V → Prop
  | nil {v} : Replayed [] v v
  | cons {th ths v v' v''} : th.Replays D v v' → Replayed ths v' v'' → Replayed (th :: ths) v v''

variable {D}

theorem Replayed.nil_inv {u v : V} (h : Replayed D [] u v) : u = v := by
  cases h
  rfl

theorem Replayed.append {ths us : List (Thread S)} {u v w : V} (h : Replayed D ths u v)
    (h' : Replayed D us v w) : Replayed D (ths ++ us) u w := by
  induction h with
  | nil => exact h'
  | cons hr _ ih => exact .cons hr (ih h')

theorem Replayed.append_inv {ths us : List (Thread S)} {u w : V}
    (h : Replayed D (ths ++ us) u w) : ∃ v, Replayed D ths u v ∧ Replayed D us v w := by
  induction ths generalizing u with
  | nil => exact ⟨u, .nil, h⟩
  | cons th ths ih =>
    cases h with
    | cons hr h =>
      obtain ⟨v, hv, hw⟩ := ih h
      exact ⟨v, .cons hr hv, hw⟩

theorem Replayed.unique {ths : List (Thread S)} {u v w : V} (h : Replayed D ths u v)
    (h' : Replayed D ths u w) : v = w := by
  induction h with
  | nil => cases h'; rfl
  | cons hr _ ih =>
    cases h' with
    | cons hr' h' => exact ih (hr.unique hr' ▸ h')

section

variable [DecidableEq K] (D) (counted : Thread S → Bool)

def Config.callsOn (ths : List (Thread S)) (x : K) : List (Thread S) :=
  ths.filter fun th => counted th && decide (D.key th.op = x)

/-- Per key, the run so far amounts to its calls made one after another; only the last of
them may still be under way. -/
structure Serial (σ₀ : S.State) (c : Config S) : Prop where
  addressed : ∀ th ∈ c.threads, th.Addressed D
  counted_active : ∀ th ∈ c.threads, th.active → counted th
  last : ∀ {i j : Nat} {th u : Thread S}, c.threads[i]? = some th → c.threads[j]? = some u →
    i < j → counted u → D.key th.op = D.key u.op → th.active = false
  replayed : ∀ x, Replayed D (Config.callsOn D counted c.threads x) (D.view x σ₀) (D.view x c.shared)

variable {D counted} {c c' : Config S} {σ₀ : S.State}

theorem Config.callsOn_append {ths us : List (Thread S)} {x : K} :
    callsOn D counted (ths ++ us) x = callsOn D counted ths x ++ callsOn D counted us x :=
  List.filter_append ..

theorem Config.callsOn_cons_of_ne {th : Thread S} {ths : List (Thread S)} {x : K}
    (h : x ≠ D.key th.op) : callsOn D counted (th :: ths) x = callsOn D counted ths x := by
  simp [callsOn, Ne.symm h]

theorem Config.callsOn_cons_self {th : Thread S} {ths : List (Thread S)} (h : counted th) :
    callsOn D counted (th :: ths) (D.key th.op) = th :: callsOn D counted ths (D.key th.op) := by
  simp [callsOn, h]

theorem Serial.run_step {i : Nat} {e : S.Env} (h : Serial D counted σ₀ c)
    (hs : c.step (.run i e) = some c')
    (hcount : ∀ {th th'}, th ∈ c.threads → th.advance e c.shared = some (th', c'.shared) →
      counted th' = counted th) : Serial D counted σ₀ c' := by
  obtain ⟨th, th', hi, hadv, hth⟩ := Config.step_run hs
  obtain ⟨hlt, hget⟩ := List.getElem?_eq_some_iff.mp hi
  have hmem : th ∈ c.threads := List.mem_of_getElem? hi
  have hact := Thread.advance_active hadv
  have hadd := h.addressed th hmem
  have hperf := Thread.perform_of_advance hadd hadv
  have hop := (Thread.perform_op hperf).1
  have hcth : counted th' = true := (hcount hmem hadv).trans (h.counted_active th hmem hact)
  have hsplit : c.threads = c.threads.take i ++ th :: c.threads.drop (i + 1) := by
    rw [← hget, List.getElem_cons_drop, List.take_append_drop]
  have hsplit' : c'.threads = c.threads.take i ++ th' :: c.threads.drop (i + 1) := by
    rw [hth, List.set_eq_take_append_cons_drop, if_pos hlt]
  -- the call that moved is the last one on its key
  have hafter : Config.callsOn D counted (c.threads.drop (i + 1)) (D.key th.op) = [] := by
    apply List.filter_eq_nil_iff.mpr
    intro u hu hc
    simp only [Bool.and_eq_true, decide_eq_true_eq] at hc
    obtain ⟨j, hj⟩ := List.mem_iff_getElem?.mp hu
    rw [List.getElem?_drop] at hj
    have := h.last hi hj (by omega) hc.1 hc.2.symm
    simp [hact] at this
  have hlook : ∀ {j u}, c'.threads[j]? = some u →
      (j = i ∧ u = th') ∨ (j ≠ i ∧ c.threads[j]? = some u) :=
    fun hu => Config.lookup_run hlt (hth ▸ hu)
  refine ⟨?_, ?_, ?_, ?_⟩
  · intro u hu
    obtain ⟨j, hj⟩ := List.mem_iff_getElem?.mp hu
    rcases hlook hj with ⟨-, rfl⟩ | ⟨-, hj⟩
    · exact Thread.advance_addressed hadd hadv
    · exact h.addressed u (List.mem_of_getElem? hj)
  · intro u hu hua
    obtain ⟨j, hj⟩ := List.mem_iff_getElem?.mp hu
    rcases hlook hj with ⟨-, rfl⟩ | ⟨-, hj⟩
    · exact hcth
    · exact h.counted_active u (List.mem_of_getElem? hj) hua
  · intro j k u w hj hk hjk hc hkey
    rcases hlook hj with ⟨rfl, rfl⟩ | ⟨-, hj⟩ <;> rcases hlook hk with ⟨rfl, rfl⟩ | ⟨-, hk⟩
    · omega
    · have := h.last hi hk hjk hc (hop ▸ hkey)
      simp [hact] at this
    · exact h.last hj hi hjk (h.counted_active th hmem hact) (hop ▸ hkey)
    · exact h.last hj hk hjk hc hkey
  · intro x
    have hx := h.replayed x
    rw [hsplit, Config.callsOn_append] at hx
    rw [hsplit', Config.callsOn_append]
    by_cases hk : x = D.key th.op
    · subst hk
      rw [Config.callsOn_cons_self (h.counted_active th hmem hact), hafter] at hx
      rw [← hop, Config.callsOn_cons_self hcth, hop, hafter]
      obtain ⟨v, hv, hw⟩ := hx.append_inv
      cases hw with
      | cons hr hnil =>
        cases hnil
        exact hv.append (.cons (hr.snoc hperf) .nil)
    · rw [Config.callsOn_cons_of_ne hk] at hx
      rw [Config.callsOn_cons_of_ne (hop ▸ hk), Thread.advance_frame hadd hadv hk]
      exact hx

theorem Serial.invoke {op : S.Op} {e : S.Env} (h : Serial D counted σ₀ c)
    (hs : c.step (.invoke op e) = some c')
    (hfree : ∀ {th}, (Thread.start op).advance e c.shared = some (th, c'.shared) → counted th →
      ∀ u ∈ c.threads, u.active → D.key u.op ≠ D.key op)
    (hskip : ∀ {th}, (Thread.start op).advance e c.shared = some (th, c'.shared) → ¬ counted th →
      th.active = false ∧ D.view (D.key op) c'.shared = D.view (D.key op) c.shared) :
    Serial D counted σ₀ c' := by
  obtain ⟨th, hadv, hth⟩ := Config.step_invoke hs
  have hadd := Thread.start_addressed (D := D) op
  have hperf := Thread.perform_of_advance hadd hadv
  have hop : th.op = op := (Thread.perform_op hperf).1
  have hlook : ∀ {j u}, c'.threads[j]? = some u →
      c.threads[j]? = some u ∨ (j = c.threads.length ∧ u = th) :=
    fun hu => Config.lookup_invoke (hth ▸ hu)
  have hmem : ∀ {u}, u ∈ c'.threads → u ∈ c.threads ∨ u = th :=
    fun hu => Config.mem_invoke (hth ▸ hu)
  refine ⟨?_, ?_, ?_, ?_⟩
  · intro u hu
    rcases hmem hu with hu | rfl
    · exact h.addressed u hu
    · exact Thread.advance_addressed hadd hadv
  · intro u hu hua
    rcases hmem hu with hu | rfl
    · exact h.counted_active u hu hua
    · by_contra hc
      simp [(hskip hadv hc).1] at hua
  · intro j k u w hj hk hjk hc hkey
    rcases hlook hk with hk | ⟨rfl, rfl⟩
    · rcases hlook hj with hj | ⟨rfl, -⟩
      · exact h.last hj hk hjk hc hkey
      · have := (List.getElem?_eq_some_iff.mp hk).1
        omega
    · rcases hlook hj with hj | ⟨rfl, rfl⟩
      · by_contra hua
        exact hfree hadv hc u (List.mem_of_getElem? hj) (by simpa using hua) (hop ▸ hkey)
      · omega
  · intro x
    have hx := h.replayed x
    rw [hth, Config.callsOn_append]
    by_cases hk : x = D.key op
    · subst hk
      by_cases hc : counted th
      · rw [← hop, Config.callsOn_cons_self hc, hop]
        exact hx.append (.cons (Thread.Replays.start_of_perform (by rw [hop]; exact hperf)) .nil)
      · rw [(hskip hadv hc).2]
        simpa [Config.callsOn, hc] using hx
    · rw [Config.callsOn_cons_of_ne (hop ▸ hk), Thread.advance_frame hadd hadv hk]
      simpa [Config.callsOn] using hx

end

def serialLabels : Nat → List (Thread S) → List (Label S)
  | _, [] => []
  | n, th :: ths =>
    (match th.envs.reverse with
      | [] => []
      | e :: es => .invoke th.op e :: es.map (.run n)) ++ serialLabels (n + 1) ths

variable {σ : S.State} {u th : Thread S} {v w : V}

theorem run_replay (ts : List (Thread S)) {es : List S.Env} (ha : u.Addressed D)
    (h : u.replay D es (D.view (D.key u.op) σ) = some (th, w)) :
    ∃ σ', (⟨σ, ts ++ [u]⟩ : Config S).run (es.map (.run ts.length)) = some ⟨σ', ts ++ [th]⟩ ∧
      D.view (D.key u.op) σ' = w ∧ ∀ y, y ≠ D.key u.op → D.view y σ' = D.view y σ := by
  induction es generalizing u σ with
  | nil =>
    obtain ⟨rfl, rfl⟩ := Prod.mk.inj (Option.some.inj h)
    exact ⟨σ, rfl, rfl, fun _ _ => rfl⟩
  | cons e es ih =>
    obtain ⟨⟨u', v'⟩, hp, h⟩ := Option.bind_eq_some_iff.mp h
    obtain ⟨σ₁, hadv, hv⟩ := Thread.advance_of_perform ha hp
    have hop := (Thread.perform_op hp).1
    have hre : u'.replay D es (D.view (D.key u'.op) σ₁) = some (th, w) := by rw [hop, hv]; exact h
    obtain ⟨σ', hrun, hw, hframe⟩ := ih (Thread.advance_addressed ha hadv) hre
    refine ⟨σ', ?_, hop ▸ hw, fun y hy => ?_⟩
    · simp [Config.run, Config.step, hadv, hrun]
    · rw [hframe y (hop ▸ hy), Thread.advance_frame ha hadv hy]

theorem run_serial [DecidableEq K] {c : Config S} {ths : List (Thread S)} {w : K → V}
    (hne : ∀ th ∈ ths, th.envs ≠ [])
    (h : ∀ x, Replayed D (ths.filter fun th => decide (D.key th.op = x)) (D.view x c.shared) (w x)) :
    ∃ c', c.run (serialLabels c.threads.length ths) = some c' ∧ c'.threads = c.threads ++ ths ∧
      ∀ x, D.view x c'.shared = w x := by
  induction ths generalizing c with
  | nil =>
    exact ⟨c, rfl, by simp, fun x => (h x).nil_inv⟩
  | cons th ths ih =>
    have hself := h (D.key th.op)
    rw [List.filter_cons_of_pos (by simp)] at hself
    cases hself with
    | @cons _ _ _ v' _ hr hrest =>
      obtain ⟨e, es, hes⟩ := List.exists_cons_of_ne_nil
        (by simpa using hne th List.mem_cons_self : th.envs.reverse ≠ [])
      unfold Thread.Replays at hr
      rw [hes, Thread.replay] at hr
      obtain ⟨⟨u, v₁⟩, hp, hr⟩ := Option.bind_eq_some_iff.mp hr
      have hadd := Thread.start_addressed (D := D) th.op
      obtain ⟨σ₁, hadv, hv₁⟩ := Thread.advance_of_perform hadd hp
      have hop : u.op = th.op := (Thread.perform_op hp).1
      have hre : u.replay D es (D.view (D.key u.op) σ₁) = some (th, v') := by
        rw [hop]
        exact hv₁ ▸ hr
      obtain ⟨σ', hrun, hw', hframe⟩ :=
        run_replay c.threads (Thread.advance_addressed hadd hadv) hre
      have hview : ∀ y, y ≠ D.key th.op → D.view y σ' = D.view y c.shared := fun y hy => by
        rw [hframe y (hop ▸ hy), Thread.advance_frame hadd hadv hy]
      obtain ⟨c', hc', hths, hviews⟩ := ih (c := ⟨σ', c.threads ++ [th]⟩)
        (fun u hu => hne u (List.mem_cons_of_mem _ hu)) (fun x => by
          by_cases hx : x = D.key th.op
          · subst hx
            exact (hop ▸ hw') ▸ hrest
          · have := h x
            rw [List.filter_cons_of_neg (by simpa using Ne.symm hx)] at this
            exact hview x hx ▸ this)
      refine ⟨c', ?_, by simpa using hths, hviews⟩
      rw [serialLabels, hes, Config.run_append]
      have hfirst : c.run (.invoke th.op e :: es.map (.run c.threads.length)) =
          some ⟨σ', c.threads ++ [th]⟩ := by
        simp [Config.run, Config.step, hadv, hrun]
      rw [hfirst]
      simpa using hc'

end Gr4ControlPlane.Interleaving
