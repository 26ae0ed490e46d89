import Gr4ControlPlane.Interleaving.Alone
import Gr4ControlPlane.Interleaving.Serialization
import Mathlib.Logic.Relation

/-! Calls verified against what the others may do.  A call relies on the shared state changing
only in certain ways between its commands, which may depend on what it has done so far; a run
whose steps change it in no other way then gives every call what it was verified for. -/

namespace Gr4ControlPlane.Interleaving

variable {I : Interface} {S : System I} {α β : Type}

/-- Whatever happens within `rely` between its commands, the program ends with `Q`. -/
def Program.Assured (S : System I) (rely : Trace I → S.State → S.State → Prop)
    (Q : α → Trace I → S.State → Prop) : Program I α → Trace I → S.State → Prop
  | .ret a, t, σ => Q a t σ
  | .step c k, t, σ => ∀ τ, Relation.ReflTransGen (rely t) σ τ → ∀ e r τ',
      S.exec c e τ = some (r, τ') → (k r).Assured S rely Q (⟨c, r⟩ :: t) τ'

namespace Program

variable {rely : Trace I → S.State → S.State → Prop} {Q Q' : α → Trace I → S.State → Prop}
  {p : Program I α} {t : Trace I} {σ τ : S.State}

theorem Assured.mono (h : p.Assured S rely Q t σ) (hQ : ∀ a t σ, Q a t σ → Q' a t σ) :
    p.Assured S rely Q' t σ := by
  induction p generalizing t σ with
  | ret a => exact hQ a t σ h
  | step c k ih => exact fun τ hτ e r τ' hr => ih r (h τ hτ e r τ' hr)

theorem Assured.bind {f : α → Program I β} {Q : β → Trace I → S.State → Prop}
    (h : p.Assured S rely (fun a => (f a).Assured S rely Q) t σ) : (p >>= f).Assured S rely Q t σ := by
  induction p generalizing t σ with
  | ret a => exact h
  | step c k ih => exact fun τ hτ e r τ' hr => ih r (h τ hτ e r τ' hr)

theorem Assured.of_forall (h : ∀ a t σ, Q a t σ) : p.Assured S rely Q t σ := by
  induction p generalizing t σ with
  | ret a => exact h a t σ
  | step c k ih => exact fun τ _ e r τ' _ => ih r

theorem Assured.step {P : S.State → Prop} {c : I.Cmd} {k : I.Ans c → Program I α}
    (hkeep : ∀ {σ τ}, P σ → rely t σ τ → P τ) (hP : P σ)
    (h : ∀ {e r τ τ'}, P τ → S.exec c e τ = some (r, τ') → (k r).Assured S rely Q (⟨c, r⟩ :: t) τ') :
    (Program.step c k).Assured S rely Q t σ := by
  intro τ hτ e r τ' hr
  have hkept : P τ := by
    clear hr
    induction hτ with
    | refl => exact hP
    | tail _ hstep ih => exact hkeep ih hstep
  exact h hkept hr

theorem Assured.alone {envs : Nat → S.Env} {σ' : S.State} {t' : Trace I} {a : α} (h : p.Assured S rely Q t σ)
    (hr : p.alone S envs σ t = some (a, σ', t')) : Q a t' σ' := by
  induction p generalizing envs σ t with
  | ret b =>
    cases hr
    exact h
  | step c k ih =>
    obtain ⟨r, τ, hexec, hr⟩ := Program.alone_step hr
    exact ih r (h σ .refl _ r τ hexec) hr

theorem alone_isSome_of_all {P : I.Cmd → Prop} (hready : ∀ c, P c → ∀ e σ, (S.exec c e σ).isSome)
    (h : p.All P fun _ _ => True) {envs : Nat → S.Env} : (p.alone S envs σ t).isSome := by
  induction p generalizing envs σ t with
  | ret a => rfl
  | step c k ih =>
    obtain ⟨⟨r, τ⟩, hr⟩ := Option.isSome_iff_exists.mp (hready c h.1 (envs 0) σ)
    simp only [Program.alone, hr, Option.bind_some]
    exact ih r (h.2 r trivial)

end Program

theorem Action.assured_bind {ε : Type} {rely : Trace I → S.State → S.State → Prop}
    {Q : Except ε β → Trace I → S.State → Prop} {x : Action I ε α} {f : α → Action I ε β} {t : Trace I} {σ : S.State}
    (h : x.run.Assured S rely (fun
      | .ok a => (f a).run.Assured S rely Q
      | .error e => Q (.error e)) t σ) : (x >>= f).run.Assured S rely Q t σ := by
  rw [ExceptT.run_bind]
  apply Program.Assured.bind
  apply h.mono
  intro r t σ hr
  cases r <;> exact hr

section

variable {rely : S.Op → Trace I → S.State → S.State → Prop} {Q : S.Op → S.Result → Trace I → Prop}

def Thread.Assured (rely : S.Op → Trace I → S.State → S.State → Prop) (Q : S.Op → S.Result → Trace I → Prop)
    (th : Thread S) (σ : S.State) : Prop :=
  th.prog.Assured S (rely th.op) (fun a t _ => Q th.op a t) th.trace σ

variable {th th' : Thread S} {e : S.Env} {σ σ' : S.State}

theorem Thread.Assured.advance (h : th.Assured rely Q σ) (hadv : th.advance e σ = some (th', σ')) :
    th'.Assured rely Q σ' := by
  obtain ⟨c, k, r, hp, hr, rfl⟩ := Thread.advance_cases hadv
  unfold Thread.Assured at h
  rw [hp] at h
  exact h σ .refl e r σ' hr

theorem Thread.Assured.stable (h : th.Assured rely Q σ) (hr : th.active → rely th.op th.trace σ σ') :
    th.Assured rely Q σ' := by
  unfold Thread.Assured at *
  cases hp : th.prog with
  | ret a => rwa [hp] at h
  | step c k =>
    rw [hp] at h
    exact fun τ hτ => h τ (hτ.head (hr (Thread.active_iff.mpr ⟨c, k, hp⟩)))

theorem Thread.Assured.result {a : S.Result} (h : th.Assured rely Q σ) (hr : th.result = some a) :
    Q th.op a th.trace := by
  unfold Thread.Assured at h
  rwa [Thread.prog_of_result hr] at h

theorem Reach.assured {ok : Config S → Label S → Config S → Prop} {σ₀ : S.State} {c : Config S}
    (h : Reach ok ⟨σ₀, []⟩ c)
    (hbody : ∀ op σ, (S.body op).Assured S (rely op) (fun a t _ => Q op a t) [] σ)
    (hok : ∀ {c l c'}, c.step l = some c' → ok c l c' → ∀ th ∈ c.threads, th.active →
      rely th.op th.trace c.shared c'.shared) :
    ∀ th ∈ c.threads, th.Assured rely Q c.shared := by
  induction h with
  | init => simp
  | @step c l c' _ hs ho ih =>
    have hkept : ∀ th ∈ c.threads, th.Assured rely Q c'.shared :=
      fun th hth => (ih th hth).stable (hok hs ho th hth)
    intro u hu
    cases l with
    | invoke op e =>
      obtain ⟨th, hadv, hth⟩ := Config.step_invoke hs
      rcases Config.mem_invoke (hth ▸ hu) with hu | rfl
      · exact hkept u hu
      · have hstart : (Thread.start op).Assured rely Q c.shared := hbody op c.shared
        exact hstart.advance hadv
    | run i e =>
      obtain ⟨th, th', hi, hadv, hth⟩ := Config.step_run hs
      rcases List.mem_or_eq_of_mem_set (hth ▸ hu) with hu | rfl
      · exact hkept u hu
      · exact (ih th (List.mem_of_getElem? hi)).advance hadv

end

def Program.head : Program I α → Option I.Cmd
  | .ret _ => none
  | .step c _ => some c

def Config.next (c : Config S) : Label S → Option I.Cmd
  | .invoke op _ => (S.body op).head
  | .run i _ => c.threads[i]?.bind fun th => th.prog.head

def Config.caller (c : Config S) : Label S → Option S.Op
  | .invoke op _ => some op
  | .run i _ => c.threads[i]?.map (·.op)

def Label.env : Label S → S.Env
  | .invoke _ e | .run _ e => e

theorem Thread.advance_head {th th' : Thread S} {e : S.Env} {σ σ' : S.State}
    (h : th.advance e σ = some (th', σ')) : ∃ c r, th.prog.head = some c ∧ S.exec c e σ = some (r, σ') := by
  obtain ⟨c, k, r, hp, hr, -⟩ := Thread.advance_cases h
  exact ⟨c, r, by rw [hp]; rfl, hr⟩

theorem Config.step_next {c c' : Config S} {l : Label S} (h : c.step l = some c') :
    ∃ cmd e r, c.next l = some cmd ∧ S.exec cmd e c.shared = some (r, c'.shared) := by
  cases l with
  | invoke op e =>
    obtain ⟨th, hadv, -⟩ := Config.step_invoke h
    obtain ⟨cmd, r, hhead, hr⟩ := Thread.advance_head hadv
    exact ⟨cmd, e, r, hhead, hr⟩
  | run i e =>
    obtain ⟨th, th', hi, hadv, -⟩ := Config.step_run h
    obtain ⟨cmd, r, hhead, hr⟩ := Thread.advance_head hadv
    exact ⟨cmd, e, r, by rw [Config.next, hi]; exact hhead, hr⟩

/-- What every step makes sure of for the answers to some calls holds of all that they have been answered. -/
theorem Reach.heard {ok : Config S → Label S → Config S → Prop} {A : (c : I.Cmd) → I.Ans c → Prop}
    {c₀ c : Config S} (h : Reach ok c₀ c) (concerns : S.Op → Prop)
    (hinit : ∀ th ∈ c₀.threads, concerns th.op → ∀ ev ∈ th.trace, A ev.1 ev.2)
    (hok : ∀ {c l c'}, ok c l c' → ∀ op ∈ c.caller l, concerns op → ∀ cmd ∈ c.next l,
      ∀ p ∈ S.exec cmd l.env c.shared, A cmd p.1) :
    ∀ th ∈ c.threads, concerns th.op → ∀ ev ∈ th.trace, A ev.1 ev.2 := by
  induction h with
  | init => exact hinit
  | @step c l c' _ hs ho ih =>
    have hadvance : ∀ {th th' : Thread S} {σ : S.State}, th.op ∈ c.caller l → th.prog.head = c.next l →
        (concerns th.op → ∀ ev ∈ th.trace, A ev.1 ev.2) → th.advance l.env c.shared = some (th', σ) →
          concerns th'.op → ∀ ev ∈ th'.trace, A ev.1 ev.2 := by
      intro th th' σ hop hnext htrace hadv hc
      obtain ⟨cmd, k, r, hp, hexec, rfl⟩ := Thread.advance_cases hadv
      rw [hp] at hnext
      exact List.forall_mem_cons.mpr ⟨hok ho th.op hop hc cmd hnext.symm _ hexec, htrace hc⟩
    intro u hu
    cases l with
    | invoke op e =>
      obtain ⟨th, hadv, hths⟩ := Config.step_invoke hs
      rcases Config.mem_invoke (hths ▸ hu) with hu | rfl
      · exact ih u hu
      · exact hadvance rfl rfl (fun _ ev hev => by cases hev) hadv
    | run i e =>
      obtain ⟨th, th', hi, hadv, hths⟩ := Config.step_run hs
      rcases List.mem_or_eq_of_mem_set (hths ▸ hu) with hu | rfl
      · exact ih u hu
      · exact hadvance (by simp [Config.caller, hi]) (by simp [Config.next, hi]) (ih th (List.mem_of_getElem? hi)) hadv

end Gr4ControlPlane.Interleaving
