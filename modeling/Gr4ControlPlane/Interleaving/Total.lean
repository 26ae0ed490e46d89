import Gr4ControlPlane.Interleaving.Alone

namespace Gr4ControlPlane.Interleaving

variable {I : Interface} {S : System I} {α β ε : Type}

def Program.total (S : System I) (Q : α → S.State → Trace I → Prop) :
    Program I α → S.State → Trace I → Prop
  | .ret a, σ, t => Q a σ t
  | .step c k, σ, t => ∀ e, ∃ r τ, S.exec c e σ = some (r, τ) ∧ (k r).total S Q τ (⟨c, r⟩ :: t)

section

variable {p : Program I α} {Q R : α → S.State → Trace I → Prop} {σ : S.State} {t : Trace I}

theorem Program.total_mono (hQ : ∀ a σ t, Q a σ t → R a σ t) (h : p.total S Q σ t) : p.total S R σ t := by
  induction p generalizing σ t with
  | ret a => exact hQ a σ t h
  | step c k ih =>
    intro e
    obtain ⟨r, τ, hr, hk⟩ := h e
    exact ⟨r, τ, hr, ih r hk⟩

theorem Program.total_bind {f : α → Program I β} {Q : β → S.State → Trace I → Prop}
    (h : p.total S (fun a => (f a).total S Q) σ t) : (p >>= f).total S Q σ t := by
  induction p generalizing σ t with
  | ret a => exact h
  | step c k ih =>
    intro e
    obtain ⟨r, τ, hr, hk⟩ := h e
    exact ⟨r, τ, hr, ih r hk⟩

theorem Program.total.alone (h : p.total S Q σ t) (envs : Nat → S.Env) :
    ∃ a σ' t', p.alone S envs σ t = some (a, σ', t') ∧ Q a σ' t' := by
  induction p generalizing envs σ t with
  | ret a => exact ⟨a, σ, t, rfl, h⟩
  | step c k ih =>
    obtain ⟨r, τ, hr, hk⟩ := h (envs 0)
    obtain ⟨a, σ', t', hrun, hQ⟩ := ih r hk fun n => envs (n + 1)
    exact ⟨a, σ', t', (Program.alone_of_exec hr).trans hrun, hQ⟩

end

namespace Action

def total (S : System I) (Q : Except ε α → S.State → Trace I → Prop) (x : Action I ε α) :
    S.State → Trace I → Prop :=
  x.run.total S Q

variable {x : Action I ε α} {Q R : Except ε α → S.State → Trace I → Prop} {σ : S.State} {t : Trace I}

theorem total_mono (hQ : ∀ a σ t, Q a σ t → R a σ t) (h : x.total S Q σ t) : x.total S R σ t :=
  Program.total_mono hQ h

theorem total_seq {f : α → Action I ε β} {Q : Except ε β → S.State → Trace I → Prop}
    (h : x.total S (fun
      | .ok a => (f a).total S Q
      | .error err => Q (.error err)) σ t) : (x >>= f).total S Q σ t := by
  unfold total
  rw [ExceptT.run_bind]
  refine Program.total_bind (Program.total_mono ?_ h)
  intro a σ t h
  cases a <;> exact h

theorem total_attempt {Q : Except ε (Except ε α) → S.State → Trace I → Prop}
    (h : x.total S (fun r => Q (.ok r)) σ t) : x.attempt.total S Q σ t := by
  unfold total attempt
  rw [ExceptT.run_lift, map_eq_pure_bind]
  exact Program.total_bind h

theorem total_perform {c : I.Cmd} {f : I.Ans c → Except ε α}
    (h : ∀ e, ∃ r τ, S.exec c e σ = some (r, τ) ∧ Q (f r) τ (⟨c, r⟩ :: t)) :
    (perform c f).total S Q σ t := h

theorem total_call {c : I.Cmd} {Q : Except ε (I.Ans c) → S.State → Trace I → Prop}
    (h : ∀ e, ∃ r τ, S.exec c e σ = some (r, τ) ∧ Q (.ok r) τ (⟨c, r⟩ :: t)) :
    (call c).total S Q σ t := h

end Action

end Gr4ControlPlane.Interleaving
