import Gr4ControlPlane.Interleaving.Serialization

namespace Gr4ControlPlane.Interleaving

variable {I : Interface} {S : System I} {P : I.Cmd → Prop} {A : (c : I.Cmd) → I.Ans c → Prop}

theorem Program.all_of_forall {α : Type} {p : Program I α} (h : ∀ c, P c) : p.All P A := by
  induction p with
  | ret a => trivial
  | step c k ih => exact ⟨h c, fun r _ => ih r⟩

/-- The call has been answered within `A`, and all it may still do is within `P`. -/
structure Thread.Within (P : I.Cmd → Prop) (A : (c : I.Cmd) → I.Ans c → Prop) (th : Thread S) : Prop where
  prog : th.prog.All P A
  trace : ∀ ev ∈ th.trace, A ev.1 ev.2

theorem Thread.Within.advance {Inv : S.State → Prop} {th th' : Thread S} {e : S.Env} {σ σ' : S.State}
    (h : th.Within P A) (hi : Inv σ) (hadv : th.advance e σ = some (th', σ'))
    (hexec : ∀ {c e σ r σ'}, P c → Inv σ → S.exec c e σ = some (r, σ') → Inv σ' ∧ A c r) : Inv σ' ∧ th'.Within P A := by
  obtain ⟨c, k, r, hp, hr, rfl⟩ := Thread.advance_cases hadv
  have hprog := h.prog
  rw [hp] at hprog
  obtain ⟨hi', ha⟩ := hexec hprog.1 hi hr
  refine ⟨hi', hprog.2 r ha, fun ev hev => ?_⟩
  cases hev with
  | head => exact ha
  | tail _ hev => exact h.trace ev hev

theorem Reach.within {ok : Config S → Label S → Config S → Prop} {Inv : S.State → Prop} {σ : S.State} {c : Config S}
    (h : Reach ok ⟨σ, []⟩ c) (hinit : Inv σ) (hbody : ∀ op, (S.body op).All P A)
    (hexec : ∀ {c e σ r σ'}, P c → Inv σ → S.exec c e σ = some (r, σ') → Inv σ' ∧ A c r) :
    Inv c.shared ∧ ∀ th ∈ c.threads, th.Within P A := by
  induction h with
  | init => exact ⟨hinit, fun th hth => by cases hth⟩
  | @step c l c' _ hs _ ih =>
    obtain ⟨hi, hall⟩ := ih
    cases l with
    | invoke op e =>
      obtain ⟨th, hadv, hths⟩ := Config.step_invoke hs
      have hstart : (Thread.start op : Thread S).Within P A := ⟨hbody op, fun ev hev => by cases hev⟩
      obtain ⟨hi', hth⟩ := hstart.advance hi hadv hexec
      refine ⟨hi', fun u hu => ?_⟩
      rcases Config.mem_invoke (hths ▸ hu) with hu | rfl
      · exact hall u hu
      · exact hth
    | run i e =>
      obtain ⟨th, th', hat, hadv, hths⟩ := Config.step_run hs
      obtain ⟨hi', hth⟩ := (hall th (List.mem_of_getElem? hat)).advance hi hadv hexec
      refine ⟨hi', fun u hu => ?_⟩
      rcases List.mem_or_eq_of_mem_set (hths ▸ hu) with hu | rfl
      · exact hall u hu
      · exact hth

end Gr4ControlPlane.Interleaving
