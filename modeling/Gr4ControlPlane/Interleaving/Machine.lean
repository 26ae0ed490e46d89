import Mathlib.Logic.Basic

namespace Gr4ControlPlane.Interleaving

structure Machine (S L : Type) where
  init : S
  step : S → L → Option S

namespace Machine

variable {S L : Type} {M : Machine S L}

inductive Reachable (M : Machine S L) : S → Prop
  | init : M.Reachable M.init
  | step {s l s'} : M.Reachable s → M.step s l = some s' → M.Reachable s'

def run (M : Machine S L) : S → List L → Option S
  | s, [] => some s
  | s, l :: ls => (M.step s l).bind (M.run · ls)

theorem Reachable.of_run {s t : S} {ls : List L} (hs : M.Reachable s) (h : M.run s ls = some t) : M.Reachable t := by
  induction ls generalizing s with
  | nil => cases h; exact hs
  | cons l ls ih =>
    obtain ⟨s', hl, h⟩ := Option.bind_eq_some_iff.mp h
    exact ih (hs.step hl) h

theorem Reachable.invariant {P : S → Prop} {s : S} (h : M.Reachable s) (hinit : P M.init)
    (hstep : ∀ {s l s'}, P s → M.step s l = some s' → P s') : P s := by
  induction h with
  | init => exact hinit
  | step _ hs ih => exact hstep ih hs

theorem run_length {s t : S} {ls : List L} (work : S → Nat) (hstep : ∀ {s l s'}, M.step s l = some s' → work s' < work s)
    (h : M.run s ls = some t) : ls.length + work t ≤ work s := by
  induction ls generalizing s with
  | nil =>
    cases h
    exact Nat.le_of_eq (Nat.zero_add _)
  | cons l ls ih =>
    obtain ⟨s', hl, h⟩ := Option.bind_eq_some_iff.mp h
    have hrest := ih h
    have hlt := hstep hl
    rw [List.length_cons]
    omega

def restrict (M : Machine S L) (kind : L → Bool) : Machine S L where
  init := M.init
  step s l := if kind l then M.step s l else none

theorem restrict_step {kind : L → Bool} {s s' : S} {l : L} (h : (M.restrict kind).step s l = some s') :
    kind l ∧ M.step s l = some s' := Option.ite_none_right_eq_some.mp h

theorem run_restrict {kind : L → Bool} {s t : S} {ls : List L} (hkind : ∀ l ∈ ls, kind l) (h : M.run s ls = some t) :
    (M.restrict kind).run s ls = some t := by
  induction ls generalizing s with
  | nil => exact h
  | cons l ls ih =>
    obtain ⟨s', hl, h⟩ := Option.bind_eq_some_iff.mp h
    rw [List.forall_mem_cons] at hkind
    exact Option.bind_eq_some_iff.mpr ⟨s', (if_pos hkind.1).trans hl, ih hkind.2 h⟩

end Machine

end Gr4ControlPlane.Interleaving
