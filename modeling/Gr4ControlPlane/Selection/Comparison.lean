import Mathlib.Data.List.Basic
import Mathlib.Order.Basic

namespace Gr4ControlPlane.Selection

variable {α β τ : Type} {lt : β → β → Prop} {next r : α → α → Prop} {f : α → β} {tag : α → τ} {xs ys : List α}

/-- A strict weak order that tells apart whatever the tag does. -/
structure StrictOrderBy (r : α → α → Prop) (tag : α → τ) : Prop where
  asymm : ∀ a b, r a b → ¬ r b a
  cotrans : ∀ a b c, r a c → r a b ∨ r b c
  total : ∀ a b, tag a ≠ tag b → r a b ∨ r b a

/-- The values of `f` are compared first. -/
def LexBy (f : α → β) (lt : β → β → Prop) (next : α → α → Prop) (a b : α) : Prop :=
  lt (f a) (f b) ∨ f a = f b ∧ next a b

theorem lexBy_iff [DecidableEq β] {a b : α} {first rest : Bool} (hirrefl : ∀ x, ¬ lt x x)
    (hfirst : f a ≠ f b → (first ↔ lt (f a) (f b))) (hrest : rest ↔ next a b) :
    (if f a ≠ f b then first else rest) ↔ LexBy f lt next a b := by
  unfold LexBy
  by_cases h : f a = f b
  · rw [if_neg (not_not_intro h), hrest, h, or_iff_right (hirrefl _), and_iff_right rfl]
  · rw [if_pos h, hfirst h, or_iff_left fun hand => h hand.1]

namespace StrictOrderBy

theorem irrefl (h : StrictOrderBy r tag) (a : α) : ¬ r a a := fun haa => h.asymm a a haa haa

theorem trans (h : StrictOrderBy r tag) {a b c : α} (hab : r a b) (hbc : r b c) : r a c :=
  (h.cotrans a c b hab).resolve_right (h.asymm b c hbc)

theorem of_tag {lt : τ → τ → Prop} (h : StrictOrderBy lt id) : StrictOrderBy (fun a b => lt (tag a) (tag b)) tag where
  asymm a b := h.asymm (tag a) (tag b)
  cotrans a b c := h.cotrans (tag a) (tag b) (tag c)
  total a b := h.total (tag a) (tag b)

theorem lexBy (hlt : StrictOrderBy lt id) (hnext : StrictOrderBy next tag) : StrictOrderBy (LexBy f lt next) tag where
  asymm a b hab hba := by
    rcases hab with hab | ⟨heq, hab⟩
    · rcases hba with hba | ⟨heq, -⟩
      · exact hlt.asymm _ _ hab hba
      · exact hlt.irrefl _ (heq ▸ hab)
    · rcases hba with hba | ⟨-, hba⟩
      · exact hlt.irrefl _ (heq ▸ hba)
      · exact hnext.asymm _ _ hab hba
  cotrans a b c hac := by
    rcases hac with hac | ⟨heq, hac⟩
    · exact (hlt.cotrans _ (f b) _ hac).imp .inl .inl
    · by_cases hab : f a = f b
      · exact (hnext.cotrans _ b _ hac).imp (fun h => .inr ⟨hab, h⟩) fun h => .inr ⟨hab.symm.trans heq, h⟩
      · exact (hlt.total (f a) (f b) hab).imp .inl fun h => .inl (heq ▸ h)
  total a b hne := by
    by_cases heq : f a = f b
    · exact (hnext.total a b hne).imp (fun h => .inr ⟨heq, h⟩) fun h => .inr ⟨heq.symm, h⟩
    · exact (hlt.total (f a) (f b) heq).imp .inl .inl

theorem pairwise_mergeSort [DecidableRel r] (h : StrictOrderBy r tag) (htags : (xs.map tag).Nodup) :
    (xs.mergeSort fun a b => !decide (r b a)).Pairwise r := by
  have hperm := List.mergeSort_perm xs fun a b => !decide (r b a)
  have hsorted : (xs.mergeSort fun a b => !decide (r b a)).Pairwise fun a b => (!decide (r b a)) = true := by
    apply List.pairwise_mergeSort
    · intro a b c hab hbc
      simp only [Bool.not_eq_true', decide_eq_false_iff_not] at hab hbc ⊢
      exact fun hca => (h.cotrans c b a hca).elim hbc hab
    · intro a b
      simp only [Bool.or_eq_true, Bool.not_eq_true', decide_eq_false_iff_not]
      by_cases hba : r b a
      · exact .inr (h.asymm b a hba)
      · exact .inl hba
  rw [← (hperm.map tag).nodup_iff, List.Nodup, List.pairwise_map] at htags
  apply (hsorted.and htags).imp
  intro a b hab
  simp only [Bool.not_eq_true', decide_eq_false_iff_not] at hab
  exact (h.total a b hab.2).resolve_right hab.1

theorem eq_of_perm (h : StrictOrderBy r tag) (hxs : xs.Pairwise r) (hys : ys.Pairwise r) (hperm : xs.Perm ys) :
    xs = ys := by
  apply List.Perm.eq_of_pairwise _ hxs hys hperm
  intro a b _ _ hab hba
  exact absurd hba (h.asymm a b hab)

end StrictOrderBy

end Gr4ControlPlane.Selection
