import Gr4ControlPlane.Selection.Comparison

namespace Gr4ControlPlane.Selection

variable {α : Type} {lt : α → α → Prop} {xs : List α}

/-- Of equal neighbours only one is kept. -/
def unique [DecidableEq α] : List α → List α
  | [] => []
  | [a] => [a]
  | a :: b :: xs => if a = b then unique (b :: xs) else a :: unique (b :: xs)

def sortUnique [DecidableEq α] (lt : α → α → Prop) [DecidableRel lt] (xs : List α) : List α :=
  unique (xs.mergeSort fun a b => !decide (lt b a))

theorem mem_unique [DecidableEq α] {a : α} : a ∈ unique xs ↔ a ∈ xs := by
  induction xs with
  | nil => rfl
  | cons b xs ih =>
    cases xs with
    | nil => rfl
    | cons c xs =>
      rw [unique]
      split
      · next heq =>
        subst heq
        simp [ih]
      · rw [List.mem_cons, ih]
        exact List.mem_cons.symm

theorem StrictOrderBy.pairwise_unique [DecidableEq α] (h : StrictOrderBy lt id) (hxs : xs.Pairwise fun a b => ¬ lt b a) :
    (unique xs).Pairwise lt := by
  induction xs with
  | nil => exact .nil
  | cons a xs ih =>
    cases xs with
    | nil => exact List.pairwise_singleton _ _
    | cons b xs =>
      obtain ⟨ha, hxs⟩ := List.pairwise_cons.mp hxs
      rw [unique]
      split
      · exact ih hxs
      · next hne =>
        refine List.pairwise_cons.mpr ⟨fun c hc => ?_, ih hxs⟩
        have hab : lt a b := (h.total a b hne).resolve_right (ha b List.mem_cons_self)
        rcases List.mem_cons.mp (mem_unique.mp hc) with rfl | hc
        · exact hab
        · -- `b` comes first among what is left
          exact (h.cotrans a c b hab).resolve_right ((List.pairwise_cons.mp hxs).1 c hc)

section

variable [DecidableEq α] [DecidableRel lt]

theorem mem_sortUnique {a : α} : a ∈ sortUnique lt xs ↔ a ∈ xs :=
  mem_unique.trans (List.mergeSort_perm _ _).mem_iff

theorem StrictOrderBy.sortUnique_sorted (h : StrictOrderBy lt id) : (sortUnique lt xs).Pairwise lt := by
  apply h.pairwise_unique
  refine (List.pairwise_mergeSort ?_ ?_ xs).imp fun hab => by simpa using hab
  · intro a b c hab hbc
    simp only [Bool.not_eq_true', decide_eq_false_iff_not] at hab hbc ⊢
    exact fun hca => (h.cotrans c b a hca).elim hbc hab
  · intro a b
    simp only [Bool.or_eq_true, Bool.not_eq_true', decide_eq_false_iff_not]
    by_cases hba : lt b a
    · exact .inr (h.asymm b a hba)
    · exact .inl hba

end

end Gr4ControlPlane.Selection
