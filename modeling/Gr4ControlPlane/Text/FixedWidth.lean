import Mathlib.Algebra.Group.Nat.Defs
import Mathlib.Data.List.Basic

namespace Gr4ControlPlane.Text

variable {α : Type}

section

variable [LT α] {first first' rest rest' : List α}

theorem append_lt_append (hlength : first.length = first'.length) (h : first < first' ∨ first = first' ∧ rest < rest') :
    first ++ rest < first' ++ rest' := by
  induction first generalizing first' with
  | nil =>
    obtain rfl : first' = [] := List.length_eq_zero_iff.mp hlength.symm
    rcases h with h | ⟨-, h⟩
    · exact absurd h (List.not_lt_nil _)
    · exact h
  | cons a first ih =>
    cases first' with
    | nil => cases hlength
    | cons b first' =>
      have htail : first.length = first'.length := Nat.succ.inj hlength
      rw [List.cons_append, List.cons_append, List.cons_lt_cons_iff]
      rcases h with h | ⟨heq, h⟩
      · rcases List.cons_lt_cons_iff.mp h with hhead | ⟨rfl, hlt⟩
        · exact .inl hhead
        · exact .inr ⟨rfl, ih htail (.inl hlt)⟩
      · obtain ⟨rfl, rfl⟩ := List.cons.inj heq
        exact .inr ⟨rfl, ih htail (.inr ⟨rfl, h⟩)⟩

end

def positional (digit : Nat → α) (base : Nat) : Nat → Nat → List α
  | 0, _ => []
  | width + 1, n => positional digit base width (n / base) ++ [digit (n % base)]

variable {digit : Nat → α} {base : Nat}

@[simp] theorem length_positional (width n : Nat) : (positional digit base width n).length = width := by
  induction width generalizing n with
  | zero => rfl
  | succ width ih => rw [positional, List.length_append, ih, List.length_singleton]

variable [LT α] {rest rest' : List α}

theorem positional_lt (hbase : 0 < base) (hdigit : ∀ i j, i < j → j < base → digit i < digit j) {width m n : Nat}
    (hlt : m < n) (hn : n < base ^ width) : positional digit base width m < positional digit base width n := by
  induction width generalizing m n with
  | zero => exact absurd (Nat.lt_one_iff.mp hn) (Nat.ne_of_gt (Nat.zero_lt_of_lt hlt))
  | succ width ih =>
    have hquotient : n / base < base ^ width := Nat.div_lt_of_lt_mul (by rwa [← Nat.pow_succ'])
    apply append_lt_append (by simp)
    rcases Nat.lt_or_eq_of_le (Nat.div_le_div_right (Nat.le_of_lt hlt)) with h | h
    · exact .inl (ih h hquotient)
    · refine .inr ⟨by rw [h], ?_⟩
      have hrest : m % base < n % base := by
        have hm := Nat.div_add_mod m base
        have hn := Nat.div_add_mod n base
        rw [h] at hm
        omega
      exact List.cons_lt_cons_iff.mpr (.inl (hdigit _ _ hrest (Nat.mod_lt _ hbase)))

theorem positional_append_lt (hbase : 0 < base) (hdigit : ∀ i j, i < j → j < base → digit i < digit j)
    {width m n : Nat} (hn : n < base ^ width) (h : m < n ∨ m = n ∧ rest < rest') :
    positional digit base width m ++ rest < positional digit base width n ++ rest' := by
  apply append_lt_append (by simp)
  rcases h with h | ⟨rfl, h⟩
  · exact .inl (positional_lt hbase hdigit h hn)
  · exact .inr ⟨rfl, h⟩

end Gr4ControlPlane.Text
