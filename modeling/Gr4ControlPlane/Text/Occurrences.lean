import Mathlib.Data.List.Infix

/-! Where a word occurs in a text that is put together from several. -/

namespace Gr4ControlPlane.Text

variable {α : Type} {word text before after : List α}

def Begins (word text : List α) : Prop := ∃ k < word.length, 0 < k ∧ word.take k <:+ text

def Ends (word text : List α) : Prop := ∃ k < word.length, 0 < k ∧ word.drop k <+: text

instance [DecidableEq α] : Decidable (Begins word text) :=
  inferInstanceAs (Decidable (∃ k < word.length, 0 < k ∧ word.take k <:+ text))

instance [DecidableEq α] : Decidable (Ends word text) :=
  inferInstanceAs (Decidable (∃ k < word.length, 0 < k ∧ word.drop k <+: text))

/-- An occurrence in two texts lies in one of them, or begins in the first and ends in the second. -/
theorem infix_append_cases (h : word <:+: before ++ after) :
    word <:+: before ∨ word <:+: after ∨
      ∃ k < word.length, 0 < k ∧ word.take k <:+ before ∧ word.drop k <+: after := by
  rcases List.infix_append_iff_ne_nil.mp h with h | h | ⟨first, last, hfirst, hlast, rfl, hbefore, hafter⟩
  · exact .inl h
  · exact .inr (.inl h)
  · have hpos := List.length_pos_iff.mpr hlast
    refine .inr (.inr ⟨first.length, ?_, List.length_pos_iff.mpr hfirst, ?_, ?_⟩)
    · rw [List.length_append]
      omega
    · rwa [List.take_left]
    · rwa [List.drop_left]

theorem infix_append_of_not_begins (h : ¬ Begins word before) :
    word <:+: before ++ after ↔ word <:+: before ∨ word <:+: after := by
  constructor
  · intro hword
    rcases infix_append_cases hword with hbefore | hafter | ⟨k, hk, hpos, htake, -⟩
    · exact .inl hbefore
    · exact .inr hafter
    · exact absurd ⟨k, hk, hpos, htake⟩ h
  · rintro (hbefore | hafter)
    · exact List.infix_append_of_infix_left hbefore
    · exact List.infix_append_of_infix_right hafter

theorem infix_append_of_not_ends (hlength : word.length ≤ text.length) (h : ¬ Ends word text) :
    word <:+: before ++ (text ++ after) ↔ word <:+: before ∨ word <:+: text ++ after := by
  constructor
  · intro hword
    rcases infix_append_cases hword with hbefore | hafter | ⟨k, hk, hpos, -, hdrop⟩
    · exact .inl hbefore
    · exact .inr hafter
    · have htext : word.drop k <+: text := by
        refine List.prefix_of_prefix_length_le hdrop (List.prefix_append text after) ?_
        rw [List.length_drop]
        omega
      exact absurd ⟨k, hk, hpos, htext⟩ h
  · rintro (hbefore | hafter)
    · exact List.infix_append_of_infix_left hbefore
    · exact List.infix_append_of_infix_right hafter

end Gr4ControlPlane.Text
