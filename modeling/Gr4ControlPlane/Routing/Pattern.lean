import Mathlib.Data.List.TakeWhile

/-! Patterns of literals and captures, the part of regular expressions that routes are written in. -/

namespace Gr4ControlPlane.Routing

variable {α : Type}

/-- A text as it stands, or a group `([..]+)` over a class of symbols. -/
inductive Piece (α : Type) : Type
  | literal (word : List α)
  | capture (allowed : α → Bool)

abbrev Pattern (α : Type) := List (Piece α)

inductive Matches : Pattern α → List α → List (List α) → Prop
  | nil : Matches [] [] []
  | literal {word rest groups pattern} : Matches pattern rest groups →
      Matches (.literal word :: pattern) (word ++ rest) groups
  | capture {allowed group rest groups pattern} : group ≠ [] → (∀ a ∈ group, allowed a = true) →
      Matches pattern rest groups → Matches (.capture allowed :: pattern) (group ++ rest) (group :: groups)

/-- A match of the whole text; a group takes as much as it can and gives back what it must. -/
def regexMatch [DecidableEq α] : Pattern α → List α → Option (List (List α))
  | [], text => if text.isEmpty then some [] else none
  | .literal word :: pattern, text =>
    if word.isPrefixOf text then regexMatch pattern (text.drop word.length) else none
  | .capture allowed :: pattern, text =>
    (List.range (text.takeWhile allowed).length).reverse.findSome? fun n =>
      (regexMatch pattern (text.drop (n + 1))).map (text.take (n + 1) :: ·)

/-- Where a group ends is never in doubt: a symbol follows that it cannot hold, or nothing but literals. -/
inductive Anchored : Pattern α → Prop
  | nil : Anchored []
  | literal {word pattern} : Anchored pattern → Anchored (.literal word :: pattern)
  | before {allowed : α → Bool} {a : α} {word pattern} : allowed a = false → Anchored pattern →
      Anchored (.capture allowed :: .literal (a :: word) :: pattern)
  | last {allowed : α → Bool} {pattern} : (∀ piece ∈ pattern, ∃ word, piece = .literal word) →
      Anchored (.capture allowed :: pattern)

variable {pattern : Pattern α} {text word : List α} {groups groups' : List (List α)} {allowed : α → Bool}

theorem matches_nil : Matches [] text groups ↔ text = [] ∧ groups = [] := by
  constructor
  · rintro ⟨⟩
    exact ⟨rfl, rfl⟩
  · rintro ⟨rfl, rfl⟩
    exact .nil

theorem matches_literal : Matches (.literal word :: pattern) text groups ↔
    ∃ rest, text = word ++ rest ∧ Matches pattern rest groups := by
  constructor
  · rintro ⟨⟩
    exact ⟨_, rfl, ‹_›⟩
  · rintro ⟨rest, rfl, h⟩
    exact .literal h

theorem matches_capture : Matches (.capture allowed :: pattern) text groups ↔
    ∃ group rest groups', text = group ++ rest ∧ groups = group :: groups' ∧ group ≠ [] ∧
      (∀ a ∈ group, allowed a = true) ∧ Matches pattern rest groups' := by
  constructor
  · rintro ⟨⟩
    exact ⟨_, _, _, rfl, rfl, ‹_›, ‹_›, ‹_›⟩
  · rintro ⟨group, rest, groups', rfl, rfl, hne, hall, h⟩
    exact .capture hne hall h

section

variable [DecidableEq α]

theorem regexMatch_sound (h : regexMatch pattern text = some groups) : Matches pattern text groups := by
  induction pattern generalizing text groups with
  | nil =>
    simp only [regexMatch, List.isEmpty_iff, Option.ite_none_right_eq_some, Option.some.injEq] at h
    exact matches_nil.mpr ⟨h.1, h.2.symm⟩
  | cons piece pattern ih =>
    cases piece with
    | literal word =>
      simp only [regexMatch, List.isPrefixOf_iff_prefix, Option.ite_none_right_eq_some] at h
      obtain ⟨⟨rest, rfl⟩, h⟩ := h
      rw [List.drop_left] at h
      exact .literal (ih h)
    | capture allowed =>
      rw [regexMatch] at h
      obtain ⟨n, hn, h⟩ := List.exists_of_findSome?_eq_some h
      obtain ⟨groups, hrest, rfl⟩ := Option.map_eq_some_iff.mp h
      rw [List.mem_reverse, List.mem_range] at hn
      have htaken : text.take (n + 1) <+: text.takeWhile allowed :=
        List.prefix_of_prefix_length_le (List.take_prefix _ _) (List.takeWhile_prefix _)
          ((List.length_take_le _ _).trans hn)
      have hne : text.take (n + 1) ≠ [] := by
        have hlong := hn.trans_le (List.takeWhile_prefix allowed).length_le
        rw [← List.length_pos_iff, List.length_take]
        omega
      have hmatch := Matches.capture hne (fun a ha => List.mem_takeWhile_imp (htaken.subset ha)) (ih hrest)
      rwa [List.take_append_drop] at hmatch

theorem regexMatch_complete (h : Matches pattern text groups) : (regexMatch pattern text).isSome := by
  induction h with
  | nil => rfl
  | @literal word rest groups pattern _ ih =>
    rw [regexMatch, if_pos (List.isPrefixOf_iff_prefix.mpr (List.prefix_append _ _)), List.drop_left]
    exact ih
  | @capture allowed group rest groups pattern hne hall _ ih =>
    rw [regexMatch, List.findSome?_isSome_iff]
    have hlength := List.length_pos_iff.mpr hne
    have hgreedy : group.length ≤ ((group ++ rest).takeWhile allowed).length := by
      rw [List.takeWhile_append_of_pos hall, List.length_append]
      omega
    refine ⟨group.length - 1, ?_, ?_⟩
    · rw [List.mem_reverse, List.mem_range]
      omega
    · rw [Nat.sub_add_cancel hlength, List.drop_left, Option.isSome_map]
      exact ih

end

theorem Matches.of_literals {rest rest' : List α} (hp : ∀ piece ∈ pattern, ∃ word, piece = .literal word)
    (h : Matches pattern rest groups) (h' : Matches pattern rest' groups') : rest = rest' ∧ groups = groups' := by
  induction h generalizing rest' groups' with
  | nil =>
    obtain ⟨rfl, rfl⟩ := matches_nil.mp h'
    exact ⟨rfl, rfl⟩
  | literal _ ih =>
    obtain ⟨tail, rfl, htail⟩ := matches_literal.mp h'
    obtain ⟨rfl, rfl⟩ := ih (fun piece hpiece => hp piece (List.mem_cons_of_mem _ hpiece)) htail
    exact ⟨rfl, rfl⟩
  | capture =>
    obtain ⟨word, hword⟩ := hp _ List.mem_cons_self
    cases hword

theorem takeWhile_group {a : α} {group rest : List α} (hall : ∀ a ∈ group, allowed a = true) (ha : allowed a = false) :
    (group ++ a :: rest).takeWhile allowed = group := by
  rw [List.takeWhile_append_of_pos hall, List.takeWhile_cons_of_neg (by simp [ha]), List.append_nil]

theorem Matches.unique (hp : Anchored pattern) (h : Matches pattern text groups) (h' : Matches pattern text groups') :
    groups = groups' := by
  induction hp generalizing text groups groups' with
  | nil =>
    obtain ⟨-, rfl⟩ := matches_nil.mp h
    exact (matches_nil.mp h').2.symm
  | literal _ ih =>
    obtain ⟨rest, rfl, hrest⟩ := matches_literal.mp h
    obtain ⟨rest', heq, hrest'⟩ := matches_literal.mp h'
    obtain rfl := List.append_cancel_left heq
    exact ih hrest hrest'
  | before ha _ ih =>
    obtain ⟨group, _, groups, rfl, rfl, -, hall, htail⟩ := matches_capture.mp h
    obtain ⟨group', _, groups', heq, rfl, -, hall', htail'⟩ := matches_capture.mp h'
    obtain ⟨rest, rfl, hrest⟩ := matches_literal.mp htail
    obtain ⟨rest', rfl, hrest'⟩ := matches_literal.mp htail'
    simp only [List.cons_append] at heq
    have hgroup : group = group' := by
      rw [← takeWhile_group hall ha, heq, takeWhile_group hall' ha]
    subst hgroup
    obtain rfl : rest = rest' := by simpa using heq
    rw [ih hrest hrest']
  | last hliterals =>
    obtain ⟨group, rest, groups, rfl, rfl, -, -, hrest⟩ := matches_capture.mp h
    obtain ⟨group', rest', groups', heq, rfl, -, -, hrest'⟩ := matches_capture.mp h'
    obtain ⟨rfl, rfl⟩ := hrest.of_literals hliterals hrest'
    rw [List.append_cancel_right heq]

theorem regexMatch_eq_some [DecidableEq α] (hp : Anchored pattern) :
    regexMatch pattern text = some groups ↔ Matches pattern text groups := by
  constructor
  · exact regexMatch_sound
  · intro h
    obtain ⟨groups', hfound⟩ := Option.isSome_iff_exists.mp (regexMatch_complete h)
    rw [hfound, (regexMatch_sound hfound).unique hp h]

section

variable [DecidableEq α]

theorem regexMatch_literal (rest : List α) :
    regexMatch (.literal word :: pattern) (word ++ rest) = regexMatch pattern rest := by
  rw [regexMatch, if_pos (List.isPrefixOf_iff_prefix.mpr (List.prefix_append _ _)), List.drop_left]

theorem regexMatch_before {a : α} {group rest : List α} (hp : Anchored pattern) (ha : allowed a = false)
    (hne : group ≠ []) (hall : ∀ b ∈ group, allowed b = true) :
    regexMatch (.capture allowed :: .literal (a :: word) :: pattern) (group ++ a :: rest) =
      (regexMatch (.literal (a :: word) :: pattern) (a :: rest)).map (group :: ·) := by
  ext groups
  rw [regexMatch_eq_some (.before ha hp), Option.map_eq_some_iff, matches_capture]
  simp only [regexMatch_eq_some (Anchored.literal hp)]
  constructor
  · rintro ⟨group', _, groups', heq, rfl, -, hall', h⟩
    obtain ⟨rest', rfl, -⟩ := matches_literal.mp h
    have hgroup : group = group' := by
      rw [← takeWhile_group hall ha, heq, List.cons_append, takeWhile_group hall' ha]
    subst hgroup
    exact ⟨groups', List.append_cancel_left heq ▸ h, rfl⟩
  · rintro ⟨groups', h, rfl⟩
    exact ⟨group, _, groups', rfl, rfl, hne, hall, h⟩

theorem regexMatch_last (group : List α) :
    regexMatch [.capture allowed, .literal word] (group ++ word) =
      if !group.isEmpty && group.all allowed then some [group] else none := by
  have hiff : ∀ groups, Matches [.capture allowed, .literal word] (group ++ word) groups ↔
      groups = [group] ∧ group ≠ [] ∧ ∀ a ∈ group, allowed a = true := by
    intro groups
    rw [matches_capture]
    constructor
    · rintro ⟨group', _, _, heq, rfl, hne, hall, h⟩
      obtain ⟨_, rfl, hnil⟩ := matches_literal.mp h
      obtain ⟨rfl, rfl⟩ := matches_nil.mp hnil
      obtain rfl : group = group' := by simpa using heq
      exact ⟨rfl, hne, hall⟩
    · rintro ⟨rfl, hne, hall⟩
      exact ⟨group, word, [], rfl, rfl, hne, hall, matches_literal.mpr ⟨[], by simp, .nil⟩⟩
  have hanchored : Anchored [Piece.capture allowed, .literal word] :=
    .last fun piece hpiece => ⟨word, List.mem_singleton.mp hpiece⟩
  ext groups
  rw [regexMatch_eq_some hanchored, hiff, Option.ite_none_right_eq_some, Option.some.injEq, Bool.and_eq_true,
    Bool.not_eq_true', List.isEmpty_eq_false_iff, List.all_eq_true]
  exact ⟨fun ⟨h, h'⟩ => ⟨h', h.symm⟩, fun ⟨h', h⟩ => ⟨h.symm, h'⟩⟩

theorem regexMatch_group (group : List α) :
    regexMatch [.capture allowed] group = if !group.isEmpty && group.all allowed then some [group] else none := by
  have h := @regexMatch_last α [] allowed _ group
  rw [List.append_nil] at h
  rw [← h]
  simp [regexMatch]

theorem regexMatch_ending (h : ¬ word <:+ text) : regexMatch [.capture allowed, .literal word] text = none := by
  rw [Option.eq_none_iff_forall_ne_some]
  intro groups hfound
  obtain ⟨group, _, _, rfl, -, -, -, hrest⟩ := matches_capture.mp (regexMatch_sound hfound)
  obtain ⟨_, rfl, hnil⟩ := matches_literal.mp hrest
  obtain ⟨rfl, -⟩ := matches_nil.mp hnil
  exact h (by simp)

end

end Gr4ControlPlane.Routing
