import Gr4ControlPlane.Domain.Bytes
import Gr4ControlPlane.Text.Search
import Mathlib.Data.List.DropRight
import Mathlib.Data.List.Infix

open Gr4ControlPlane.Text

namespace Gr4ControlPlane

/-- One of `" \t\n\r"`. -/
def isBlank (byte : UInt8) : Bool := byte == 32 || byte == 9 || byte == 10 || byte == 13

def trimCopy (value : Bytes) : Bytes :=
  match findFirst (!isBlank ·) value, findLast (!isBlank ·) value with
  | some first, some last => (value.drop first).take (last - first + 1)
  | _, _ => []

/-- The arguments up to the first comma at depth zero, where the loop cuts the view and ends. -/
def firstArgument (depth : Nat) : Bytes → Bytes
  | [] => []
  | ch :: args =>
    if ch == 60 then ch :: firstArgument (depth + 1) args
    else if ch == 62 then ch :: firstArgument (depth - 1) args
    else if ch == 44 && depth == 0 then []
    else ch :: firstArgument depth args

def inferCollectionElementType (blockId : Bytes) : Option Bytes :=
  match findFirst (· == 60) blockId, findLast (· == 62) blockId with
  | some opening, some closing =>
    if closing ≤ opening + 1 then none
    else
      let args := (blockId.drop (opening + 1)).take (closing - opening - 1)
      let type := trimCopy (firstArgument 0 args)
      if type.isEmpty then none else some type
  | _, _ => none

example : inferCollectionElementType (ascii "gr::Merge< std::pair<a,b> ,3>") = some (ascii "std::pair<a,b>") := by
  decide +kernel

def bracketDepth (text : Bytes) : Int := text.count 60 - text.count 62

structure IsArgument (arg : Bytes) : Prop where
  closed : bracketDepth arg = 0
  balanced : ∀ before, before <+: arg → 0 ≤ bracketDepth before
  commas : ∀ before, before ++ [44] <+: arg → 0 < bracketDepth before

def instanceId (name first : Bytes) (others : List Bytes) : Bytes :=
  name ++ 60 :: (first ++ others.flatMap (44 :: ·) ++ [62])

def trimmed (text : Bytes) : Bytes := (text.dropWhile isBlank).rdropWhile isBlank

variable {text before after arg rest name first : Bytes} {others : List Bytes}

theorem rdropWhile_append_cons {b : UInt8} (hb : isBlank b = false) (hafter : ∀ c ∈ after, isBlank c = true) :
    (before ++ b :: after).rdropWhile isBlank = before ++ [b] := by
  have hblank : after.reverse.dropWhile isBlank = [] := by
    rw [List.dropWhile_eq_nil_iff]
    exact fun c hc => hafter c (List.mem_reverse.mp hc)
  rw [List.rdropWhile, List.reverse_append, List.reverse_cons, List.append_assoc, List.dropWhile_append, hblank]
  simp [hb]

theorem trimCopy_eq (value : Bytes) : trimCopy value = trimmed value := by
  by_cases h : ∃ byte ∈ value, (!isBlank byte) = true
  · obtain ⟨lead, a, rest, rfl, ha, hlead⟩ := exists_first h
    obtain ⟨inner, b, after, heq, hb, hafter⟩ : ∃ inner b after, a :: rest = inner ++ b :: after ∧
        (!isBlank b) = true ∧ ∀ c ∈ after, (!isBlank c) = false := exists_last ⟨a, List.mem_cons_self, ha⟩
    have hfirst : findFirst (!isBlank ·) (lead ++ a :: rest) = some lead.length := findFirst_append_cons hlead ha
    have hlast : findLast (!isBlank ·) (lead ++ inner ++ b :: after) = some (lead ++ inner).length :=
      findLast_append_cons hb hafter
    have hdrop : (lead ++ a :: rest).dropWhile isBlank = a :: rest := by
      rw [List.dropWhile_append_of_pos (by simpa using hlead), List.dropWhile_cons_of_neg (by simpa using ha)]
    have hcopy : trimCopy (lead ++ a :: rest) = inner ++ [b] := by
      rw [trimCopy, hfirst, heq, ← List.append_assoc, hlast]
      simp [List.take_append, List.take_of_length_le]
    rw [hcopy, trimmed, hdrop, heq, rdropWhile_append_cons (by simpa using hb) (by simpa using hafter)]
  · have hblank : ∀ byte ∈ value, isBlank byte = true := by simpa using h
    have hfirst : findFirst (!isBlank ·) value = none := List.findIdx?_eq_none_iff.mpr (by simpa using hblank)
    have hdrop : value.dropWhile isBlank = [] := List.dropWhile_eq_nil_iff.mpr hblank
    rw [trimCopy, hfirst, trimmed, hdrop]
    rfl

theorem firstArgument_append (harg : IsArgument arg) {read : Bytes} (heq : arg = read ++ text) (rest : Bytes) :
    firstArgument (bracketDepth read).toNat (text ++ rest) = text ++ firstArgument 0 rest := by
  induction text generalizing read with
  | nil =>
    rw [List.append_nil] at heq
    rw [← heq, harg.closed]
    rfl
  | cons ch text ih =>
    have hnext := @ih (read ++ [ch]) (by simp [heq])
    have hread : 0 ≤ bracketDepth read := harg.balanced read (heq ▸ List.prefix_append _ _)
    have hprefix : read ++ [ch] <+: arg := ⟨text, by simp [heq]⟩
    have hstep : bracketDepth (read ++ [ch]) =
        bracketDepth read + (if ch = 60 then 1 else 0) - (if ch = 62 then 1 else 0) := by
      simp only [bracketDepth, List.count_append, List.count_singleton, beq_iff_eq]
      split_ifs <;> omega
    have hbalanced := harg.balanced _ hprefix
    rw [List.cons_append, firstArgument, List.cons_append, ← hnext]
    by_cases hopen : ch = 60
    · have hdepth : (bracketDepth (read ++ [ch])).toNat = (bracketDepth read).toNat + 1 := by
        rw [hstep, if_pos hopen, if_neg (by rw [hopen]; decide)]
        omega
      rw [if_pos (by simpa using hopen), hdepth]
    · rw [if_neg (by simpa using hopen)]
      by_cases hclose : ch = 62
      · have hdepth : (bracketDepth (read ++ [ch])).toNat = (bracketDepth read).toNat - 1 := by
          rw [hstep, if_neg hopen, if_pos hclose]
          omega
        rw [if_pos (by simpa using hclose), hdepth]
      · have hdepth : bracketDepth (read ++ [ch]) = bracketDepth read := by
          rw [hstep, if_neg hopen, if_neg hclose]
          omega
        have hcomma : ¬ (ch == 44 && (bracketDepth read).toNat == 0) = true := by
          simp only [Bool.and_eq_true, beq_iff_eq, not_and]
          rintro rfl
          have := harg.commas read hprefix
          omega
        rw [if_neg (by simpa using hclose), if_neg hcomma, hdepth]

theorem firstArgument_first (hfirst : IsArgument first) :
    firstArgument 0 (first ++ others.flatMap (44 :: ·)) = first := by
  have hscan : firstArgument 0 (first ++ others.flatMap (44 :: ·)) =
      first ++ firstArgument 0 (others.flatMap (44 :: ·)) :=
    @firstArgument_append first first hfirst [] rfl _
  rw [hscan]
  cases others with
  | nil => simp [firstArgument]
  | cons _ _ => simp [firstArgument]

/-- The first template argument, without the blanks around it, is the element type; commas and brackets
inside of it do not cut it short. -/
theorem element_type_is_first_argument (hname : 60 ∉ name) (hargs : ∀ arg ∈ first :: others, IsArgument arg) :
    inferCollectionElementType (instanceId name first others) =
      if trimmed first = [] then none else some (trimmed first) := by
  have hfirst := @firstArgument_first first others (hargs first List.mem_cons_self)
  have hopening : findFirst (· == 60) (instanceId name first others) = some name.length :=
    findFirst_append_cons (fun b hb => beq_eq_false_iff_ne.mpr fun heq => hname (heq ▸ hb)) rfl
  have hclosing : findLast (· == 62) (instanceId name first others) =
      some (name ++ 60 :: (first ++ others.flatMap (44 :: ·))).length := by
    have hsplit : instanceId name first others = (name ++ 60 :: (first ++ others.flatMap (44 :: ·))) ++ 62 :: [] := by
      simp [instanceId]
    rw [hsplit]
    exact findLast_append_cons rfl nofun
  have hargs : (instanceId name first others).drop (name.length + 1) = first ++ others.flatMap (44 :: ·) ++ [62] := by
    simp [instanceId, ← List.drop_drop]
  rw [inferCollectionElementType, hopening, hclosing]
  dsimp only
  rw [hargs]
  by_cases hnil : first ++ others.flatMap (44 :: ·) = []
  · have hblank : first = [] := (List.append_eq_nil_iff.mp hnil).1
    rw [hnil, hblank, if_pos (by simp)]
    rfl
  · have hlong : ¬ (name ++ 60 :: (first ++ others.flatMap (44 :: ·))).length ≤ name.length + 1 := by
      have := List.length_pos_iff.mpr hnil
      simp only [List.length_append, List.length_cons] at this ⊢
      omega
    have htake : (name ++ 60 :: (first ++ others.flatMap (44 :: ·))).length - name.length - 1 =
        (first ++ others.flatMap (44 :: ·)).length := by
      simp only [List.length_append, List.length_cons]
      omega
    rw [if_neg hlong, htake, List.take_left, hfirst, trimCopy_eq]
    simp

theorem isArgument_pair : IsArgument (ascii " pair<a,b>") := by
  have hdepths : ∀ before ∈ (ascii " pair<a,b>").inits, 0 ≤ bracketDepth before := by decide +kernel
  have hcommas : ∀ before ∈ (ascii " pair<a,b>").inits, before ++ [44] ∈ (ascii " pair<a,b>").inits →
      0 < bracketDepth before := by decide +kernel
  refine ⟨by decide, fun before h => hdepths before ((List.mem_inits _ _).mpr h), fun before h => ?_⟩
  exact hcommas before ((List.mem_inits _ _).mpr ((List.prefix_append _ _).trans h)) ((List.mem_inits _ _).mpr h)

theorem isArgument_c : IsArgument (ascii "c") := by
  have hdepths : ∀ before ∈ (ascii "c").inits, 0 ≤ bracketDepth before := by decide +kernel
  refine ⟨by decide, fun before h => hdepths before ((List.mem_inits _ _).mpr h), fun before h => ?_⟩
  exact absurd (h.subset (by simp)) (show 44 ∉ ascii "c" by decide)

theorem element_type_is_first_argument_pair :
    inferCollectionElementType (ascii "gr::Merge< pair<a,b>,c>") = some (ascii "pair<a,b>") :=
  element_type_is_first_argument (show 60 ∉ ascii "gr::Merge" by decide)
    (show ∀ arg ∈ [ascii " pair<a,b>", ascii "c"], IsArgument arg from
      List.forall_mem_cons.mpr ⟨isArgument_pair, List.forall_mem_singleton.mpr isArgument_c⟩)

end Gr4ControlPlane
