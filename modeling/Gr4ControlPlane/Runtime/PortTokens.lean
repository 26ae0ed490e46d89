import Gr4ControlPlane.Runtime.GraphContent
import Mathlib.Data.Nat.Digits.Defs

namespace Gr4ControlPlane

variable {token digits lead before : Bytes} {byte : UInt8}

abbrev Numeral (digits : Bytes) : Prop := digits ≠ [] ∧ digits.all isDigit

def numeralValue (digits : Bytes) : Int := Nat.ofDigits 10 (digits.reverse.map fun byte => byte.toNat - 48)

/-- The value is one of `std::int64_t`. -/
abbrev Fits (digits : Bytes) : Prop := numeralValue digits < 2 ^ 63

inductive PortIndex : Bytes → Int → Prop
  | unnumbered {token : Bytes} (h : token = ascii "in" ∨ token = ascii "out") : PortIndex token 0
  | numbered {lead digits : Bytes} (hlead : lead = [] ∨ lead = ascii "in" ∨ lead = ascii "out")
      (hdigits : Numeral digits) (hfits : Fits digits) : PortIndex (lead ++ digits) (numeralValue digits)

/-- The token is replaced by the index it stands for, and kept if it stands for none. -/
structure ReadByGrammar (token : Bytes) : Prop where
  index : ∀ n, PortIndex token n → normalizePort token = .ok (.integer n)
  kept : (∀ n, ¬ PortIndex token n) → normalizePort token = .ok (.string token)

abbrev Ported (token : Bytes) : Prop := ascii "in" <+: token ∨ ascii "out" <+: token

/-- The tokens the search for the last `t` goes wrong at, and the numerals out of range. -/
inductive Misread : Bytes → Prop
  | input {digits : Bytes} (hdigits : Numeral digits) (hfits : Fits digits) : Misread (ascii "in" ++ digits)
  | overflow {lead digits : Bytes} (hlead : lead = [] ∨ lead = ascii "out") (hdigits : Numeral digits)
      (hfits : ¬ Fits digits) : Misread (lead ++ digits)
  | named {before digits : Bytes} (hported : Ported (before ++ 116 :: digits)) (hbefore : before ≠ ascii "ou")
      (hdigits : Numeral digits) : Misread (before ++ 116 :: digits)

theorem stoll_eq (digits : Bytes) :
    stoll digits = if numeralValue digits < 2 ^ 63 then .ok (numeralValue digits) else .error (ascii "stoll") := by
  have hvalue : digits.foldl (fun (n : Int) byte => 10 * n + (byte.toNat - 48 : Nat)) 0 = numeralValue digits := by
    rw [numeralValue, Nat.ofDigits_eq_foldr, List.foldr_map, List.foldr_reverse]
    simp only [add_comm]
  unfold stoll
  rw [hvalue]

theorem stoll_of_fits (h : Fits digits) : stoll digits = .ok (numeralValue digits) := by
  rw [stoll_eq, if_pos h]

theorem stoll_of_not_fits (h : ¬ Fits digits) : stoll digits = .error (ascii "stoll") := by
  rw [stoll_eq, if_neg h]

theorem Numeral.ne_of_mem (h : Numeral digits) (hmem : byte ∈ token) (hbyte : isDigit byte = false) :
    digits ≠ token := by
  rintro rfl
  rw [List.all_eq_true.mp h.2 byte hmem] at hbyte
  cases hbyte

theorem Numeral.not_mem (h : Numeral digits) (hbyte : isDigit byte = false) : byte ∉ digits :=
  fun hmem => h.ne_of_mem hmem hbyte rfl

theorem afterLast_append (h : byte ∉ digits) : afterLast byte (before ++ byte :: digits) = digits := by
  have hall : ∀ b ∈ digits.reverse, decide (b ≠ byte) = true := by
    intro b hb
    exact decide_eq_true fun heq => h (heq ▸ List.mem_reverse.mp hb)
  unfold afterLast
  rw [List.reverse_append, List.reverse_cons, List.append_assoc, List.takeWhile_append_of_pos hall]
  simp

theorem afterLast_of_not_mem (h : byte ∉ token) : afterLast byte token = token := by
  have hall : ∀ b ∈ token.reverse, decide (b ≠ byte) = true := by
    intro b hb
    exact decide_eq_true fun heq => h (heq ▸ List.mem_reverse.mp hb)
  have hself : (token.reverse ++ []).takeWhile (fun b => decide (b ≠ byte)) = token.reverse ++ [] :=
    List.takeWhile_append_of_pos hall
  rw [List.append_nil] at hself
  unfold afterLast
  rw [hself, List.reverse_reverse]

theorem afterLast_of_mem (h : byte ∈ token) : ∃ before, token = before ++ byte :: afterLast byte token := by
  obtain ⟨after, before, heq, hnot⟩ := List.eq_append_cons_of_mem (List.mem_reverse.mpr h)
  have htoken : token = before.reverse ++ byte :: after.reverse := by
    rw [← List.reverse_reverse token, heq]
    simp
  refine ⟨before.reverse, ?_⟩
  rw [htoken, afterLast_append (List.mem_reverse.not.mpr hnot)]

theorem ported_of_lead (hlead : lead = ascii "in" ∨ lead = ascii "out") : Ported (lead ++ digits) := by
  rcases hlead with rfl | rfl
  · exact .inl (List.prefix_append _ _)
  · exact .inr (List.prefix_append _ _)

theorem normalizePort_unnumbered (h : token = ascii "in" ∨ token = ascii "out") :
    normalizePort token = .ok (.integer 0) :=
  if_pos h

theorem normalizePort_bare (h : Numeral digits) : normalizePort digits = Value.integer <$> stoll digits := by
  have hin : digits ≠ ascii "in" := h.ne_of_mem (show (105 : UInt8) ∈ ascii "in" by decide) (by decide)
  have hout : digits ≠ ascii "out" := h.ne_of_mem (show (111 : UInt8) ∈ ascii "out" by decide) (by decide)
  unfold normalizePort
  rw [if_neg (not_or.mpr ⟨hin, hout⟩), if_pos h]

theorem normalizePort_suffix (hported : Ported (before ++ 116 :: digits)) (hdigits : Numeral digits) :
    normalizePort (before ++ 116 :: digits) = Value.integer <$> stoll digits := by
  have hsuffix : afterLast 116 (before ++ 116 :: digits) = digits :=
    afterLast_append (hdigits.not_mem (by decide))
  have hin : before ++ 116 :: digits ≠ ascii "in" := by
    intro heq
    rw [heq] at hsuffix
    exact hdigits.ne_of_mem (show (105 : UInt8) ∈ ascii "in" by decide) (by decide) hsuffix.symm
  have hout : before ++ 116 :: digits ≠ ascii "out" := by
    intro heq
    rw [heq] at hsuffix
    exact hdigits.1 hsuffix.symm
  have hletter : isDigit 116 = false := by decide
  have hnumeral : ¬ Numeral (before ++ 116 :: digits) := fun h => h.not_mem hletter (by simp)
  have hlength : 2 < (before ++ 116 :: digits).length := by
    rcases hported with ⟨rest, heq⟩ | ⟨rest, heq⟩
    · cases rest with
      | nil => exact absurd (heq.symm.trans (List.append_nil _)) hin
      | cons byte rest =>
        rw [← heq, List.length_append, List.length_cons]
        exact Nat.lt_add_of_pos_right (Nat.succ_pos _)
    · rw [← heq, List.length_append]
      exact Nat.lt_of_lt_of_le (by decide : 2 < (ascii "out").length) (Nat.le_add_right _ _)
  unfold normalizePort
  rw [if_neg (not_or.mpr ⟨hin, hout⟩), if_neg hnumeral]
  dsimp only
  rw [hsuffix, if_pos ⟨hlength, hported, hdigits⟩]

theorem normalizePort_kept (hin : token ≠ ascii "in") (hout : token ≠ ascii "out") (hnumeral : ¬ Numeral token)
    (hnamed : ∀ before digits, token = before ++ 116 :: digits → Ported token → ¬ Numeral digits) :
    normalizePort token = .ok (.string token) := by
  unfold normalizePort
  rw [if_neg (not_or.mpr ⟨hin, hout⟩), if_neg hnumeral]
  dsimp only
  rw [if_neg]
  rintro ⟨-, hported, hsuffix⟩
  by_cases hmem : (116 : UInt8) ∈ token
  · obtain ⟨before, heq⟩ := afterLast_of_mem hmem
    exact hnamed before _ heq hported hsuffix
  · rw [afterLast_of_not_mem hmem] at hsuffix
    exact hnumeral hsuffix

theorem lead_unique {lead' digits' : Bytes} (hlead : lead = [] ∨ lead = ascii "in" ∨ lead = ascii "out")
    (hlead' : lead' = [] ∨ lead' = ascii "in" ∨ lead' = ascii "out") (hdigits : Numeral digits)
    (hdigits' : Numeral digits') (h : lead ++ digits = lead' ++ digits') : lead = lead' ∧ digits = digits' := by
  have hin : ascii "in" = [105, 110] := by decide
  have hout : ascii "out" = [111, 117, 116] := by decide
  have hsame : lead = lead' := by
    have hi : isDigit 105 = false := by decide
    have ho : isDigit 111 = false := by decide
    have hne := hdigits.not_mem hi
    have hne' := hdigits'.not_mem hi
    have hno := hdigits.not_mem ho
    have hno' := hdigits'.not_mem ho
    rw [hin, hout] at hlead hlead'
    rcases hlead with rfl | rfl | rfl <;> rcases hlead' with rfl | rfl | rfl <;> grind
  subst hsame
  exact ⟨rfl, List.append_cancel_left h⟩

theorem unnumbered_ne (htoken : token = ascii "in" ∨ token = ascii "out") (hdigits : Numeral digits) :
    token ≠ lead ++ digits := by
  have hin : ∀ byte ∈ ascii "in", isDigit byte = false := by decide +kernel
  have hout : ∀ byte ∈ ascii "out", isDigit byte = false := by decide +kernel
  intro heq
  obtain ⟨byte, hmem⟩ := List.exists_mem_of_ne_nil digits hdigits.1
  have hbyte : byte ∈ token := heq ▸ List.mem_append_right lead hmem
  have hnot : isDigit byte = false := by
    rcases htoken with rfl | rfl
    · exact hin byte hbyte
    · exact hout byte hbyte
  exact hdigits.not_mem hnot hmem

theorem output_eq (digits : Bytes) : ascii "out" ++ digits = ascii "ou" ++ 116 :: digits := by
  have hout : ascii "out" = ascii "ou" ++ [116] := by decide
  rw [hout, List.append_assoc]
  rfl

theorem normalizePort_output (hdigits : Numeral digits) :
    normalizePort (ascii "out" ++ digits) = Value.integer <$> stoll digits := by
  have hported : Ported (ascii "out" ++ digits) := ported_of_lead (.inr rfl)
  rw [output_eq] at hported ⊢
  exact normalizePort_suffix hported hdigits

theorem normalizePort_input (hdigits : Numeral digits) :
    normalizePort (ascii "in" ++ digits) = .ok (.string (ascii "in" ++ digits)) := by
  apply normalizePort_kept
  · exact (unnumbered_ne (.inl rfl) hdigits).symm
  · exact (unnumbered_ne (.inr rfl) hdigits).symm
  · have hletter : isDigit 105 = false := by decide
    exact fun h => h.not_mem hletter (List.mem_append_left _ (by decide))
  · intro before digits' heq _ _
    have hmem : (116 : UInt8) ∈ ascii "in" ++ digits := heq ▸ (by simp)
    rcases List.mem_append.mp hmem with h | h
    · exact absurd h (by decide)
    · exact hdigits.not_mem (by decide) h

theorem fits_of_portIndex {n : Int} (hlead : lead = [] ∨ lead = ascii "in" ∨ lead = ascii "out")
    (hdigits : Numeral digits) (h : PortIndex (lead ++ digits) n) : Fits digits := by
  generalize htoken : lead ++ digits = token at h
  cases h with
  | unnumbered h => exact absurd htoken.symm (unnumbered_ne h hdigits)
  | numbered hlead' hdigits' hfits =>
    obtain ⟨-, rfl⟩ := lead_unique hlead hlead' hdigits hdigits' htoken
    exact hfits

theorem portIndex_named {n : Int} (hdigits : Numeral digits) (h : PortIndex (before ++ 116 :: digits) n) :
    before = ascii "ou" := by
  generalize htoken : before ++ 116 :: digits = token at h
  have hmem : (116 : UInt8) ∈ token := htoken ▸ (by simp)
  cases h with
  | unnumbered h =>
    have hne : token ≠ (before ++ [116]) ++ digits := unnumbered_ne h hdigits
    rw [← htoken, List.append_assoc] at hne
    exact absurd rfl hne
  | @numbered lead digits' hlead hdigits' hfits =>
    have hmem : (116 : UInt8) ∈ lead := by
      rcases List.mem_append.mp hmem with h | h
      · exact h
      · exact absurd h (hdigits'.not_mem (by decide))
    rcases hlead with rfl | rfl | rfl
    · cases hmem
    · exact absurd hmem (by decide)
    · rw [output_eq] at htoken
      have hsuffix := congrArg (afterLast 116) htoken
      rw [afterLast_append (hdigits.not_mem (by decide)), afterLast_append (hdigits'.not_mem (by decide))] at hsuffix
      rw [hsuffix] at htoken
      exact List.append_cancel_right htoken

theorem Misread.not_readByGrammar (h : Misread token) : ¬ ReadByGrammar token := by
  intro hread
  cases h with
  | @input digits hdigits hfits =>
    have hindex := hread.index _ (.numbered (.inr (.inl rfl)) hdigits hfits)
    rw [normalizePort_input hdigits] at hindex
    cases hindex
  | @overflow lead digits hlead hdigits hfits =>
    have hkept := hread.kept fun n hn => hfits (fits_of_portIndex (hlead.imp_right .inr) hdigits hn)
    rcases hlead with rfl | rfl
    · rw [List.nil_append, normalizePort_bare hdigits, stoll_of_not_fits hfits] at hkept
      cases hkept
    · rw [normalizePort_output hdigits, stoll_of_not_fits hfits] at hkept
      cases hkept
  | @named before digits hported hbefore hdigits =>
    have hkept := hread.kept fun n hn => hbefore (portIndex_named hdigits hn)
    rw [normalizePort_suffix hported hdigits] at hkept
    cases hstoll : stoll digits with
    | error what => rw [hstoll] at hkept; cases hkept
    | ok n => rw [hstoll] at hkept; cases hkept

theorem readByGrammar_of_not_misread (h : ¬ Misread token) : ReadByGrammar token where
  index n hn := by
    cases hn with
    | unnumbered htoken => exact normalizePort_unnumbered htoken
    | @numbered lead digits hlead hdigits hfits =>
      rcases hlead with rfl | rfl | rfl
      · rw [List.nil_append, normalizePort_bare hdigits, stoll_of_fits hfits]
        rfl
      · exact absurd (.input hdigits hfits) h
      · rw [normalizePort_output hdigits, stoll_of_fits hfits]
        rfl
  kept hn := by
    have hfits : ∀ lead digits, token = lead ++ digits → lead = [] ∨ lead = ascii "out" → ¬ Numeral digits := by
      rintro lead digits rfl hlead hdigits
      by_cases hfits : Fits digits
      · refine hn _ (.numbered ?_ hdigits hfits)
        exact hlead.imp_right .inr
      · exact h (.overflow hlead hdigits hfits)
    apply normalizePort_kept
    · exact fun heq => hn 0 (.unnumbered (.inl heq))
    · exact fun heq => hn 0 (.unnumbered (.inr heq))
    · exact hfits [] token rfl (.inl rfl)
    · rintro before digits rfl hported hdigits
      by_cases hbefore : before = ascii "ou"
      · subst hbefore
        exact hfits (ascii "out") digits (output_eq digits).symm (.inr rfl) hdigits
      · exact h (.named hported hbefore hdigits)

/-- A token is read by the grammar unless it is a numbered input, out of range, or a port's name
that ends in a `t` and digits. -/
theorem readByGrammar_iff (token : Bytes) : ReadByGrammar token ↔ ¬ Misread token :=
  ⟨fun hread h => h.not_readByGrammar hread, readByGrammar_of_not_misread⟩

theorem numbered_input_kept : ¬ ∀ token, ReadByGrammar token := by
  intro reads
  have hnumbered : PortIndex (ascii "in" ++ ascii "1") 1 := .numbered (.inr (.inl rfl)) (by decide) (by decide)
  have hindex := (reads (ascii "in1")).index 1 hnumbered
  have hkept : normalizePort (ascii "in1") = .ok (.string (ascii "in1")) := rfl
  rw [hkept] at hindex
  cases hindex

end Gr4ControlPlane
