import Gr4ControlPlane.Api.StreamRoutes

namespace Gr4ControlPlane

def isUnreserved (byte : UInt8) : Bool := isWord byte || byte == 45 || byte == 46 || byte == 126

inductive Encodes : Bytes → Bytes → Prop
  | nil : Encodes [] []
  | kept {byte text encoded} : isUnreserved byte = true → Encodes text encoded →
      Encodes (byte :: text) (byte :: encoded)
  | escaped {byte hi lo text encoded} : isUnreserved byte = false → hexValue hi = some (byte.toNat / 16) →
      hexValue lo = some (byte.toNat % 16) → Encodes text encoded →
      Encodes (byte :: text) (37 :: hi :: lo :: encoded)

/-- `std::uppercase << std::hex` of one digit. -/
def upperHexDigit (n : Nat) : UInt8 := UInt8.ofNat (if n < 10 then 48 + n else 55 + n)

def urlEncode (value : Bytes) : Bytes :=
  value.flatMap fun byte =>
    if isUnreserved byte then [byte]
    else [37, upperHexDigit (byte.toNat / 16), upperHexDigit (byte.toNat % 16)]

structure DecodeState where
  index : Nat
  decoded : Bytes
  -- the positions of `value` the loop has looked at
  read : List Nat
  deriving DecidableEq

/-- `ch == '%' && index + 2 < value.size()` -/
def atEscape (value : Bytes) (index : Nat) : Bool :=
  value[index]? == some 37 && decide (index + 2 < value.length)

/-- The positions one round looks at: those of `value[index]` and of `value.substr(index + 1, 2)`. -/
def readBy (value : Bytes) (index : Nat) : List Nat :=
  if atEscape value index then index :: List.range' (index + 1) 2 else [index]

def decodeRound (value : Bytes) (s : DecodeState) : Except Bytes DecodeState :=
  if atEscape value s.index then do
    let byte ← stoi (substr value (s.index + 1) 2)
    return ⟨s.index + 3, s.decoded ++ [toChar byte], s.read ++ readBy value s.index⟩
  else
    return ⟨s.index + 1, s.decoded ++ [plusToSpace (value.getD s.index 0)], s.read ++ readBy value s.index⟩

def decodeLoop (value : Bytes) : Nat → DecodeState → Except Bytes DecodeState
  | 0, s => .ok s
  | rounds + 1, s =>
    if s.index < value.length then do
      let s ← decodeRound value s
      decodeLoop value rounds s
    else .ok s

def runDecodeLoop (value : Bytes) : Except Bytes DecodeState := decodeLoop value value.length ⟨0, [], []⟩

variable {value text encoded : Bytes}

theorem isUnreserved_ne {byte : UInt8} (h : isUnreserved byte = true) : byte ≠ 37 ∧ byte ≠ 43 := by
  constructor <;> (rintro rfl; exact absurd h (by decide))

theorem hexValue_upperHexDigit : ∀ n < 16, hexValue (upperHexDigit n) = some n := by decide

theorem encodes_urlEncode (value : Bytes) : Encodes value (urlEncode value) := by
  induction value with
  | nil => exact .nil
  | cons byte value ih =>
    unfold urlEncode
    rw [List.flatMap_cons]
    have hbyte : byte.toNat < 256 := byte.toNat_lt_size
    cases h : isUnreserved byte with
    | true => exact .kept h ih
    | false =>
      exact .escaped h (hexValue_upperHexDigit _ (by omega)) (hexValue_upperHexDigit _ (by omega)) ih

theorem stoi_hex {hi lo : UInt8} {a b : Nat} (ha : hexValue hi = some a) (hb : hexValue lo = some b) :
    stoi [hi, lo] = .ok (16 * a + b : Nat) := by
  have hblank : isSpace hi = false := by
    by_contra h
    rw [hexValue_eq_none_of_isSpace (by simpa using h)] at ha
    cases ha
  have hsign : ∀ sign, hexValue sign = none → hi ≠ sign := by
    rintro sign hnone rfl
    rw [hnone] at ha
    cases ha
  have hdigits : hexDigits 0 [hi, lo] = (16 * a + b, true) := by simp [hexDigits, ha, hb]
  have hlt := hexValue_lt ha
  have hlt' := hexValue_lt hb
  have hrange : -2 ^ 31 ≤ ((16 * a + b : Nat) : Int) ∧ ((16 * a + b : Nat) : Int) < 2 ^ 31 := by omega
  simp only [stoi, List.dropWhile_cons, hblank, Bool.false_eq_true, if_false, splitSign, beq_iff_eq, hsign 45 (by decide),
    hsign 43 (by decide),
    dropHexMark_short (show [hi, lo].length ≤ 2 by simp), hdigits, hrange, decide_true, Bool.and_self, if_true]

theorem toChar_toNat (byte : UInt8) : toChar (byte.toNat : Int) = byte := by
  have hbyte : byte.toNat < 256 := byte.toNat_lt_size
  rw [toChar, Int.emod_eq_of_lt (by omega) (by omega), Int.toNat_natCast, UInt8.ofNat_toNat]

theorem Encodes.decode (h : Encodes text encoded) : decodePercentEncoded encoded = .ok text := by
  induction h with
  | nil => rfl
  | @kept byte text encoded hbyte _ ih =>
    obtain ⟨hpercent, hplus⟩ := isUnreserved_ne hbyte
    exact (decodePercentEncoded_plain hpercent _).mpr ⟨text, ih, by rw [plusToSpace_eq_self.mpr hplus]⟩
  | @escaped byte hi lo text encoded _ hhi hlo _ ih =>
    refine (decodePercentEncoded_escape hi lo _).mpr ⟨_, text, stoi_hex hhi hlo, ih, ?_⟩
    rw [Nat.div_add_mod, toChar_toNat]

theorem atEscape_iff {index : Nat} :
    atEscape value index = true ↔ value[index]? = some 37 ∧ index + 2 < value.length := by
  simp [atEscape]

theorem readBy_lt {index : Nat} (h : index < value.length) : ∀ position ∈ readBy value index, position < value.length := by
  intro position hp
  unfold readBy at hp
  split at hp
  · next hescape =>
    obtain ⟨-, hlt⟩ := atEscape_iff.mp hescape
    simp only [List.mem_cons, List.mem_range'_1] at hp
    omega
  · rw [List.mem_singleton] at hp
    exact hp ▸ h

theorem drop_eq_cons {index : Nat} {byte : UInt8} (h : value[index]? = some byte) :
    value.drop index = byte :: value.drop (index + 1) := by
  obtain ⟨hlt, rfl⟩ := List.getElem?_eq_some_iff.mp h
  exact List.drop_eq_getElem_cons hlt

theorem decode_atEscape {index : Nat} (h : atEscape value index = true) :
    decodePercentEncoded (value.drop index) = (do
      let byte ← stoi (substr value (index + 1) 2)
      return toChar byte :: (← decodePercentEncoded (value.drop (index + 3)))) := by
  obtain ⟨hpercent, hlt⟩ := atEscape_iff.mp h
  have hhi := drop_eq_cons (List.getElem?_eq_getElem (show index + 1 < value.length by omega))
  have hlo := drop_eq_cons (List.getElem?_eq_getElem (show index + 1 + 1 < value.length by omega))
  have hhex : substr value (index + 1) 2 = [value[index + 1], value[index + 1 + 1]] := by
    rw [substr, hhi, hlo]
    rfl
  rw [drop_eq_cons hpercent, hhex, hhi, hlo, decodePercentEncoded, if_pos (by decide)]

theorem decodePercentEncoded_cons {byte : UInt8} {rest : Bytes} (h : byte ≠ 37 ∨ rest.length ≤ 1) :
    decodePercentEncoded (byte :: rest) = (do return plusToSpace byte :: (← decodePercentEncoded rest)) := by
  match rest with
  | [] | [_] => rfl
  | hi :: lo :: rest =>
    have hother : byte ≠ 37 := h.resolve_right (by simp)
    rw [decodePercentEncoded, if_neg (by simpa using hother)]

theorem decode_otherwise {index : Nat} (hlt : index < value.length) (h : atEscape value index = false) :
    decodePercentEncoded (value.drop index) = (do
      return plusToSpace (value.getD index 0) :: (← decodePercentEncoded (value.drop (index + 1)))) := by
  have hget : value[index]? = some value[index] := List.getElem?_eq_getElem hlt
  rw [drop_eq_cons hget, List.getD_eq_getElem?_getD, hget, Option.getD_some]
  apply decodePercentEncoded_cons
  by_cases hpercent : value[index] = 37
  · right
    have hshort : ¬ index + 2 < value.length := fun hlong => by simp [atEscape, hget, hpercent, hlong] at h
    rw [List.length_drop]
    omega
  · exact .inl hpercent

theorem read_round {index : Nat} :
    List.range index ++ readBy value index = List.range (if atEscape value index then index + 3 else index + 1) := by
  unfold readBy
  split
  · rw [show index + 3 = index + 1 + 1 + 1 by rfl, List.range_succ, List.range_succ, List.range_succ]
    simp [List.range'_succ]
  · exact (List.range_succ).symm

theorem decodeLoop_eq {rounds index : Nat} {decoded : Bytes} (hindex : index ≤ value.length)
    (hrounds : value.length ≤ index + rounds) :
    decodeLoop value rounds ⟨index, decoded, List.range index⟩ =
      (decodePercentEncoded (value.drop index)).map fun rest =>
        ⟨value.length, decoded ++ rest, List.range value.length⟩ := by
  induction rounds generalizing index decoded with
  | zero =>
    obtain rfl : index = value.length := by omega
    simp [decodeLoop, decodePercentEncoded, Except.map]
  | succ rounds ih =>
    unfold decodeLoop
    by_cases hlt : index < value.length
    · rw [if_pos hlt, decodeRound]
      dsimp only
      rw [read_round]
      cases hescape : atEscape value index with
      | true =>
        obtain ⟨-, hfits⟩ := atEscape_iff.mp hescape
        rw [decode_atEscape hescape]
        cases stoi (substr value (index + 1) 2) with
        | error what => rfl
        | ok byte =>
          have hrest := @ih (index + 3) (decoded ++ [toChar byte]) (by omega) (by omega)
          simp only [bind, Except.bind, pure, Except.pure, if_true, hrest]
          cases decodePercentEncoded (value.drop (index + 3)) <;> simp [Except.map]
      | false =>
        rw [decode_otherwise hlt hescape]
        have hrest := @ih (index + 1) (decoded ++ [plusToSpace (value.getD index 0)]) (by omega) (by omega)
        simp only [bind, Except.bind, pure, Except.pure, Bool.false_eq_true, if_false, hrest]
        cases decodePercentEncoded (value.drop (index + 1)) <;> simp [Except.map]
    · obtain rfl : index = value.length := by omega
      rw [if_neg hlt]
      simp [decodePercentEncoded, Except.map]

theorem runDecodeLoop_eq (value : Bytes) :
    runDecodeLoop value = (decodePercentEncoded value).map fun decoded =>
      ⟨value.length, decoded, List.range value.length⟩ := by
  have h := @decodeLoop_eq value value.length 0 [] (Nat.zero_le _) (Nat.le_add_left _ _)
  simpa [runDecodeLoop] using h

/-- Decoding undoes percent-encoding, in a loop that looks at every byte of the encoded text once, in
order, and at nothing past its end; no loop over any text looks further. -/
theorem decode_undoes_encoding :
    (∀ text encoded, Encodes text encoded →
      decodePercentEncoded encoded = .ok text ∧
        runDecodeLoop encoded = .ok ⟨encoded.length, text, List.range encoded.length⟩) ∧
      ∀ value index, index < value.length → ∀ position ∈ readBy value index, position < value.length := by
  refine ⟨fun text encoded h => ⟨h.decode, ?_⟩, fun value index => readBy_lt⟩
  rw [runDecodeLoop_eq, h.decode]
  rfl

theorem decode_undoes_encoding_reserved :
    decodePercentEncoded (ascii "a%2B%25%00%ff%3F") = .ok [97, 43, 37, 0, 255, 63] ∧
      runDecodeLoop (ascii "a%2B%25%00%ff%3F") = .ok ⟨16, [97, 43, 37, 0, 255, 63], List.range 16⟩ :=
  decode_undoes_encoding.1 [97, 43, 37, 0, 255, 63] (ascii "a%2B%25%00%ff%3F")
    (.kept (by decide) (.escaped (by decide) (by decide) (by decide) (.escaped (by decide) (by decide) (by decide)
      (.escaped (by decide) (by decide) (by decide) (.escaped (by decide) (by decide) (by decide)
        (.escaped (by decide) (by decide) (by decide) .nil))))))

end Gr4ControlPlane
