import Gr4ControlPlane.Domain.Bytes
import Mathlib.Algebra.Group.Int.Defs
import Mathlib.Algebra.Group.Nat.Defs

namespace Gr4ControlPlane

def hexValue (byte : UInt8) : Option Nat :=
  if 48 ≤ byte && byte ≤ 57 then some (byte.toNat - 48)
  else if 65 ≤ byte && byte ≤ 70 then some (byte.toNat - 55)
  else if 97 ≤ byte && byte ≤ 102 then some (byte.toNat - 87)
  else none

def dropHexMark (text : Bytes) : Bytes :=
  match text with
  | zero :: mark :: digit :: rest =>
    if zero == 48 && (mark == 120 || mark == 88) && (hexValue digit).isSome then digit :: rest else text
  | _ => text

def hexDigits (value : Nat) : Bytes → Nat × Bool
  | [] => (value, false)
  | byte :: text =>
    match hexValue byte with
    | none => (value, false)
    | some digit => ((hexDigits (16 * value + digit) text).1, true)

/-- `std::stoi(text, nullptr, 16)`; the text of both its exceptions is the same. -/
def stoi (text : Bytes) : Except Bytes Int :=
  let (negative, text) := splitSign (text.dropWhile isSpace)
  let (value, found) := hexDigits 0 (dropHexMark text)
  let value : Int := if negative then -value else value
  if found && decide (-2 ^ 31 ≤ value) && decide (value < 2 ^ 31) then .ok value else .error (ascii "stoi")

/-- `static_cast<char>` of an `int`. -/
def toChar (value : Int) : UInt8 := UInt8.ofNat (value % 256).toNat

def plusToSpace (byte : UInt8) : UInt8 := if byte == 43 then 32 else byte

def decodePercentEncoded : Bytes → Except Bytes Bytes
  | ch :: hi :: lo :: rest =>
    if ch == 37 then do
      let byte ← stoi [hi, lo]
      return toChar byte :: (← decodePercentEncoded rest)
    else do
      return plusToSpace ch :: (← decodePercentEncoded (hi :: lo :: rest))
  | rest => .ok (rest.map plusToSpace)

/-- `text.find(needle, start)` -/
def findFrom (text needle : Bytes) (start : Nat) : Option Nat :=
  (List.range' start (text.length + 1 - start)).find? fun i => needle.isPrefixOf (text.drop i)

def substr (text : Bytes) (start count : Nat) : Bytes := (text.drop start).take count

/-- `target.substr(0, target.find('?'))` -/
def routeOf (target : Bytes) : Bytes := target.takeWhile (· ≠ 63)

def streamPrefix : Bytes := ascii "/sessions/"
def streamInfix : Bytes := ascii "/streams/"
def streamSuffix : Bytes := ascii "/ws"

def splitStreamTarget (target : Bytes) : Option (Bytes × Bytes) :=
  let route := routeOf target
  if !(streamPrefix.isPrefixOf route && streamSuffix.isSuffixOf route) then none
  else
    match findFrom route streamInfix streamPrefix.length with
    | none => none
    | some infixPos =>
      if infixPos ≤ streamPrefix.length then none
      else
        let sessionId := substr route streamPrefix.length (infixPos - streamPrefix.length)
        let streamBegin := infixPos + streamInfix.length
        let streamEnd := route.length - streamSuffix.length
        if streamEnd ≤ streamBegin || sessionId.contains 47 then none
        else some (sessionId, substr route streamBegin (streamEnd - streamBegin))

def parseWebsocketStreamTarget (target : Bytes) : Except Bytes (Option (Bytes × Bytes)) :=
  match splitStreamTarget target with
  | none => .ok none
  | some (sessionId, encoded) => do
    return some (sessionId, ← decodePercentEncoded encoded)

inductive Routing
  | websocketUpgrade (sessionId streamId : Bytes)
  | proxyHttpRequest
  deriving DecidableEq

/-- Which way `handle_connection` sends a request. -/
def handleConnection (isUpgrade : Bool) (target : Bytes) : Except Bytes Routing := do
  let websocketRoute ← if isUpgrade then parseWebsocketStreamTarget target else pure none
  match websocketRoute with
  | some (sessionId, streamId) => return .websocketUpgrade sessionId streamId
  | none => return .proxyHttpRequest

example : handleConnection true (ascii "/sessions/a/streams/b%20c+d/ws?x=1") =
    .ok (.websocketUpgrade (ascii "a") (ascii "b c d")) := by decide

theorem hexValue_lt {byte : UInt8} {digit : Nat} (h : hexValue byte = some digit) : digit < 16 := by
  simp only [hexValue, Bool.and_eq_true, decide_eq_true_eq, UInt8.le_iff_toNat_le, UInt8.reduceToNat] at h
  split_ifs at h <;> cases h <;> omega

theorem hexValue_eq_none_of_isSpace {byte : UInt8} (h : isSpace byte = true) : hexValue byte = none := by
  have code : byte.toNat = 32 ∨ 9 ≤ byte.toNat ∧ byte.toNat ≤ 13 := by
    simpa [isSpace, UInt8.le_iff_toNat_le, ← UInt8.toNat_inj] using h
  simp only [hexValue, Bool.and_eq_true, decide_eq_true_eq, UInt8.le_iff_toNat_le, UInt8.reduceToNat]
  split_ifs <;> first | omega | rfl

theorem hexDigits_found (value : Nat) (text : Bytes) :
    (hexDigits value text).2 = text.head?.any fun byte => (hexValue byte).isSome := by
  cases text with
  | nil => rfl
  | cons byte text =>
    simp only [hexDigits, List.head?_cons, Option.any_some]
    cases hexValue byte <;> rfl

theorem hexDigits_lt (value : Nat) (text : Bytes) :
    (hexDigits value text).1 < (value + 1) * 16 ^ text.length := by
  induction text generalizing value with
  | nil => simp [hexDigits]
  | cons byte text ih =>
    simp only [hexDigits, List.length_cons]
    cases reads : hexValue byte with
    | none =>
      have := Nat.mul_le_mul_left (value + 1) (Nat.one_le_pow (text.length + 1) 16 (by omega))
      dsimp only
      omega
    | some digit =>
      have small := hexValue_lt reads
      calc
        (hexDigits (16 * value + digit) text).1 < (16 * value + digit + 1) * 16 ^ text.length := ih _
        _ ≤ ((value + 1) * 16) * 16 ^ text.length := Nat.mul_le_mul_right _ (by omega)
        _ = (value + 1) * 16 ^ (text.length + 1) := by rw [Nat.mul_assoc, Nat.pow_succ']

theorem dropHexMark_short {text : Bytes} (h : text.length ≤ 2) : dropHexMark text = text := by
  match text with
  | [] | [_] | [_, _] => rfl
  | _ :: _ :: _ :: _ => simp at h

theorem splitSign_length (text : Bytes) : (splitSign text).2.length ≤ text.length := by
  cases text with
  | nil => simp [splitSign]
  | cons byte text =>
    simp only [splitSign]
    split_ifs <;> simp

theorem stoi_short {text : Bytes} (h : text.length ≤ 2) :
    (stoi text).isOk = (splitSign (text.dropWhile isSpace)).2.head?.any fun byte => (hexValue byte).isSome := by
  have short : (splitSign (text.dropWhile isSpace)).2.length ≤ 2 :=
    Nat.le_trans (splitSign_length _) (Nat.le_trans (List.dropWhile_suffix _).length_le h)
  have small := hexDigits_lt 0 (splitSign (text.dropWhile isSpace)).2
  have bound := Nat.pow_le_pow_right (by omega : 0 < 16) short
  rw [← hexDigits_found 0]
  simp only [stoi, dropHexMark_short short]
  generalize (splitSign (text.dropWhile isSpace)).1 = negative
  generalize hexDigits 0 (splitSign (text.dropWhile isSpace)).2 = number at *
  have range : -2 ^ 31 ≤ (if negative = true then -(number.1 : Int) else number.1) ∧
      (if negative = true then -(number.1 : Int) else number.1) < 2 ^ 31 := by
    split_ifs <;> omega
  cases number.2 with
  | false => rfl
  | true => simp only [range, decide_true, Bool.and_self, if_true]; rfl

/-- The two bytes after a `%` start with a number: a digit, or a space or sign and a digit. -/
def readable (hi lo : UInt8) : Bool :=
  (hexValue hi).isSome || ((isSpace hi || hi == 43 || hi == 45) && (hexValue lo).isSome)

theorem splitSign_head (byte : UInt8) (text : Bytes) :
    ((splitSign (byte :: text)).2.head?.any fun byte => (hexValue byte).isSome) =
      ((hexValue byte).isSome ||
        ((byte == 43 || byte == 45) && text.head?.any fun byte => (hexValue byte).isSome)) := by
  by_cases minus : byte = 45
  · subst minus
    simp [splitSign, show hexValue 45 = none by decide]
  · by_cases plus : byte = 43
    · subst plus
      simp [splitSign, show hexValue 43 = none by decide]
    · simp [splitSign, minus, plus]

theorem stoi_isOk (hi lo : UInt8) : (stoi [hi, lo]).isOk = readable hi lo := by
  rw [stoi_short (by simp), readable]
  cases space : isSpace hi with
  | false =>
    rw [List.dropWhile_cons, if_neg (by simp [space]), splitSign_head]
    simp
  | true =>
    rw [hexValue_eq_none_of_isSpace space, List.dropWhile_cons, if_pos space]
    cases blank : isSpace lo with
    | false =>
      rw [List.dropWhile_cons, if_neg (by simp [blank]), splitSign_head]
      simp
    | true => simp [blank, splitSign, hexValue_eq_none_of_isSpace blank]

inductive WellEscaped : Bytes → Prop
  | short {rest : Bytes} : rest.length ≤ 2 → WellEscaped rest
  | escape {hi lo : UInt8} {rest : Bytes} : readable hi lo → WellEscaped rest → WellEscaped (37 :: hi :: lo :: rest)
  | plain {ch : UInt8} {rest : Bytes} : ch ≠ 37 → WellEscaped rest → WellEscaped (ch :: rest)

theorem wellEscaped_escape (hi lo : UInt8) (rest : Bytes) :
    WellEscaped (37 :: hi :: lo :: rest) ↔ readable hi lo ∧ WellEscaped rest := by
  constructor
  · intro h
    cases h with
    | short few => simp at few
    | escape number more => exact ⟨number, more⟩
    | plain other => exact absurd rfl other
  · rintro ⟨number, more⟩
    exact .escape number more

theorem wellEscaped_plain {ch : UInt8} (other : ch ≠ 37) (rest : Bytes) :
    WellEscaped (ch :: rest) ↔ WellEscaped rest := by
  constructor
  · intro h
    cases h with
    | short few => exact .short (Nat.le_of_succ_le few)
    | escape => exact absurd rfl other
    | plain _ more => exact more
  · exact .plain other

theorem isOk_bind {α β : Type} (x : Except Bytes α) (f : α → Except Bytes β) :
    (x >>= f).isOk = match x with
      | .ok a => (f a).isOk
      | .error _ => false := by
  cases x <;> rfl

theorem decodePercentEncoded_isOk (value : Bytes) :
    (decodePercentEncoded value).isOk ↔ WellEscaped value := by
  induction value using decodePercentEncoded.induct with
  | case1 ch hi lo rest escape ih =>
    obtain rfl : ch = 37 := by simpa using escape
    rw [decodePercentEncoded, if_pos escape, wellEscaped_escape, ← ih, ← stoi_isOk, isOk_bind]
    cases stoi [hi, lo] with
    | error _ => simp [Except.isOk, Except.toBool]
    | ok byte =>
      simp only [isOk_bind]
      cases decodePercentEncoded rest <;> simp [Except.isOk, Except.toBool, pure, Except.pure]
  | case2 ch hi lo rest other ih =>
    rw [decodePercentEncoded, if_neg other, wellEscaped_plain (by simpa using other), ← ih, isOk_bind]
    cases decodePercentEncoded (hi :: lo :: rest) <;> simp [Except.isOk, Except.toBool, pure, Except.pure]
  | case3 rest few =>
    have short : rest.length ≤ 2 := by
      match rest, few with
      | [], _ | [_], _ | [_, _], _ => simp
      | _ :: _ :: _ :: _, few => exact (few _ _ _ _ rfl).elim
    rw [decodePercentEncoded]
    · simp [Except.isOk, Except.toBool, WellEscaped.short short]
    · exact few

theorem drop_eq_substr (text : Bytes) {i j : Nat} (h : i ≤ j) :
    text.drop i = substr text i (j - i) ++ text.drop j := by
  have rest : text.drop j = (text.drop i).drop (j - i) := by rw [List.drop_drop, Nat.add_sub_cancel' h]
  rw [substr, rest, List.take_append_drop]

theorem substr_ne_nil {text : Bytes} {start count : Nat} (h : start < text.length) (some : 0 < count) :
    substr text start count ≠ [] := by
  rw [substr, ← List.length_pos_iff, List.length_take, List.length_drop]
  omega

theorem findFrom_eq_some {text needle : Bytes} {start i : Nat} :
    findFrom text needle start = some i ↔
      start ≤ i ∧ i ≤ text.length ∧ needle <+: text.drop i ∧
        ∀ j, start ≤ j → j < i → ¬ needle <+: text.drop j := by
  simp only [findFrom, List.find?_range'_eq_some, List.isPrefixOf_iff_prefix, List.mem_range'_1,
    Bool.not_eq_true', ← Bool.not_eq_true]
  constructor
  · rintro ⟨found, ⟨low, high⟩, first⟩
    exact ⟨low, by omega, found, first⟩
  · rintro ⟨low, high, found, first⟩
    exact ⟨found, ⟨low, by omega⟩, first⟩

structure NamesStream (target sessionId encoded : Bytes) : Prop where
  route : routeOf target = streamPrefix ++ (sessionId ++ (streamInfix ++ (encoded ++ streamSuffix)))
  session_nonempty : sessionId ≠ []
  session_segment : 47 ∉ sessionId
  stream_nonempty : encoded ≠ []

theorem findFrom_streamInfix {text sessionId rest : Bytes} (session_segment : 47 ∉ sessionId)
    (split : text = streamPrefix ++ (sessionId ++ (streamInfix ++ rest))) :
    findFrom text streamInfix streamPrefix.length = some (streamPrefix.length + sessionId.length) := by
  rw [split, findFrom_eq_some]
  refine ⟨by omega, by simp, ?_, ?_⟩
  · rw [← List.drop_drop, List.drop_left, List.drop_left]
    exact List.prefix_append _ _
  · intro j low high found
    obtain ⟨k, rfl⟩ := Nat.exists_eq_add_of_le low
    have inside : k < sessionId.length := by omega
    rw [← List.drop_drop, List.drop_left, List.drop_append_of_le_length (by omega),
      List.drop_eq_getElem_cons inside] at found
    obtain ⟨rest, eq⟩ := found
    have first : (47 : UInt8) = sessionId[k] := (List.cons.inj eq).1
    exact session_segment (first ▸ List.getElem_mem inside)

theorem NamesStream.findFrom {target sessionId encoded : Bytes} (h : NamesStream target sessionId encoded) :
    findFrom (routeOf target) streamInfix streamPrefix.length = some (streamPrefix.length + sessionId.length) :=
  findFrom_streamInfix h.session_segment h.route

theorem NamesStream.split {target sessionId encoded : Bytes} (h : NamesStream target sessionId encoded) :
    splitStreamTarget target = some (sessionId, encoded) := by
  have front : streamPrefix <+: routeOf target := h.route ▸ List.prefix_append _ _
  have back : streamSuffix <:+ routeOf target := by
    rw [h.route]
    simp only [← List.append_assoc]
    exact List.suffix_append _ _
  have some_session := List.length_pos_iff.2 h.session_nonempty
  have some_stream := List.length_pos_iff.2 h.stream_nonempty
  simp only [splitStreamTarget, List.isPrefixOf_iff_prefix.2 front, List.isSuffixOf_iff_suffix.2 back, h.findFrom]
  have session : substr (routeOf target) streamPrefix.length sessionId.length = sessionId := by
    simp [substr, h.route]
  have stream : substr (routeOf target) (streamPrefix.length + sessionId.length + streamInfix.length)
      encoded.length = encoded := by
    simp [substr, h.route, ← List.drop_drop]
  have size : (routeOf target).length - streamSuffix.length =
      streamPrefix.length + sessionId.length + streamInfix.length + encoded.length := by
    simp only [h.route, List.length_append]
    omega
  have later : ¬ streamPrefix.length + sessionId.length ≤ streamPrefix.length := by omega
  have inner : ¬ streamPrefix.length + sessionId.length + streamInfix.length + encoded.length ≤
      streamPrefix.length + sessionId.length + streamInfix.length := by omega
  simp [later, inner, size, session, stream, h.session_segment]

theorem namesStream_of_split {target sessionId encoded : Bytes}
    (h : splitStreamTarget target = some (sessionId, encoded)) : NamesStream target sessionId encoded := by
  unfold splitStreamTarget at h
  dsimp only at h
  split_ifs at h with outer
  split at h
  · cases h
  · next infixPos found =>
    split_ifs at h with later inner
    cases h
    obtain ⟨-, -, here, -⟩ := findFrom_eq_some.1 found
    have fits := here.length_le
    simp only [Bool.not_eq_true', Bool.not_eq_false, Bool.and_eq_true, List.isPrefixOf_iff_prefix,
      List.isSuffixOf_iff_suffix] at outer
    simp only [Bool.or_eq_true, decide_eq_true_eq, not_or, List.contains_eq_mem] at inner
    constructor
    · calc
        routeOf target = streamPrefix ++ (routeOf target).drop streamPrefix.length :=
          (List.prefix_iff_eq_append.1 outer.1).symm
        _ = streamPrefix ++ (substr (routeOf target) streamPrefix.length (infixPos - streamPrefix.length) ++
              (routeOf target).drop infixPos) := by rw [← drop_eq_substr _ (by omega)]
        _ = _ := by
          rw [← List.prefix_iff_eq_append.1 here, List.drop_drop,
            drop_eq_substr _ (Nat.le_of_not_le inner.1), ← List.suffix_iff_eq_drop.1 outer.2]
    · exact substr_ne_nil (by omega) (by omega)
    · exact inner.2
    · exact substr_ne_nil (by omega) (by omega)

theorem splitStreamTarget_eq_some {target sessionId encoded : Bytes} :
    splitStreamTarget target = some (sessionId, encoded) ↔ NamesStream target sessionId encoded :=
  ⟨namesStream_of_split, NamesStream.split⟩

theorem parseWebsocketStreamTarget_isOk (target : Bytes) :
    (parseWebsocketStreamTarget target).isOk ↔
      ∀ sessionId encoded, NamesStream target sessionId encoded → WellEscaped encoded := by
  simp only [← splitStreamTarget_eq_some, parseWebsocketStreamTarget]
  cases split : splitStreamTarget target with
  | none => simp [Except.isOk, Except.toBool]
  | some names =>
    obtain ⟨sessionId, encoded⟩ := names
    have only : (∀ s e, some (sessionId, encoded) = some (s, e) → WellEscaped e) ↔ WellEscaped encoded := by simp
    rw [only, ← decodePercentEncoded_isOk, isOk_bind]
    cases decodePercentEncoded encoded <;> simp [Except.isOk, Except.toBool, pure, Except.pure]

/-- An upgrade is routed, without an exception out of the connection's thread, exactly if its target names
no stream or one whose escapes `std::stoi` reads. -/
theorem handleConnection_routes (target : Bytes) :
    (∃ routing, handleConnection true target = .ok routing) ↔
      ∀ sessionId encoded, NamesStream target sessionId encoded → WellEscaped encoded := by
  rw [← parseWebsocketStreamTarget_isOk]
  simp only [handleConnection, if_true]
  cases parseWebsocketStreamTarget target with
  | error e => simp [Except.isOk, Except.toBool, bind, Except.bind]
  | ok route => cases route <;> simp [Except.isOk, Except.toBool, bind, Except.bind, pure, Except.pure]

theorem handleConnection_raises :
    ¬ ∀ target, ∃ routing, handleConnection true target = .ok routing := by
  intro routes
  obtain ⟨routing, eq⟩ := routes (ascii "/sessions/a/streams/%zz/ws")
  have raises : handleConnection true (ascii "/sessions/a/streams/%zz/ws") = .error (ascii "stoi") := by decide
  rw [raises] at eq
  cases eq

end Gr4ControlPlane
