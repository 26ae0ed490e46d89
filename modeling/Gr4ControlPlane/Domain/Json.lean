import Gr4ControlPlane.Domain.Bytes

namespace Gr4ControlPlane

inductive Json : Type
  | null
  | boolean (b : Bool)
  | integer (n : Int)
  | real (bits : UInt64)
  | string (s : Bytes)
  | array (items : List Json)
  | object (members : List (Bytes × Json))

def isTail (byte : UInt8) : Bool := 0x80 ≤ byte && byte ≤ 0xbf

/-- The second byte of a long character: neither overlong, nor a surrogate, nor past the last plane. -/
def isSecond (lead byte : UInt8) : Bool :=
  (if lead = 0xe0 then 0xa0 else if lead = 0xf0 then 0x90 else 0x80) ≤ byte &&
    byte ≤ (if lead = 0xed then 0x9f else if lead = 0xf4 then 0x8f else 0xbf)

def validUtf8 : Bytes → Bool
  | [] => true
  | a :: rest =>
    if a ≤ 0x7f then validUtf8 rest
    else
      match rest with
      | [] => false
      | b :: rest =>
        if 0xc2 ≤ a && a ≤ 0xdf then isTail b && validUtf8 rest
        else
          match rest with
          | [] => false
          | c :: rest =>
            if 0xe0 ≤ a && a ≤ 0xef then isSecond a b && isTail c && validUtf8 rest
            else
              match rest with
              | [] => false
              | d :: rest =>
                0xf0 ≤ a && a ≤ 0xf4 && isSecond a b && isTail c && isTail d && validUtf8 rest

example : validUtf8 (ascii "größer als 3 €, 𝄞") = true := by decide

example : validUtf8 [0x61, 0xff] = false := by decide

theorem validUtf8_cons {byte : UInt8} (h : byte ≤ 0x7f) (rest : Bytes) : validUtf8 (byte :: rest) = validUtf8 rest := by
  rw [validUtf8.eq_def]
  exact if_pos h

theorem validUtf8_append {text : Bytes} (h : ∀ byte ∈ text, byte ≤ 0x7f) (rest : Bytes) :
    validUtf8 (text ++ rest) = validUtf8 rest := by
  induction text with
  | nil => rfl
  | cons byte text ih =>
    rw [List.cons_append, validUtf8_cons (h byte List.mem_cons_self)]
    exact ih fun b hb => h b (List.mem_cons_of_mem _ hb)

namespace Json

def member (key : Bytes) : Json → Option Json
  | .object members => members.lookup key
  | _ => none

def text : Json → Option Bytes
  | .string s => some s
  | _ => none

mutual

def printable : Json → Bool
  | .string s => validUtf8 s
  | .array items => printableItems items
  | .object members => printableMembers members
  | _ => true

def printableItems : List Json → Bool
  | [] => true
  | item :: items => item.printable && printableItems items

def printableMembers : List (Bytes × Json) → Bool
  | [] => true
  | (key, value) :: members => validUtf8 key && value.printable && printableMembers members

end

theorem printable_array {items : List Json} : (array items).printable = true ↔ ∀ item ∈ items, item.printable := by
  change printableItems items = true ↔ _
  induction items with
  | nil => simp [printableItems]
  | cons item items ih => simp [printableItems, ih]

theorem printableMembers_append (members members' : List (Bytes × Json)) :
    printableMembers (members ++ members') = (printableMembers members && printableMembers members') := by
  induction members with
  | nil => rfl
  | cons entry members ih => simp [printableMembers, ih, Bool.and_assoc]

/-- `dump` with its default, strict error handler: it throws on a text that is not UTF-8. -/
def StrictDump (dump : Json → Except Bytes Bytes) : Prop := ∀ body : Json, (dump body).isOk = body.printable

theorem StrictDump.ok {dump : Json → Except Bytes Bytes} (strict : StrictDump dump) {body : Json} (h : body.printable) :
    ∃ text, dump body = .ok text := by
  have hok := strict body
  rw [h] at hok
  cases hdump : dump body with
  | error what =>
    rw [hdump] at hok
    cases hok
  | ok text => exact ⟨text, rfl⟩

def escapeByte (byte : UInt8) : Bytes :=
  if byte = 34 then ascii "\\\""
  else if byte = 92 then ascii "\\\\"
  else if byte = 8 then ascii "\\b"
  else if byte = 12 then ascii "\\f"
  else if byte = 10 then ascii "\\n"
  else if byte = 13 then ascii "\\r"
  else if byte = 9 then ascii "\\t"
  else if byte ≤ 31 then ascii "\\u" ++ hexPadded 4 byte.toNat
  else [byte]

def quote (s : Bytes) : Bytes := 34 :: s.flatMap escapeByte ++ [34]

def separated : List Bytes → Bytes
  | [] => []
  | [text] => text
  | text :: texts => text ++ 44 :: separated texts

mutual

def render (real : UInt64 → Bytes) : Json → Bytes
  | .null => ascii "null"
  | .boolean b => if b then ascii "true" else ascii "false"
  | .integer n => if n < 0 then 45 :: decimal n.natAbs else decimal n.natAbs
  | .real bits => real bits
  | .string s => quote s
  | .array items => 91 :: separated (renderItems real items) ++ [93]
  | .object members => 123 :: separated (renderMembers real members) ++ [125]

def renderItems (real : UInt64 → Bytes) : List Json → List Bytes
  | [] => []
  | item :: items => item.render real :: renderItems real items

def renderMembers (real : UInt64 → Bytes) : List (Bytes × Json) → List Bytes
  | [] => []
  | (key, value) :: members => (quote key ++ 58 :: value.render real) :: renderMembers real members

end

def dump (real : UInt64 → Bytes) (body : Json) : Except Bytes Bytes :=
  if body.printable then .ok (body.render real) else .error (ascii "[json.exception.type_error.316] invalid UTF-8 byte")

theorem strictDump_dump (real : UInt64 → Bytes) : StrictDump (dump real) := by
  intro body
  unfold dump
  cases body.printable <;> rfl

end Json

end Gr4ControlPlane
