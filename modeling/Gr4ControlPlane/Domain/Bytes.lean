import Mathlib.Data.List.Basic

namespace Gr4ControlPlane

/-- A `std::string`: any bytes at all. -/
abbrev Bytes := List UInt8

def ascii (s : String) : Bytes := s.toUTF8.data.toList

/-- What a reader of `c_str()`, such as `what()`, gets to see of a text: its bytes up to the first NUL. -/
def cString (text : Bytes) : Bytes := text.takeWhile (· != 0)

/-- `std::isspace` in the C locale. -/
def isSpace (byte : UInt8) : Bool := byte == 32 || (9 ≤ byte && byte ≤ 13)

def splitSign : Bytes → Bool × Bytes
  | [] => (false, [])
  | byte :: text =>
    if byte == 45 then (true, text) else if byte == 43 then (false, text) else (false, byte :: text)

def hexDigit (n : Nat) : UInt8 :=
  UInt8.ofNat (if n < 10 then 48 + n else 87 + n)

/-- `std::hex << std::setw(width) << std::setfill('0')` for a value below `16 ^ width`. -/
def hexPadded : Nat → Nat → Bytes
  | 0, _ => []
  | width + 1, n => hexPadded width (n / 16) ++ [hexDigit (n % 16)]

/-- `std::to_string` and `std::format` of a non-negative integer. -/
def decimal (n : Nat) : Bytes := (Nat.toDigits 10 n).map fun c => UInt8.ofNat c.toNat

def decimalPadded : Nat → Nat → Bytes
  | 0, _ => []
  | width + 1, n => decimalPadded width (n / 10) ++ [UInt8.ofNat (48 + n % 10)]

example : hexPadded 4 0xbeef = ascii "beef" := by decide

example : decimal 8080 = ascii "8080" := by decide

section CString

variable {text before after : Bytes}

theorem cString_append (h : 0 ∉ before) : cString (before ++ after) = before ++ cString after :=
  List.takeWhile_append_of_pos fun _ hbyte => bne_iff_ne.mpr fun hzero => h (hzero ▸ hbyte)

theorem cString_append_of_mem (h : 0 ∈ before) : cString (before ++ after) = cString before := by
  induction before with
  | nil => cases h
  | cons byte before ih =>
    unfold cString at ih ⊢
    rw [List.cons_append, List.takeWhile_cons, List.takeWhile_cons]
    split
    · next hbyte => rw [ih ((List.mem_cons.mp h).resolve_left fun hzero => by simp [hzero] at hbyte)]
    · rfl

theorem cString_eq_self (h : 0 ∉ text) : cString text = text := by
  have happend := @cString_append text [] h
  rwa [List.append_nil, show cString [] = [] from rfl, List.append_nil] at happend

theorem not_mem_cString (text : Bytes) : 0 ∉ cString text := by
  intro h
  have hbyte := List.all_takeWhile (p := (· != (0 : UInt8))) (l := text)
  rw [List.all_eq_true] at hbyte
  exact absurd (hbyte 0 h) (by decide)

end CString

section Fallible

variable {ε α β : Type} {x : Except ε α} {f : α → Except ε β} {err : ε} {b : β}

theorem bind_eq_ok (h : x >>= f = .ok b) : ∃ a, x = .ok a ∧ f a = .ok b := by
  cases x with
  | error _ => cases h
  | ok a => exact ⟨a, rfl, h⟩

theorem bind_eq_error (h : x >>= f = .error err) : x = .error err ∨ ∃ a, x = .ok a ∧ f a = .error err := by
  cases x with
  | error _ =>
    cases h
    exact .inl rfl
  | ok a => exact .inr ⟨a, rfl, h⟩

theorem map_eq_error {g : α → β} (h : x.map g = .error err) : x = .error err := by
  cases x with
  | error _ =>
    cases h
    rfl
  | ok a => cases h

theorem forM_eq_error {g : α → Except ε Unit} {xs : List α} (h : xs.forM g = .error err) : ∃ a ∈ xs, g a = .error err := by
  induction xs with
  | nil => cases h
  | cons a xs ih =>
    rcases bind_eq_error (x := g a) (f := fun _ => xs.forM g) h with h | ⟨_, -, h⟩
    · exact ⟨a, List.mem_cons_self, h⟩
    · obtain ⟨a', hmem, h⟩ := ih h
      exact ⟨a', List.mem_cons_of_mem _ hmem, h⟩

end Fallible

end Gr4ControlPlane
