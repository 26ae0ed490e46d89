import Gr4ControlPlane.Domain.Bytes
import Gr4ControlPlane.Text.Search
import Mathlib.Algebra.Group.Int.Defs
import Mathlib.Algebra.Group.Nat.Defs
import Mathlib.Data.List.TakeWhile

namespace Gr4ControlPlane.Cli

structure CliError where
  what : Bytes
  deriving DecidableEq

structure ParsedUrl where
  scheme : Bytes
  host : Bytes
  port : Int
  deriving DecidableEq

def isDigit (byte : UInt8) : Bool := 48 ≤ byte && byte ≤ 57

def decimalValue (digits : Bytes) : Nat := digits.foldl (fun value byte => 10 * value + (byte.toNat - 48)) 0

/-- `std::stoi(text)`; the text of both its exceptions is the same. -/
def stoi (text : Bytes) : Except Bytes Int :=
  let (negative, text) := splitSign (text.dropWhile isSpace)
  let digits := text.takeWhile isDigit
  let value : Int := if negative then -decimalValue digits else decimalValue digits
  if digits ≠ [] ∧ -2 ^ 31 ≤ value ∧ value < 2 ^ 31 then .ok value else .error (ascii "stoi")

def parseUrl (url : Bytes) : Except CliError ParsedUrl :=
  if ¬ ascii "http://" <+: url then .error ⟨ascii "only http:// URLs are supported"⟩
  else
    let hostPort := url.drop (ascii "http://").length
    if hostPort = [] then .error ⟨ascii "server URL must include a host"⟩
    else
      match Text.findLast (· == 58) hostPort with
      | none => .error ⟨ascii "server URL must be in the form http://host:port"⟩
      | some colon =>
        if colon = 0 ∨ colon = hostPort.length - 1 then
          .error ⟨ascii "server URL must be in the form http://host:port"⟩
        else
          match stoi (hostPort.drop (colon + 1)) with
          | .ok port => .ok { scheme := ascii "http", host := hostPort.take colon, port := port }
          | .error _ => .error ⟨ascii "server URL port must be numeric"⟩

example : (parseUrl (ascii "http://127.0.0.1:8080")).toOption.map (·.port) = some 8080 := by decide

structure IsPort (port : Bytes) : Prop where
  nonempty : port ≠ []
  digits : ∀ byte ∈ port, isDigit byte = true
  bounded : decimalValue port ≤ 65535

def Documented (url : Bytes) (parsed : ParsedUrl) : Prop :=
  ∃ host port, url = ascii "http://" ++ (host ++ 58 :: port) ∧ host ≠ [] ∧ IsPort port ∧
    parsed = { scheme := ascii "http", host := host, port := decimalValue port }

/-- What `std::stoi` reads as a number. -/
structure Numeral where
  blanks : Bytes
  sign : Bytes
  digits : Bytes
  isBlank : ∀ byte ∈ blanks, isSpace byte = true
  isSign : sign = [] ∨ sign = [43] ∨ sign = [45]
  nonempty : digits ≠ []
  isDecimal : ∀ byte ∈ digits, isDigit byte = true

namespace Numeral

def value (numeral : Numeral) : Int :=
  if numeral.sign = [45] then -decimalValue numeral.digits else decimalValue numeral.digits

def Starts (numeral : Numeral) (text : Bytes) : Prop :=
  ∃ rest, text = numeral.blanks ++ (numeral.sign ++ (numeral.digits ++ rest)) ∧ rest.head?.any isDigit = false

def Fits (numeral : Numeral) : Prop := -2 ^ 31 ≤ numeral.value ∧ numeral.value < 2 ^ 31

end Numeral

variable {text rest url port : Bytes} {value : Int} {parsed : ParsedUrl}

theorem isDigit_range {byte : UInt8} (h : isDigit byte = true) : 48 ≤ byte.toNat ∧ byte.toNat ≤ 57 := by
  simpa [isDigit, UInt8.le_iff_toNat_le] using h

theorem isSpace_of_isDigit {byte : UInt8} (h : isDigit byte = true) : isSpace byte = false := by
  have hrange := isDigit_range h
  simp only [isSpace, Bool.or_eq_false_iff, beq_eq_false_iff_ne, Bool.and_eq_false_iff, decide_eq_false_iff_not, ne_eq,
    ← UInt8.toNat_inj, UInt8.le_iff_toNat_le, UInt8.reduceToNat]
  omega

theorem splitSign_of_isDigit {byte : UInt8} (h : isDigit byte = true) : splitSign (byte :: text) = (false, byte :: text) := by
  have hrange := isDigit_range h
  have hminus : byte ≠ 45 := by
    rintro rfl
    exact absurd hrange (by decide)
  have hplus : byte ≠ 43 := by
    rintro rfl
    exact absurd hrange (by decide)
  simp [splitSign, hminus, hplus]

theorem splitSign_numeral (numeral : Numeral) (rest : Bytes) :
    splitSign (numeral.sign ++ (numeral.digits ++ rest)) = (decide (numeral.sign = [45]), numeral.digits ++ rest) := by
  obtain ⟨first, digits, hdigits⟩ := List.exists_cons_of_ne_nil numeral.nonempty
  have hfirst : isDigit first = true := numeral.isDecimal first (by simp [hdigits])
  rcases numeral.isSign with h | h | h
  · rw [h, hdigits, List.nil_append, List.cons_append, splitSign_of_isDigit hfirst]
    rfl
  · rw [h]
    rfl
  · rw [h]
    rfl

theorem dropWhile_numeral (numeral : Numeral) (rest : Bytes) :
    (numeral.blanks ++ (numeral.sign ++ (numeral.digits ++ rest))).dropWhile isSpace =
      numeral.sign ++ (numeral.digits ++ rest) := by
  rw [List.dropWhile_append_of_pos numeral.isBlank]
  obtain ⟨first, digits, hdigits⟩ := List.exists_cons_of_ne_nil numeral.nonempty
  have hfirst : isSpace first = false := isSpace_of_isDigit (numeral.isDecimal first (by simp [hdigits]))
  rcases numeral.isSign with h | h | h
  · rw [h, hdigits, List.nil_append, List.cons_append, List.dropWhile_cons, hfirst]
    rfl
  · rw [h]
    rfl
  · rw [h]
    rfl

theorem takeWhile_digits (h : ∀ byte ∈ text, isDigit byte = true) (hrest : rest.head?.any isDigit = false) :
    (text ++ rest).takeWhile isDigit = text := by
  rw [List.takeWhile_append_of_pos h]
  cases rest with
  | nil => simp
  | cons byte rest =>
    have hbyte : isDigit byte = false := by simpa using hrest
    simp [hbyte]

theorem stoi_numeral {numeral : Numeral} (hstarts : numeral.Starts text) (hfits : numeral.Fits) : stoi text = .ok numeral.value := by
  obtain ⟨rest, rfl, hrest⟩ := hstarts
  unfold stoi
  rw [dropWhile_numeral, splitSign_numeral]
  dsimp only
  rw [takeWhile_digits numeral.isDecimal hrest]
  simp only [decide_eq_true_eq]
  exact if_pos ⟨numeral.nonempty, hfits⟩

theorem splitSign_cases (text : Bytes) : ∃ sign, (sign = [] ∨ sign = [43] ∨ sign = [45]) ∧
    text = sign ++ (splitSign text).2 ∧ (splitSign text).1 = decide (sign = [45]) := by
  cases text with
  | nil => exact ⟨[], .inl rfl, rfl, rfl⟩
  | cons byte text =>
    by_cases hminus : byte = 45
    · subst hminus
      exact ⟨[45], .inr (.inr rfl), rfl, rfl⟩
    · by_cases hplus : byte = 43
      · subst hplus
        exact ⟨[43], .inr (.inl rfl), rfl, rfl⟩
      · have hsplit : splitSign (byte :: text) = (false, byte :: text) := by simp [splitSign, hminus, hplus]
        rw [hsplit]
        exact ⟨[], .inl rfl, rfl, rfl⟩

theorem exists_numeral (h : stoi text = .ok value) : ∃ numeral : Numeral, numeral.Starts text ∧ numeral.Fits := by
  obtain ⟨sign, hsign, hsplit, hnegative⟩ := splitSign_cases (text.dropWhile isSpace)
  unfold stoi at h
  dsimp only at h
  rw [hnegative] at h
  generalize (splitSign (text.dropWhile isSpace)).2 = unsigned at hsplit h
  simp only [decide_eq_true_eq] at h
  obtain ⟨hdigits, hfits⟩ : unsigned.takeWhile isDigit ≠ [] ∧ _ := by
    by_contra hunread
    rw [if_neg hunread] at h
    cases h
  refine ⟨{ blanks := text.takeWhile isSpace, sign := sign, digits := unsigned.takeWhile isDigit,
            isBlank := fun byte => List.mem_takeWhile_imp, isSign := hsign, nonempty := hdigits,
            isDecimal := fun byte => List.mem_takeWhile_imp }, ⟨unsigned.dropWhile isDigit, ?_, ?_⟩, hfits⟩
  · dsimp only
    rw [List.takeWhile_append_dropWhile, ← hsplit, List.takeWhile_append_dropWhile]
  · have hhead := List.head?_dropWhile_not isDigit unsigned
    cases hrest : unsigned.dropWhile isDigit with
    | nil => rfl
    | cons byte rest =>
      rw [hrest] at hhead
      exact hhead

def IsPort.numeral (h : IsPort port) : Numeral where
  blanks := []
  sign := []
  digits := port
  isBlank := nofun
  isSign := .inl rfl
  nonempty := h.nonempty
  isDecimal := h.digits

theorem IsPort.stoi_eq (h : IsPort port) : stoi port = .ok (decimalValue port) := by
  have hbounded := h.bounded
  refine @stoi_numeral port h.numeral ⟨[], ?_, rfl⟩ ?_
  · simp [IsPort.numeral]
  · simp only [Numeral.Fits, Numeral.value, IsPort.numeral]
    omega

theorem IsPort.no_colon (h : IsPort port) : ∀ byte ∈ port, (byte == 58) = false := by
  intro byte hbyte
  have hrange := isDigit_range (h.digits byte hbyte)
  rw [beq_eq_false_iff_ne]
  rintro rfl
  exact absurd hrange (by decide)

theorem parseUrl_cut {host : Bytes} (hcolon : ∀ byte ∈ port, (byte == 58) = false) :
    parseUrl (ascii "http://" ++ (host ++ 58 :: port)) =
      if host = [] ∨ port = [] then .error ⟨ascii "server URL must be in the form http://host:port"⟩
      else
        match stoi port with
        | .ok value => .ok { scheme := ascii "http", host := host, port := value }
        | .error _ => .error ⟨ascii "server URL port must be numeric"⟩ := by
  unfold parseUrl
  rw [if_neg (not_not.mpr (List.prefix_append _ _)), List.drop_left]
  dsimp only
  rw [if_neg (by simp), Text.findLast_append_cons rfl hcolon]
  dsimp only
  have hends : host.length = 0 ∨ host.length = (host ++ 58 :: port).length - 1 ↔ host = [] ∨ port = [] := by
    rw [List.length_append, List.length_cons, ← List.length_eq_zero_iff, ← List.length_eq_zero_iff]
    omega
  have hport : (host ++ 58 :: port).drop (host.length + 1) = port := by simp
  simp only [hends, hport, List.take_left]

theorem parseUrl_of_no_colon {hostPort : Bytes} (h : ∀ byte ∈ hostPort, (byte == 58) = false) :
    parseUrl (ascii "http://" ++ hostPort) ≠ .ok parsed := by
  unfold parseUrl
  rw [if_neg (not_not.mpr (List.prefix_append _ _)), List.drop_left]
  dsimp only
  rw [Text.findLast_eq_none.mpr h]
  split
  · nofun
  · nofun

theorem parseUrl_eq_ok : parseUrl url = .ok parsed ↔ ∃ host port value, url = ascii "http://" ++ (host ++ 58 :: port) ∧
    host ≠ [] ∧ (∀ byte ∈ port, (byte == 58) = false) ∧ stoi port = .ok value ∧
      parsed = { scheme := ascii "http", host := host, port := value } := by
  constructor
  · intro h
    obtain ⟨hostPort, rfl⟩ : ascii "http://" <+: url := by
      by_contra hscheme
      rw [parseUrl, if_pos hscheme] at h
      cases h
    have hcolons : ∃ byte ∈ hostPort, (byte == 58) = true := by
      by_contra hnone
      exact parseUrl_of_no_colon (fun byte hbyte => Bool.eq_false_iff.mpr fun heq => hnone ⟨byte, hbyte, heq⟩) h
    obtain ⟨host, colon, port, rfl, hcolon, hport⟩ := Text.exists_last hcolons
    obtain rfl : colon = 58 := by simpa using hcolon
    rw [parseUrl_cut hport] at h
    split at h
    · cases h
    · next hparts =>
      cases hvalue : stoi port with
      | error what =>
        rw [hvalue] at h
        cases h
      | ok value =>
        rw [hvalue] at h
        cases h
        exact ⟨host, port, value, rfl, fun hhost => hparts (.inl hhost), hport, hvalue, rfl⟩
  · rintro ⟨host, port, value, rfl, hhost, hcolon, hvalue, rfl⟩
    have hport : port ≠ [] := by
      rintro rfl
      cases hvalue
    rw [parseUrl_cut hcolon, if_neg (by simp [hhost, hport]), hvalue]

/-- The URLs that are accepted are the documented ones exactly if the port, as far as it is read, is all there is. -/
theorem documented_urls_accepted : (∀ parsed, parseUrl url = .ok parsed ↔ Documented url parsed) ↔
    ∀ host port (numeral : Numeral), url = ascii "http://" ++ (host ++ 58 :: port) → host ≠ [] →
      (∀ byte ∈ port, (byte == 58) = false) → numeral.Starts port → numeral.Fits → IsPort port := by
  constructor
  · rintro haccepted host port numeral rfl hhost hcolon hstarts hfits
    have hok := parseUrl_eq_ok.mpr ⟨host, port, _, rfl, hhost, hcolon, stoi_numeral hstarts hfits, rfl⟩
    obtain ⟨host', port', heq, -, hport', -⟩ := (haccepted _).mp hok
    obtain ⟨-, -, rfl⟩ := Text.append_cons_inj_of_last (p := (· == 58)) (List.append_cancel_left heq) rfl rfl hcolon
      hport'.no_colon
    exact hport'
  · intro hports parsed
    rw [parseUrl_eq_ok]
    constructor
    · rintro ⟨host, port, value, hurl, hhost, hcolon, hvalue, rfl⟩
      obtain ⟨numeral, hstarts, hfits⟩ := exists_numeral hvalue
      have hport := hports host port numeral hurl hhost hcolon hstarts hfits
      rw [hport.stoi_eq, Except.ok.injEq] at hvalue
      exact ⟨host, port, hurl, hhost, hport, by rw [hvalue]⟩
    · rintro ⟨host, port, hurl, hhost, hport, rfl⟩
      exact ⟨host, port, _, hurl, hhost, hport.no_colon, hport.stoi_eq, rfl⟩

theorem undocumented_url_accepted :
    parseUrl (ascii "http://h:80abc") = .ok { scheme := ascii "http", host := ascii "h", port := 80 } ∧
      ¬ ∀ parsed, parseUrl (ascii "http://h:80abc") = .ok parsed ↔ Documented (ascii "http://h:80abc") parsed := by
  have hok : parseUrl (ascii "http://h:80abc") = .ok { scheme := ascii "http", host := ascii "h", port := 80 } := by
    decide
  refine ⟨hok, fun h => ?_⟩
  obtain ⟨host, port, hurl, -, hport, -⟩ := (h _).mp hok
  have hsplit : ascii "http://h:80abc" = ascii "http://" ++ (ascii "h" ++ 58 :: ascii "80abc") := by decide
  rw [hsplit] at hurl
  obtain ⟨-, -, rfl⟩ := Text.append_cons_inj_of_last (p := (· == 58)) (List.append_cancel_left hurl) rfl rfl
    (by decide +kernel) hport.no_colon
  exact absurd (hport.digits 97) (by decide)

end Gr4ControlPlane.Cli
