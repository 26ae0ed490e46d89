import Gr4ControlPlane.Domain.Session
import Gr4ControlPlane.Text.FixedWidth
import Mathlib.Algebra.Group.Int.Defs

namespace Gr4ControlPlane

structure MarchDate where
  era : Int
  century : Int
  quad : Int
  year : Int
  dayOfYear : Int
  century_bounds : 0 ≤ century ∧ century ≤ 3
  quad_bounds : 0 ≤ quad ∧ quad ≤ 24
  year_bounds : 0 ≤ year ∧ year ≤ 3
  dayOfYear_bounds : 0 ≤ dayOfYear ∧ dayOfYear ≤ 365
  leap : dayOfYear = 365 → year = 3 ∧ (quad = 24 → century = 3)

namespace MarchDate

def toDay (date : MarchDate) : Int :=
  146097 * date.era + 36524 * date.century + 1461 * date.quad + 365 * date.year + date.dayOfYear - 719468

def ofDay (day : Int) : MarchDate where
  era := (day + 719468) / 146097
  century := min ((day + 719468) % 146097 / 36524) 3
  quad := ((day + 719468) % 146097 - 36524 * min ((day + 719468) % 146097 / 36524) 3) / 1461
  year := min (((day + 719468) % 146097 - 36524 * min ((day + 719468) % 146097 / 36524) 3) % 1461 / 365) 3
  dayOfYear := ((day + 719468) % 146097 - 36524 * min ((day + 719468) % 146097 / 36524) 3) % 1461 -
    365 * min (((day + 719468) % 146097 - 36524 * min ((day + 719468) % 146097 / 36524) 3) % 1461 / 365) 3
  century_bounds := by omega
  quad_bounds := by omega
  year_bounds := by omega
  dayOfYear_bounds := by omega
  leap := by omega

theorem toDay_ofDay (day : Int) : (ofDay day).toDay = day := by
  simp only [toDay, ofDay]
  omega

def marchYear (date : MarchDate) : Int := 400 * date.era + 100 * date.century + 4 * date.quad + date.year

def march (date : MarchDate) : Int := (5 * date.dayOfYear + 2) / 153

variable {date date' : MarchDate}

theorem lt_of_toDay_lt (h : date.toDay < date'.toDay) :
    date.marchYear < date'.marchYear ∨ date.marchYear = date'.marchYear ∧ date.dayOfYear < date'.dayOfYear := by
  obtain ⟨era, c, q, y, d, hc, hq, hy, hd, hleap⟩ := date
  obtain ⟨era', c', q', y', d', hc', hq', hy', hd', hleap'⟩ := date'
  simp only [toDay, marchYear] at h ⊢
  omega

theorem yearOfEra_eq (date : MarchDate) {n : Int}
    (hn : n = 36524 * date.century + 1461 * date.quad + 365 * date.year + date.dayOfYear) :
    (n - n / 1460 + n / 36524 - n / 146096) / 365 = 100 * date.century + 4 * date.quad + date.year := by
  obtain ⟨era, c, q, y, d, hc, hq, hy, hd, hleap⟩ := date
  dsimp only at hn ⊢
  have hlast : n / 146096 = if d = 365 ∧ q = 24 then 1 else 0 := by
    split <;> omega
  have hcentury : n / 36524 = c + if d = 365 ∧ q = 24 then 1 else 0 := by
    split <;> omega
  have hquad : n / 1460 = 25 * c + q + (24 * c + q + 365 * y + d) / 1460 := by omega
  have hyears : n - n / 1460 + n / 36524 - n / 146096 =
      365 * (100 * c + 4 * q + y) + (d - (24 * c + q + 365 * y + d) / 1460) := by
    rw [hlast, hcentury, hquad]
    split <;> omega
  rw [hyears]
  omega

theorem march_bounds (date : MarchDate) : 0 ≤ date.march ∧ date.march ≤ 11 := by
  have hd := date.dayOfYear_bounds
  unfold march
  omega

def day (date : MarchDate) : Int := date.dayOfYear - (153 * date.march + 2) / 5 + 1

theorem day_bounds (date : MarchDate) : 1 ≤ date.day ∧ date.day ≤ 31 := by
  have hd := date.dayOfYear_bounds
  unfold day march
  omega

theorem march_lt (h : date.dayOfYear < date'.dayOfYear) :
    date.march < date'.march ∨ date.march = date'.march ∧ date.day < date'.day := by
  unfold day march
  omega

theorem toDay_eq (date : MarchDate) : (date.toDay + 719468) / 146097 = date.era ∧ (date.toDay + 719468) % 146097 =
    36524 * date.century + 1461 * date.quad + 365 * date.year + date.dayOfYear := by
  have hc := date.century_bounds
  have hq := date.quad_bounds
  have hy := date.year_bounds
  have hd := date.dayOfYear_bounds
  have hleap := date.leap
  unfold toDay
  omega

theorem dayOfYear_eq (date : MarchDate) :
    36524 * date.century + 1461 * date.quad + 365 * date.year + date.dayOfYear -
      (365 * (100 * date.century + 4 * date.quad + date.year) + (100 * date.century + 4 * date.quad + date.year) / 4 -
        (100 * date.century + 4 * date.quad + date.year) / 100) = date.dayOfYear := by
  have hq := date.quad_bounds
  have hy := date.year_bounds
  omega

theorem civilDate_toDay (date : MarchDate) :
    civilDate date.toDay =
      (date.marchYear + (if date.march < 10 then 0 else 1), (if date.march < 10 then date.march + 3 else date.march - 9),
        date.day) := by
  have hmarch := date.march_bounds
  have hmonth : (5 * date.dayOfYear + 2) / 153 = date.march := rfl
  have hday : date.dayOfYear - (153 * date.march + 2) / 5 + 1 = date.day := rfl
  unfold civilDate
  dsimp only
  rw [date.toDay_eq.1, date.toDay_eq.2, date.yearOfEra_eq rfl, date.dayOfYear_eq, hmonth, hday]
  refine Prod.ext ?_ rfl
  unfold marchYear
  dsimp only
  generalize date.march = m at hmarch ⊢
  split <;> split <;> omega

theorem civilDate_lt {day day' : Int} (h : day < day') :
    (civilDate day).1 < (civilDate day').1 ∨ (civilDate day).1 = (civilDate day').1 ∧
      ((civilDate day).2.1 < (civilDate day').2.1 ∨ (civilDate day).2.1 = (civilDate day').2.1 ∧
        (civilDate day).2.2 < (civilDate day').2.2) := by
  rw [← toDay_ofDay day, ← toDay_ofDay day'] at h ⊢
  generalize ofDay day = date at h ⊢
  generalize ofDay day' = date' at h ⊢
  have hlt := (lt_of_toDay_lt h).imp_right (And.imp_right march_lt)
  have hm := date.march_bounds
  have hm' := date'.march_bounds
  rw [civilDate_toDay, civilDate_toDay]
  dsimp only
  generalize date.march = m at hlt hm ⊢
  generalize date'.march = m' at hlt hm' ⊢
  split <;> split <;> omega

theorem civilDate_bounds (day : Int) :
    1 ≤ (civilDate day).2.1 ∧ (civilDate day).2.1 ≤ 12 ∧ 1 ≤ (civilDate day).2.2 ∧ (civilDate day).2.2 ≤ 31 := by
  rw [← toDay_ofDay day, civilDate_toDay]
  generalize ofDay day = date
  have hm := date.march_bounds
  have hday := date.day_bounds
  dsimp only
  generalize date.march = m at hm ⊢
  split <;> omega

end MarchDate

/-! ### The text -/

theorem decimalPadded_eq (width n : Nat) :
    decimalPadded width n = Text.positional (fun digit => UInt8.ofNat (48 + digit)) 10 width n := by
  induction width generalizing n with
  | zero => rfl
  | succ width ih => rw [decimalPadded, Text.positional, ih]

theorem decimalPadded_append_lt {width : Nat} {m n : Int} {rest rest' : Bytes} (hm : 0 ≤ m) (hn : n < 10 ^ width)
    (h : m < n ∨ m = n ∧ rest < rest') :
    decimalPadded width m.toNat ++ rest < decimalPadded width n.toNat ++ rest' := by
  have hdigit : ∀ j < 10, ∀ i < j, UInt8.ofNat (48 + i) < UInt8.ofNat (48 + j) := by decide
  have hbase : 0 < 10 := by decide
  have hn' : n.toNat < 10 ^ width := by
    have hpow : ((10 ^ width : Nat) : Int) = 10 ^ width := by simp
    have hpos : 0 < 10 ^ width := Nat.pow_pos hbase
    omega
  rw [decimalPadded_eq, decimalPadded_eq]
  refine Text.positional_append_lt hbase (fun i j hij hj => hdigit j hj i hij) hn' ?_
  exact h.imp (fun h => by omega) fun h => ⟨by rw [h.1], h.2⟩

theorem separator_append_lt {rest rest' : Bytes} (separator : Bytes) (h : rest < rest') :
    separator ++ rest < separator ++ rest' :=
  Text.append_lt_append rfl (.inr ⟨rfl, h⟩)

def dateText (date : Int × Int × Int) (rest : Bytes) : Bytes :=
  decimalPadded 4 date.1.toNat ++ (ascii "-" ++ (decimalPadded 2 date.2.1.toNat ++ (ascii "-" ++
    (decimalPadded 2 date.2.2.toNat ++ (ascii "T" ++ rest)))))

def timeText (ofDay : Int) : Bytes :=
  decimalPadded 2 (ofDay / 3600).toNat ++ (ascii ":" ++ (decimalPadded 2 (ofDay / 60 % 60).toNat ++ (ascii ":" ++
    (decimalPadded 2 (ofDay % 60).toNat ++ ascii "Z"))))

theorem formatTimestampUtc_eq (timestamp : Timestamp) :
    formatTimestampUtc timestamp = dateText (civilDate (timestamp.tdiv 1000000000 / 86400))
      (timeText (timestamp.tdiv 1000000000 % 86400)) := by
  unfold formatTimestampUtc dateText timeText
  simp only [List.append_assoc]

theorem dateText_lt {day day' : Int} {rest rest' : Bytes} (hyear : 0 ≤ (civilDate day).1)
    (hyear' : (civilDate day').1 < 10000) (h : day < day' ∨ day = day' ∧ rest < rest') :
    dateText (civilDate day) rest < dateText (civilDate day') rest' := by
  obtain ⟨hmonth, -, hday, -⟩ := MarchDate.civilDate_bounds day
  obtain ⟨-, hmonth', -, hday'⟩ := MarchDate.civilDate_bounds day'
  unfold dateText
  refine decimalPadded_append_lt hyear hyear' ?_
  rcases h with h | ⟨rfl, h⟩
  · rcases MarchDate.civilDate_lt h with h | ⟨heq, h⟩
    · exact .inl h
    · refine .inr ⟨heq, separator_append_lt _ (decimalPadded_append_lt (by omega) (by omega) ?_)⟩
      rcases h with h | ⟨heq, h⟩
      · exact .inl h
      · exact .inr ⟨heq, separator_append_lt _ (decimalPadded_append_lt (by omega) (by omega) (.inl h))⟩
  · refine .inr ⟨rfl, separator_append_lt _ (decimalPadded_append_lt (by omega) (by omega) ?_)⟩
    refine .inr ⟨rfl, separator_append_lt _ (decimalPadded_append_lt (by omega) (by omega) ?_)⟩
    exact .inr ⟨rfl, separator_append_lt _ h⟩

theorem timeText_lt {ofDay ofDay' : Int} (hpos : 0 ≤ ofDay) (hlt : ofDay' < 86400) (h : ofDay < ofDay') :
    timeText ofDay < timeText ofDay' := by
  unfold timeText
  refine decimalPadded_append_lt (by omega) (by omega) ?_
  by_cases hhour : ofDay / 3600 = ofDay' / 3600
  · refine .inr ⟨hhour, separator_append_lt _ (decimalPadded_append_lt (by omega) (by omega) ?_)⟩
    by_cases hminute : ofDay / 60 % 60 = ofDay' / 60 % 60
    · refine .inr ⟨hminute, separator_append_lt _ (decimalPadded_append_lt (by omega) (by omega) (.inl ?_))⟩
      omega
    · exact .inl (by omega)
  · exact .inl (by omega)

theorem seconds_cases (timestamp : Int) :
    0 ≤ timestamp ∧ timestamp.tdiv 1000000000 = timestamp / 1000000000 ∨
      timestamp < 0 ∧ timestamp.tdiv 1000000000 = -(-timestamp / 1000000000) := by
  rcases Int.lt_or_le timestamp 0 with h | h
  · refine .inr ⟨h, ?_⟩
    have hneg : timestamp.tdiv 1000000000 = -(-timestamp).tdiv 1000000000 := by rw [Int.neg_tdiv, Int.neg_neg]
    rw [hneg, Int.tdiv_eq_ediv_of_nonneg (by omega)]
  · exact .inl ⟨h, Int.tdiv_eq_ediv_of_nonneg h⟩

theorem lt_of_seconds_lt {timestamp timestamp' : Int}
    (h : timestamp.tdiv 1000000000 < timestamp'.tdiv 1000000000) : timestamp < timestamp' := by
  have := seconds_cases timestamp
  have := seconds_cases timestamp'
  omega

theorem seconds_le {timestamp timestamp' : Int} (h : timestamp ≤ timestamp') :
    timestamp.tdiv 1000000000 ≤ timestamp'.tdiv 1000000000 :=
  Int.not_lt.mp fun hlt => Int.not_lt.mpr h (lt_of_seconds_lt hlt)

theorem civilDate_year {timestamp : Int} (hmin : -2 ^ 63 ≤ timestamp) (hmax : timestamp < 2 ^ 63) :
    0 ≤ (civilDate (timestamp.tdiv 1000000000 / 86400)).1 ∧ (civilDate (timestamp.tdiv 1000000000 / 86400)).1 < 10000 := by
  have hday : -106752 ≤ timestamp.tdiv 1000000000 / 86400 ∧ timestamp.tdiv 1000000000 / 86400 ≤ 106751 := by
    have := seconds_cases timestamp
    omega
  have hfirst : (civilDate (-106752)).1 = 1677 := by decide
  have hlast : (civilDate 106751).1 = 2262 := by decide
  generalize timestamp.tdiv 1000000000 / 86400 = day at hday ⊢
  have hmono : ∀ {day day' : Int}, day ≤ day' → (civilDate day).1 ≤ (civilDate day').1 := by
    intro day day' h
    rcases Int.le_iff_lt_or_eq.mp h with h | rfl
    · have := MarchDate.civilDate_lt h
      omega
    · exact Int.le_refl _
  have := hmono hday.1
  have := hmono hday.2
  omega

theorem formatTimestampUtc_lt {timestamp timestamp' : Int} (hmin : -2 ^ 63 ≤ timestamp) (hmax : timestamp' < 2 ^ 63)
    (h : timestamp.tdiv 1000000000 < timestamp'.tdiv 1000000000) :
    formatTimestampUtc timestamp < formatTimestampUtc timestamp' := by
  have hlt := lt_of_seconds_lt h
  rw [formatTimestampUtc_eq, formatTimestampUtc_eq]
  refine dateText_lt (civilDate_year hmin (by omega)).1 (civilDate_year (by omega) hmax).2 ?_
  generalize timestamp.tdiv 1000000000 = seconds at h ⊢
  generalize timestamp'.tdiv 1000000000 = seconds' at h ⊢
  by_cases hday : seconds / 86400 = seconds' / 86400
  · exact .inr ⟨hday, timeText_lt (by omega) (by omega) (by omega)⟩
  · exact .inl (by omega)

theorem formatTimestampUtc_congr {timestamp timestamp' : Int}
    (h : timestamp.tdiv 1000000000 = timestamp'.tdiv 1000000000) :
    formatTimestampUtc timestamp = formatTimestampUtc timestamp' := by
  rw [formatTimestampUtc_eq, formatTimestampUtc_eq, h]

/-- The texts of two points in time compare as these do, up to the second that they are cut off to. -/
theorem formatTimestampUtc_order {timestamp timestamp' : Int} (hmin : -2 ^ 63 ≤ timestamp)
    (hmax : timestamp < 2 ^ 63) (hmin' : -2 ^ 63 ≤ timestamp') (hmax' : timestamp' < 2 ^ 63) :
    (formatTimestampUtc timestamp < formatTimestampUtc timestamp' ↔
        timestamp.tdiv 1000000000 < timestamp'.tdiv 1000000000) ∧
      (formatTimestampUtc timestamp = formatTimestampUtc timestamp' ↔
        timestamp.tdiv 1000000000 = timestamp'.tdiv 1000000000) := by
  have hlt := fun h => formatTimestampUtc_lt hmin hmax' h
  have hgt := fun h => formatTimestampUtc_lt hmin' hmax h
  have heq := @formatTimestampUtc_congr timestamp timestamp'
  generalize formatTimestampUtc timestamp = text at hlt hgt heq ⊢
  generalize formatTimestampUtc timestamp' = text' at hlt hgt heq ⊢
  rcases Int.lt_trichotomy (timestamp.tdiv 1000000000) (timestamp'.tdiv 1000000000) with h | h | h
  · refine ⟨iff_of_true (hlt h) h, iff_of_false ?_ (Int.ne_of_lt h)⟩
    rintro rfl
    exact List.lt_irrefl _ (hlt h)
  · refine ⟨iff_of_false ?_ (by omega), iff_of_true (heq h) h⟩
    rw [heq h]
    exact List.lt_irrefl _
  · refine ⟨iff_of_false (fun hless => List.lt_irrefl _ (List.lt_trans hless (hgt h))) (by omega), iff_of_false ?_ (by omega)⟩
    rintro rfl
    exact List.lt_irrefl _ (hgt h)

theorem formatTimestampUtc_order_leap :
    formatTimestampUtc 951868799999999999 < formatTimestampUtc 951868800000000000 :=
  (formatTimestampUtc_order (by decide) (by decide) (by decide) (by decide)).1.mpr (by decide)

end Gr4ControlPlane
