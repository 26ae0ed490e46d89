import Gr4ControlPlane.Domain.Bytes

namespace Gr4ControlPlane

inductive SessionState
  | stopped | running | error
  deriving DecidableEq

def SessionState.toString : SessionState → Bytes
  | .stopped => ascii "stopped"
  | .running => ascii "running"
  | .error => ascii "error"

/-- `std::chrono::system_clock::time_point`, in clock ticks. -/
abbrev Timestamp := Int

/-- Year, month and day of a day counted from the epoch, as `gmtime_r` has them; the years are
counted from March, in cycles of 400. -/
def civilDate (day : Int) : Int × Int × Int :=
  let shifted := day + 719468
  let era := shifted / 146097
  let dayOfEra := shifted % 146097
  let yearOfEra := (dayOfEra - dayOfEra / 1460 + dayOfEra / 36524 - dayOfEra / 146096) / 365
  let dayOfYear := dayOfEra - (365 * yearOfEra + yearOfEra / 4 - yearOfEra / 100)
  let march := (5 * dayOfYear + 2) / 153
  let month := if march < 10 then march + 3 else march - 9
  (yearOfEra + era * 400 + (if month ≤ 2 then 1 else 0), month, dayOfYear - (153 * march + 2) / 5 + 1)

/-- A tick of the clock is a nanosecond, and `to_time_t` cuts them off. -/
def formatTimestampUtc (timestamp : Timestamp) : Bytes :=
  let seconds := timestamp.tdiv 1000000000
  let (year, month, day) := civilDate (seconds / 86400)
  let ofDay := seconds % 86400
  let two (n : Int) : Bytes := decimalPadded 2 n.toNat
  decimalPadded 4 year.toNat ++ ascii "-" ++ two month ++ ascii "-" ++ two day ++ ascii "T" ++
    two (ofDay / 3600) ++ ascii ":" ++ two (ofDay / 60 % 60) ++ ascii ":" ++ two (ofDay % 60) ++ ascii "Z"

example : formatTimestampUtc 1709210096999999999 = ascii "2024-02-29T12:34:56Z" := by decide

structure Session where
  id : Bytes
  name : Bytes
  grcContent : Bytes
  schedulerAlias : Option Bytes
  state : SessionState
  lastError : Option Bytes
  createdAt : Timestamp
  updatedAt : Timestamp
  deriving DecidableEq

/-- The two records describe the same session, as it was created. -/
structure Session.SameOrigin (s s' : Session) : Prop where
  id : s'.id = s.id
  name : s'.name = s.name
  grcContent : s'.grcContent = s.grcContent
  schedulerAlias : s'.schedulerAlias = s.schedulerAlias
  createdAt : s'.createdAt = s.createdAt

theorem Session.SameOrigin.refl (s : Session) : s.SameOrigin s := ⟨rfl, rfl, rfl, rfl, rfl⟩

theorem Session.SameOrigin.trans {s s' s'' : Session} (h : s.SameOrigin s')
    (h' : s'.SameOrigin s'') : s.SameOrigin s'' :=
  ⟨h'.id.trans h.id, h'.name.trans h.name, h'.grcContent.trans h.grcContent,
    h'.schedulerAlias.trans h.schedulerAlias, h'.createdAt.trans h.createdAt⟩

end Gr4ControlPlane
