import Gr4ControlPlane.App.SessionInvariants
import Gr4ControlPlane.Domain.Json
import Gr4ControlPlane.Domain.Pmt

open Gr4ControlPlane.Interleaving

namespace Gr4ControlPlane

inductive BlockSettingsMode
  | staged | immediate
  deriving DecidableEq

def BlockSettingsMode.toString : BlockSettingsMode → Bytes
  | .staged => ascii "staged_settings"
  | .immediate => ascii "settings"

inductive SettingsThrown
  | blockNotFound (what : Bytes)
  | replyTimeout (what : Bytes)
  | exception (what : Bytes)
  | unknown
  deriving DecidableEq

structure BlockSettingsUpdateResult where
  sessionId : Bytes
  block : Bytes
  appliedVia : Bytes
  accepted : Bool
  deriving DecidableEq

structure BlockSettingsRuntime where
  setBlockSettings : Session → Bytes → PropertyMap → BlockSettingsMode → Except SettingsThrown Unit
  getBlockSettings : Session → Bytes → Except SettingsThrown PropertyMap

def AppError.what : AppError → Bytes
  | .notFound what | .validation what | .invalidState what | .runtime what | .stdException what => what

namespace BlockSettingsService

def loadRunningSessionOrThrow (repository : InMemorySessionRepository) (sessionId : Bytes) : Except AppError Session :=
  match repository.get sessionId with
  | none => .error (.notFound (ascii "session not found: " ++ sessionId))
  | some session =>
    if session.state ≠ .running then .error (.invalidState (ascii "session not running: " ++ sessionId))
    else .ok session

/-- `get<std::int64_t>()` of a number that may be unsigned. -/
def toInt64 (n : Int) : Int := (n + 2 ^ 63) % 2 ^ 64 - 2 ^ 63

mutual

/-- `is_number_integer` also holds of unsigned numbers, so the branch for these is never taken. -/
def jsonToPmtValue : Json → Except AppError Value
  | .null => .ok .null
  | .boolean b => .ok (.boolean b)
  | .integer n => .ok (.integer (toInt64 n))
  | .real bits => .ok (.real bits)
  | .string s => .ok (.string s)
  | .object members => do return .map (← insertMembers [] members)
  | .array _ => .error (.validation (ascii "settings arrays are not supported"))

def insertMembers (result : PropertyMap) : List (Bytes × Json) → Except AppError PropertyMap
  | [] => .ok result
  | (key, item) :: members => do
    let value ← jsonToPmtValue item
    insertMembers (result.insertOrAssign key value) members

end

def jsonToPropertyMap : Json → Except AppError PropertyMap
  | .object members => insertMembers [] members
  | _ => .error (.validation (ascii "settings body must be a JSON object"))

/-- `result[key] = value` on a JSON object, whose members are kept in the order of their keys. -/
def assignMember : List (Bytes × Json) → Bytes → Json → List (Bytes × Json)
  | [], key, value => [(key, value)]
  | (k, v) :: members, key, value =>
    if key = k then (k, value) :: members
    else if key < k then (key, value) :: (k, v) :: members
    else (k, v) :: assignMember members key value

mutual

def pmtValueToJson : Value → Except AppError Json
  | .null => .ok .null
  | .boolean b => .ok (.boolean b)
  | .integer n => .ok (.integer n)
  | .real bits => .ok (.real bits)
  | .string s => .ok (.string s)
  | .map entries => do return .object (← assignEntries [] entries)
  | .tensor _ | .other _ => .error (.runtime (ascii "runtime returned unsupported settings value"))

def assignEntries (result : List (Bytes × Json)) : List (Bytes × Value) → Except AppError (List (Bytes × Json))
  | [] => .ok result
  | (key, item) :: entries => do
    let value ← pmtValueToJson item
    assignEntries (assignMember result key value) entries

end

def propertyMapToJson (value : PropertyMap) : Except AppError Json := do
  return .object (← assignEntries [] value)

/-- The handlers around the runtime calls; anything but a `std::exception` passes them. -/
def translate : SettingsThrown → Raised
  | .blockNotFound what => .app (.notFound (cString what))
  | .replyTimeout what => .timeout (cString what)
  | .exception what => .app (.runtime (cString what))
  | .unknown => .unknown

variable (repository : InMemorySessionRepository) (runtime : BlockSettingsRuntime)

def update (sessionId block : Bytes) (patch : Json) (mode : BlockSettingsMode) :
    Except Raised BlockSettingsUpdateResult := do
  let session ← (loadRunningSessionOrThrow repository sessionId).mapError .app
  let propertyMap ← (jsonToPropertyMap patch).mapError .app
  (runtime.setBlockSettings session block propertyMap mode).mapError translate
  return { sessionId := session.id, block := block, appliedVia := mode.toString, accepted := true }

def get (sessionId block : Bytes) : Except Raised Json := do
  let session ← (loadRunningSessionOrThrow repository sessionId).mapError .app
  let settings ← (runtime.getBlockSettings session block).mapError translate
  -- the conversion is inside the `try` block too
  (propertyMapToJson settings).mapError fun err => .app (.runtime (cString err.what))

variable {repository runtime} {service : SessionService} {x : Bytes} {s : Session} {err : AppError}

theorem loadRunningSessionOrThrow_eq_ok :
    loadRunningSessionOrThrow repository x = .ok s ↔ repository.get x = some s ∧ s.state = .running := by
  unfold loadRunningSessionOrThrow
  cases hget : repository.get x with
  | none => simp
  | some stored =>
    by_cases hstate : stored.state = .running
    · simp only [hstate, ne_eq, not_true_eq_false, if_false, Except.ok.injEq, Option.some.injEq]
      exact ⟨fun h => ⟨h, h ▸ hstate⟩, And.left⟩
    · simp only [hstate, ne_eq, not_false_eq_true, if_true, Option.some.injEq, reduceCtorEq, false_iff]
      rintro ⟨rfl, h⟩
      exact hstate h

theorem loadRunningSessionOrThrow_of_not_running (hget : repository.get x = some s) (hstate : s.state ≠ .running) :
    loadRunningSessionOrThrow repository x = .error (.invalidState (ascii "session not running: " ++ x)) := by
  simp [loadRunningSessionOrThrow, hget, hstate]

theorem update_refused (h : loadRunningSessionOrThrow repository x = .error err) (runtime : BlockSettingsRuntime)
    (block : Bytes) (patch : Json) (mode : BlockSettingsMode) :
    update repository runtime x block patch mode = .error (.app err) := by
  unfold update
  rw [h]
  rfl

theorem get_refused (h : loadRunningSessionOrThrow repository x = .error err) (runtime : BlockSettingsRuntime)
    (block : Bytes) : get repository runtime x block = .error (.app err) := by
  unfold get
  rw [h]
  rfl

open SessionService

variable {R : Interface} {rm : RuntimeManager R} {M : RuntimeMachine R} {c : Config (system rm M)}

/-- Settings requests on the session are let through where stream requests are, and refused while a
lifecycle call works on it. -/
structure Guarded (c : Config (system rm M)) (x : Bytes) : Prop where
  admits : (∃ s, loadRunningSessionOrThrow c.shared.1.repository x = .ok s) ↔ ∃ s, c.shared.1.streamGate x = .ok s
  refuses : (∃ i, UnderWay c x i) → ∃ what,
    (∀ runtime block patch mode, update c.shared.1.repository runtime x block patch mode =
      .error (.app (.invalidState what))) ∧
    ∀ runtime block, get c.shared.1.repository runtime x block = .error (.app (.invalidState what))

def StaleRunning (c : Config (system rm M)) (x : Bytes) : Prop :=
  (∃ s, c.shared.1.repository.get x = some s ∧ s.state = .running) ∧ ∃ i, UnderWay c x i

theorem settings_guarded (h : Reachable rm M c) (x : Bytes) : Guarded c x ↔ ¬ StaleRunning c x := by
  rcases h.slot_cases x with ⟨hfree, hv⟩ | ⟨hi, s, hv⟩
  · refine iff_of_true ⟨?_, fun hi => absurd hi hfree⟩ fun hstale => hfree hstale.2
    simp only [loadRunningSessionOrThrow_eq_ok, streamGate_eq_ok]
    refine exists_congr fun s => and_congr_right fun hget => (and_iff_left_of_imp fun hstate => ?_).symm
    rw [phaseFor_atRest hv hget, hstate]
    rfl
  · have hget : c.shared.1.repository.get x = some s := hv.record
    obtain ⟨phase, hphase, hbusy⟩ := hv.phase
    have hrefused : ¬ ∃ s, c.shared.1.streamGate x = .ok s := by
      rintro ⟨s', hgate⟩
      obtain ⟨hget', -, hrunning⟩ := streamGate_eq_ok.mp hgate
      obtain rfl : s = s' := Option.some.inj (hget.symm.trans hget')
      rw [phaseFor_of_slot hget, hphase] at hrunning
      obtain rfl : phase = .running := by simpa using hrunning
      cases hbusy
    by_cases hstate : s.state = .running
    · refine iff_of_false (fun hg => ?_) (not_not_intro ⟨⟨s, hget, hstate⟩, hi⟩)
      exact hrefused (hg.admits.mp ⟨s, loadRunningSessionOrThrow_eq_ok.mpr ⟨hget, hstate⟩⟩)
    · have hload := loadRunningSessionOrThrow_of_not_running hget hstate
      refine iff_of_true ⟨iff_of_false ?_ hrefused, fun _ => ⟨_, update_refused hload, get_refused hload⟩⟩ ?_
      · rintro ⟨s', hs'⟩
        rw [hload] at hs'
        cases hs'
      · rintro ⟨⟨s', hget', hstate'⟩, -⟩
        obtain rfl : s = s' := Option.some.inj (hget.symm.trans hget')
        exact hstate hstate'

theorem startingConfig_state : ∀ s ∈ startingConfig.shared.1.repository.get (generateSessionId 7), s.state ≠ .running := by
  decide +kernel

theorem settings_guarded_starting : Guarded startingConfig (generateSessionId 7) :=
  (settings_guarded reachable_startingConfig _).mpr fun ⟨⟨s, hs, hstate⟩, _⟩ => startingConfig_state s hs hstate

def stoppingRun : List (Label (system outcomeRuntime outcomeMachine)) :=
  [.invoke (.create 7 (ascii "fm") (ascii "blocks: []") none) ⟨1, .ok ()⟩,
    .invoke (.lifecycle .start (generateSessionId 7)) ⟨2, .ok ()⟩,
    .run 1 ⟨3, .ok ()⟩, .run 1 ⟨4, .ok ()⟩, .run 1 ⟨5, .ok ()⟩,
    .invoke (.lifecycle .stop (generateSessionId 7)) ⟨6, .ok ()⟩]

def stoppingConfig : Config (system outcomeRuntime outcomeMachine) :=
  (Config.run ⟨(empty, []), []⟩ stoppingRun).get (by decide +kernel)

theorem reachable_stoppingConfig : Reachable outcomeRuntime outcomeMachine stoppingConfig :=
  .of_run .init (Option.some_get _).symm

theorem stoppingConfig_load :
    (loadRunningSessionOrThrow stoppingConfig.shared.1.repository (generateSessionId 7)).isOk = true := by
  decide +kernel

theorem stoppingConfig_gate : (stoppingConfig.shared.1.streamGate (generateSessionId 7)).isOk = false := by
  decide +kernel

attribute [irreducible] stoppingConfig

theorem settings_unguarded :
    ¬ ∀ c : Config (system outcomeRuntime outcomeMachine), Reachable outcomeRuntime outcomeMachine c →
      ∀ x, Guarded c x := by
  intro guarded
  have admits := (guarded stoppingConfig reachable_stoppingConfig (generateSessionId 7)).admits
  have hload := stoppingConfig_load
  have hgate := stoppingConfig_gate
  cases hl : loadRunningSessionOrThrow stoppingConfig.shared.1.repository (generateSessionId 7) with
  | error err =>
    rw [hl] at hload
    cases hload
  | ok s =>
    obtain ⟨s', hs'⟩ := admits.mp ⟨s, hl⟩
    rw [hs'] at hgate
    cases hgate

end BlockSettingsService

end Gr4ControlPlane
