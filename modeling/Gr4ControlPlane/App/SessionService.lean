import Gr4ControlPlane.Domain.SessionStream
import Gr4ControlPlane.Runtime.RuntimeManager
import Gr4ControlPlane.Storage.InMemorySessionRepository

/-! `SessionService` over an in-memory repository.  Each function below is one section
under `mutex_`; the runtime calls in between run without the lock. -/

open Gr4ControlPlane.Interleaving

namespace Gr4ControlPlane

inductive AppError
  | notFound (what : Bytes)
  | validation (what : Bytes)
  | invalidState (what : Bytes)
  | runtime (what : Bytes)
  | stdException (what : Bytes)
  deriving DecidableEq

inductive Raised
  | app (error : AppError)
  | timeout (what : Bytes)
  | schedulerCatalogLoad (what : Bytes)
  | catalogLoad (what : Bytes)
  | unknown
  deriving DecidableEq

inductive InternalLifecyclePhase
  | idle | starting | running | stopping | failed
  deriving DecidableEq

inductive Operation
  | start | stop | restart | remove
  deriving DecidableEq

def Operation.action : Operation → Bytes
  | .start => ascii "start"
  | .stop => ascii "stop"
  | .restart => ascii "restart"
  | .remove => ascii "remove"

/-- Both overloads of `runtime_message`. -/
def runtimeMessage (action id : Bytes) : Thrown → Bytes
  | .exception what => ascii "runtime " ++ action ++ ascii " failed for session " ++ id ++ ascii ": " ++
      cString what
  | .unknown => ascii "runtime " ++ action ++ ascii " failed for session " ++ id

/-- `generate_session_id` for one draw of the generator. -/
def generateSessionId (draw : UInt64) : Bytes := ascii "sess_" ++ hexPadded 16 draw.toNat

inductive Admission
  | proceed (session : Session)
  | settled (session : Session)
  deriving DecidableEq

structure SessionService where
  repository : InMemorySessionRepository
  phases : Finmap fun _ : Bytes => InternalLifecyclePhase

namespace SessionService

variable (service : SessionService)

def phaseFor (session : Session) : InternalLifecyclePhase :=
  match service.phases.lookup session.id with
  | some phase => phase
  | none =>
    match session.state with
    | .stopped => .idle
    | .running => .running
    | .error => .failed

def loadOrThrow (id : Bytes) : Except AppError Session :=
  match service.repository.get id with
  | some session => .ok session
  | none => .error (.notFound (ascii "session not found: " ++ id))

def setPhase (id : Bytes) (phase : InternalLifecyclePhase) : SessionService :=
  { service with phases := service.phases.insert id phase }

def storeSession (session : Session) (phase : InternalLifecyclePhase) :
    Except AppError SessionService :=
  match service.repository.update session with
  | .ok repository => .ok { repository := repository, phases := service.phases.insert session.id phase }
  | .error what => .error (.stdException what)

/-- `draw` is the last value the id loop draws; `none` while the loop would go on. -/
def create (draw : UInt64) (name grc : Bytes) (schedulerAlias : Option Bytes) (now : Timestamp) :
    Option (Except AppError (Session × SessionService)) :=
  if grc = [] then some (.error (.validation (ascii "grc_content must not be empty")))
  else
    let session : Session :=
      { id := generateSessionId draw, name := name, grcContent := grc, schedulerAlias := schedulerAlias,
        state := .stopped, lastError := none, createdAt := now, updatedAt := now }
    if (service.repository.get session.id).isSome then none
    else
      match service.repository.create session with
      | .ok repository =>
        some (.ok (session, { repository := repository, phases := service.phases.insert session.id .idle }))
      | .error what => some (.error (.stdException what))

def admitStart (id : Bytes) : Except AppError (Admission × SessionService) := do
  let session ← service.loadOrThrow id
  let phase := service.phaseFor session
  if session.state = .running ∨ phase = .running then
    throw (.invalidState (ascii "session already running: " ++ id))
  else if phase = .starting then
    throw (.invalidState (ascii "session start already in progress: " ++ id))
  else if phase = .stopping then
    throw (.invalidState (ascii "session stop in progress: " ++ id))
  else
    return (.proceed session, service.setPhase id .starting)

def admitStop (id : Bytes) : Except AppError (Admission × SessionService) := do
  let session ← service.loadOrThrow id
  let phase := service.phaseFor session
  if phase = .stopping then
    throw (.invalidState (ascii "session stop already in progress: " ++ id))
  else if phase = .starting then
    throw (.invalidState (ascii "session start in progress: " ++ id))
  else if session.state = .stopped ∧ phase = .idle then
    return (.settled session, service)
  else
    return (.proceed session, service.setPhase id .stopping)

def admitRestart (id : Bytes) : Except AppError (Admission × SessionService) := do
  let session ← service.loadOrThrow id
  let phase := service.phaseFor session
  if phase = .stopping then
    throw (.invalidState (ascii "session stop in progress: " ++ id))
  else if phase = .starting then
    throw (.invalidState (ascii "session start already in progress: " ++ id))
  else
    return (.proceed session, service.setPhase id .starting)

def admitRemove (id : Bytes) : Except AppError (Admission × SessionService) := do
  let session ← service.loadOrThrow id
  let phase := service.phaseFor session
  if phase = .stopping then
    throw (.invalidState (ascii "session stop in progress: " ++ id))
  else if phase = .starting then
    throw (.invalidState (ascii "session start in progress: " ++ id))
  else
    return (.proceed session, service.setPhase id .stopping)

/-- The first section of a lifecycle call. -/
def admission : Operation → Bytes → Except AppError (Admission × SessionService)
  | .start => service.admitStart
  | .stop => service.admitStop
  | .restart => service.admitRestart
  | .remove => service.admitRemove

/-- The last section of `start`, `stop` and `restart`. -/
def commitState (state : SessionState) (phase : InternalLifecyclePhase) (id : Bytes)
    (now : Timestamp) : Except AppError (Option Session × SessionService) := do
  let loaded ← service.loadOrThrow id
  let session := { loaded with state := state, lastError := none, updatedAt := now }
  return (some session, ← service.storeSession session phase)

def commitRemove (id : Bytes) : Except AppError (Option Session × SessionService) :=
  match service.repository.remove id with
  | (true, repository) => .ok (none, { repository := repository, phases := service.phases.erase id })
  | (false, _) => .error (.notFound (ascii "session not found: " ++ id))

def commit (op : Operation) (id : Bytes) (now : Timestamp) :
    Except AppError (Option Session × SessionService) :=
  match op with
  | .start => service.commitState .running .running id now
  | .stop => service.commitState .stopped .idle id now
  | .restart => service.commitState .running .running id now
  | .remove => service.commitRemove id

/-- What `record_runtime_failure` stores; it then throws `RuntimeError(message)`. -/
def recordRuntimeFailure (id message : Bytes) (now : Timestamp) :
    Except AppError (Unit × SessionService) := do
  let loaded ← service.loadOrThrow id
  let session := { loaded with state := .error, lastError := some message, updatedAt := now }
  return ((), ← service.storeSession session .failed)

/-- `active_stream_plan`, given the one of the runtime manager, which does not throw. -/
def activeStreamPlan (lookup : Session → Option StreamRuntimePlan) (id : Bytes) :
    Except AppError (Option StreamRuntimePlan) := do
  let session ← service.loadOrThrow id
  if session.state ≠ .running ∨ service.phaseFor session ≠ .running then return none
  else return lookup session

/-- The section that `fetch_http_stream` and `resolve_websocket_stream` begin with. -/
def streamGate (id : Bytes) : Except AppError Session := do
  let session ← service.loadOrThrow id
  if session.state ≠ .running ∨ service.phaseFor session ≠ .running then
    throw (.invalidState (ascii "session is not running: " ++ id))
  else return session

/-- A section that throws leaves the service as it found it. -/
def settle {α : Type} : Except AppError (α × SessionService) → Except AppError α × SessionService
  | .ok (a, service') => (.ok a, service')
  | .error err => (.error err, service)

end SessionService

inductive ServiceCmd
  | create (draw : UInt64) (name grc : Bytes) (schedulerAlias : Option Bytes)
  | admission (op : Operation) (id : Bytes)
  | fail (id message : Bytes)
  | commit (op : Operation) (id : Bytes)

def ServiceCmd.session : ServiceCmd → Bytes
  | .create draw _ _ _ => generateSessionId draw
  | .admission _ id => id
  | .fail id _ => id
  | .commit _ id => id

abbrev serviceInterface : Interface where
  Cmd := ServiceCmd
  Ans
    | .create .. => Except AppError Session
    | .admission .. => Except AppError Admission
    | .fail .. => Except AppError Unit
    | .commit .. => Except AppError (Option Session)

inductive Request
  | create (draw : UInt64) (name grc : Bytes) (schedulerAlias : Option Bytes)
  | lifecycle (op : Operation) (id : Bytes)
  deriving DecidableEq

def Request.session : Request → Bytes
  | .create draw _ _ _ => generateSessionId draw
  | .lifecycle _ id => id

def Request.opening : Request → ServiceCmd
  | .create draw name grc schedulerAlias => .create draw name grc schedulerAlias
  | .lifecycle op id => .admission op id

namespace SessionService

/-- One section under `mutex_`; `none` while `create` keeps drawing ids. -/
def exec (service : SessionService) (now : Timestamp) :
    (c : ServiceCmd) → Option (serviceInterface.Ans c × SessionService)
  | .create draw name grc schedulerAlias =>
    (service.create draw name grc schedulerAlias now).map service.settle
  | .admission op id => some (service.settle (service.admission op id))
  | .fail id message => some (service.settle (service.recordRuntimeFailure id message now))
  | .commit op id => some (service.settle (service.commit op id now))

variable {R : Interface}

abbrev ServiceAction (R : Interface) (α : Type) := Action (serviceInterface.sum R) AppError α

/-- The `try` block around the runtime calls, with both of its handlers. -/
def tryRuntime (op : Operation) (id : Bytes) (session : Session) (calls : Action R Thrown Unit) :
    ServiceAction R Unit := do
  match ← ExceptT.lift calls.run.inr with
  | .ok () => pure ()
  | .error thrown =>
    let message := runtimeMessage op.action id thrown
    Action.performLeft (.fail session.id message) fun r => r
    throw (.runtime message)

/-- The common shape of the four lifecycle calls. -/
def lifecycleCall (op : Operation) (calls : Session → Action R Thrown Unit) (id : Bytes) :
    ServiceAction R (Option Session) := do
  match ← Action.performLeft (.admission op id) fun r => r with
  | .settled session => return some session
  | .proceed session =>
    tryRuntime op id session (calls session)
    Action.performLeft (.commit op id) fun r => r

variable (rm : RuntimeManager R)

/-- `restart` and `remove` stop a running session first; the later calls see it stopped. -/
def stopIfRunning (session : Session) : Action R Thrown Session :=
  if session.state = .running then do
    rm.stop session
    return { session with state := .stopped }
  else return session

def startCalls (session : Session) : Action R Thrown Unit := do
  rm.prepare session
  rm.start session

def stopCalls (session : Session) : Action R Thrown Unit :=
  rm.stop session

def restartCalls (session : Session) : Action R Thrown Unit := do
  let session ← stopIfRunning rm session
  rm.destroy session
  rm.prepare session
  rm.start session

def removeCalls (session : Session) : Action R Thrown Unit := do
  let session ← stopIfRunning rm session
  rm.destroy session

def runtimeCalls : Operation → Session → Action R Thrown Unit
  | .start => startCalls rm
  | .stop => stopCalls rm
  | .restart => restartCalls rm
  | .remove => removeCalls rm

def start : Bytes → ServiceAction R (Option Session) := lifecycleCall .start (startCalls rm)

def stop : Bytes → ServiceAction R (Option Session) := lifecycleCall .stop (stopCalls rm)

def restart : Bytes → ServiceAction R (Option Session) := lifecycleCall .restart (restartCalls rm)

def remove : Bytes → ServiceAction R (Option Session) := lifecycleCall .remove (removeCalls rm)

def handle : Request → ServiceAction R (Option Session)
  | .create draw name grc schedulerAlias =>
    some <$> Action.performLeft (.create draw name grc schedulerAlias) fun r => r
  | .lifecycle .start id => start rm id
  | .lifecycle .stop id => stop rm id
  | .lifecycle .restart id => restart rm id
  | .lifecycle .remove id => remove rm id

end SessionService

/-- The clock, and whatever the runtime manager's commands depend on. -/
structure Env (E : Type) where
  now : Timestamp
  runtime : E

abbrev SessionService.system {R : Interface} (rm : RuntimeManager R) (M : RuntimeMachine R) :
    System (serviceInterface.sum R) where
  State := SessionService × M.State
  Env := Env M.Env
  Op := Request
  Result := Except AppError (Option Session)
  body request := (SessionService.handle rm request).run
  exec
    | .inl c, e, σ => (σ.1.exec e.now c).map fun (r, service) => (r, (service, σ.2))
    | .inr c, e, σ => (M.exec c e.runtime σ.2).map fun (r, runtime) => (r, (σ.1, runtime))

def SessionService.empty : SessionService := ⟨.empty, ∅⟩

end Gr4ControlPlane
