import Gr4ControlPlane.Runtime.GraphContent
import Gr4ControlPlane.Runtime.RuntimeManager
import Gr4ControlPlane.Runtime.StreamBindingAllocator
import Mathlib.Data.Finmap
import Mathlib.Data.List.Sort

/-! `Gr4RuntimeManager`.  Its calls are programs over the commands below, each of which is
one access under a mutex or one call into GNU Radio. -/

open Gr4ControlPlane.Interleaving

namespace Gr4ControlPlane

inductive LifecyclePhase
  | idle | starting | running | stopping | failed
  deriving DecidableEq

inductive SchedulerCall
  | start (outcome : Except Thrown Unit)
  | stop (outcome : Except Thrown Unit)
  deriving DecidableEq

/-- A scheduler with its graph, known by the calls made on it, the latest first. -/
structure Execution where
  schedulerAlias : Bytes
  graph : Bytes
  calls : List SchedulerCall
  running : Bool
  deriving DecidableEq

structure SessionRuntimeResources where
  sessionId : Bytes
  generation : Nat
  lifecyclePhase : LifecyclePhase
  teardownComplete : Bool
  teardownError : Option Bytes
  asyncError : Option Bytes
  execution : Option Execution
  streamBindings : List RuntimeStreamBinding
  /-- Whether a call holds `mutex`. -/
  locked : Bool
  deriving DecidableEq

def SessionRuntimeResources.fresh (id : Bytes) : SessionRuntimeResources where
  sessionId := id
  generation := 0
  lifecyclePhase := .idle
  teardownComplete := true
  teardownError := none
  asyncError := none
  execution := none
  streamBindings := []
  locked := false

/-- `resources_` points into the heap, which also holds what has been erased from it. -/
structure Gr4State where
  resources : Finmap fun _ : Bytes => Nat
  heap : List SessionRuntimeResources
  streamAllocator : StreamBindingAllocator
  /-- `bootstrap_error`, once the environment has been set up. -/
  bootstrap : Option (Option Bytes)

namespace Gr4State

def init : Gr4State := ⟨∅, [], ⟨∅⟩, none⟩

variable (σ : Gr4State)

def getOrCreateResources (id : Bytes) : Nat × Gr4State :=
  match σ.resources.lookup id with
  | some a => (a, σ)
  | none =>
    (σ.heap.length,
      { σ with
        resources := σ.resources.insert id σ.heap.length
        heap := σ.heap ++ [SessionRuntimeResources.fresh id] })

def findResources (id : Bytes) : Option Nat := σ.resources.lookup id

def eraseResources (id : Bytes) (a : Nat) : Gr4State :=
  if σ.resources.lookup id = some a then { σ with resources := σ.resources.erase id } else σ

def modify (a : Nat) (f : SessionRuntimeResources → SessionRuntimeResources) : Gr4State :=
  { σ with heap := σ.heap.modify a f }

def entry (id : Bytes) : Option (Nat × SessionRuntimeResources) :=
  (σ.resources.lookup id).bind fun a => σ.heap[a]?.map (a, ·)

/-- `ensure_runtime_environment`, which sets up once and remembers how that failed. -/
def ensureRuntimeEnvironment (outcome : Except Thrown Unit) : Except Thrown Unit × Gr4State :=
  let failed (error : Bytes) : Except Thrown Unit :=
    .error (.exception (ascii "GNU Radio 4 runtime initialization failed: " ++ error))
  match σ.bootstrap, outcome with
  | some none, _ => (.ok (), σ)
  | some (some error), _ => (failed error, σ)
  | none, .ok () => (.ok (), { σ with bootstrap := some none })
  | none, .error (.exception error) => (failed (cString error), { σ with bootstrap := some (some (cString error)) })
  | none, .error .unknown => (.error .unknown, σ)

end Gr4State

inductive Gr4Cmd
  | getOrCreateResources (id : Bytes)
  | findResources (id : Bytes)
  | eraseResources (id : Bytes) (a : Nat)
  | lock (a : Nat)
  | unlock (a : Nat)
  | read (a : Nat)
  | modify (a : Nat) (f : SessionRuntimeResources → SessionRuntimeResources)
  | allocate (transport : Bytes)
  | release (binding : InternalStreamBinding)
  | ensureRuntimeEnvironment
  | loadGrc (content : Bytes)
  | availableSchedulers
  | instantiateScheduler (schedulerAlias : Bytes)
  | setGraph
  | schedulerStart (a : Nat)
  | schedulerStop (a : Nat)

abbrev gr4Interface : Interface where
  Cmd := Gr4Cmd
  Ans
    | .getOrCreateResources _ => Nat
    | .findResources _ => Option Nat
    | .eraseResources .. | .lock _ | .unlock _ | .modify .. | .release _ => Unit
    | .read _ => SessionRuntimeResources
    | .allocate _ => Except Bytes InternalStreamBinding
    | .ensureRuntimeEnvironment | .loadGrc _ | .setGraph | .schedulerStart _ | .schedulerStop _ =>
      Except Thrown Unit
    | .availableSchedulers => Except Thrown (List Bytes)
    | .instantiateScheduler _ => Except Thrown Bool

/-- What a step gets from outside: the ports of an allocation, or how a call into GNU Radio
ends and what it finds. -/
structure Gr4Env where
  reserve : Reservations
  outcome : Except Thrown Unit
  schedulers : List Bytes
  instantiated : Bool

def SessionRuntimeResources.called (call : SchedulerCall) (r : SessionRuntimeResources) :
    SessionRuntimeResources :=
  { r with execution := r.execution.map fun x => { x with calls := call :: x.calls } }

namespace Gr4State

def exec (e : Gr4Env) (σ : Gr4State) : (c : Gr4Cmd) → Option (gr4Interface.Ans c × Gr4State)
  | .getOrCreateResources id => some (σ.getOrCreateResources id)
  | .findResources id => some (σ.findResources id, σ)
  | .eraseResources id a => some ((), σ.eraseResources id a)
  | .lock a => σ.heap[a]?.bind fun r =>
      if r.locked then none else some ((), σ.modify a ({ · with locked := true }))
  | .unlock a => some ((), σ.modify a ({ · with locked := false }))
  | .read a => σ.heap[a]?.map (·, σ)
  | .modify a f => some ((), σ.modify a f)
  | .allocate transport =>
    let (binding, streamAllocator) := σ.streamAllocator.allocate e.reserve transport
    some (binding, { σ with streamAllocator := streamAllocator })
  | .release binding => some ((), { σ with streamAllocator := σ.streamAllocator.release binding })
  | .ensureRuntimeEnvironment => some (σ.ensureRuntimeEnvironment e.outcome)
  | .loadGrc _ => some (e.outcome, σ)
  | .availableSchedulers => some (e.outcome.map fun () => e.schedulers, σ)
  | .instantiateScheduler _ => some (e.outcome.map fun () => e.instantiated, σ)
  | .setGraph => some (e.outcome, σ)
  | .schedulerStart a => some (e.outcome, σ.modify a (·.called (.start e.outcome)))
  | .schedulerStop a => some (e.outcome, σ.modify a (·.called (.stop e.outcome)))

end Gr4State

abbrev gr4Machine : RuntimeMachine gr4Interface where
  State := Gr4State
  Env := Gr4Env
  init := .init
  exec c e σ := σ.exec e c

namespace Gr4RuntimeManager

abbrev Gr4Action (α : Type) := Action gr4Interface Thrown α

def runtimeError (session : Session) (phase detail : Bytes) : Thrown :=
  .exception (ascii "session " ++ session.id ++ ascii " " ++ phase ++ ascii " failed: " ++ detail)

def ofStd {α : Type} (r : Except Bytes α) : Except Thrown α := r.mapError .exception

section commands

variable {α : Type} (a : Nat)

def call (c : Gr4Cmd) : Gr4Action (gr4Interface.Ans c) := Action.call (I := gr4Interface) c

def perform (c : Gr4Cmd) (f : gr4Interface.Ans c → Except Thrown α) : Gr4Action α := Action.perform c f

def getOrCreateResources (id : Bytes) : Gr4Action Nat := call (.getOrCreateResources id)

def findResources (id : Bytes) : Gr4Action (Option Nat) := call (.findResources id)

def eraseResources (id : Bytes) : Gr4Action Unit := call (.eraseResources id a)

/-- The body under the resource mutex, which is given up however the body ends. -/
def withLock (body : Gr4Action α) : Gr4Action α := do
  call (.lock a)
  let r ← body.attempt
  call (.unlock a)
  ExceptT.mk (.ret r)

def read : Gr4Action SessionRuntimeResources := call (.read a)

def modify (f : SessionRuntimeResources → SessionRuntimeResources) : Gr4Action Unit :=
  call (.modify a f)

def allocate (transport : Bytes) : Gr4Action InternalStreamBinding := perform (.allocate transport) ofStd

def release (binding : InternalStreamBinding) : Gr4Action Unit := call (.release binding)

def ensureRuntimeEnvironment : Gr4Action Unit := perform .ensureRuntimeEnvironment fun r => r

def loadGrc (content : Bytes) : Gr4Action Unit := perform (.loadGrc content) fun r => r

def availableSchedulers : Gr4Action (List Bytes) := perform .availableSchedulers fun r => r

def instantiateScheduler (schedulerAlias : Bytes) : Gr4Action Bool :=
  perform (.instantiateScheduler schedulerAlias) fun r => r

def setGraph : Gr4Action Unit := perform .setGraph fun r => r

def schedulerStart : Gr4Action Unit := perform (.schedulerStart a) fun r => r

def schedulerStop : Gr4Action Unit := perform (.schedulerStop a) fun r => r

end commands

def releaseBindings : List RuntimeStreamBinding → Gr4Action Unit
  | [] => pure ()
  | binding :: bindings => do
    release binding.internal
    releaseBindings bindings

def releaseStreamBindingsLocked (a : Nat) : Gr4Action Unit := do
  let resources ← read a
  releaseBindings resources.streamBindings
  modify a ({ · with streamBindings := [] })

/-- The bindings are pushed one by one; an exception drops the vector. -/
def allocateBindings : List RuntimeStreamBindingPlan → Gr4Action (List RuntimeStreamBinding)
  | [] => pure []
  | streamPlan :: streamPlans => do
    let internal ← allocate streamPlan.transport
    let bindings ← allocateBindings streamPlans
    return streamBinding streamPlan internal :: bindings

def preferredSchedulers : List Bytes :=
  [ascii "gr::incubator::scheduler::BlockingBackoff", ascii "gr::scheduler::SimpleMulti",
    ascii "gr::scheduler::SimpleSingle"]

/-- What `default_scheduler_alias` picks from the sorted names. -/
def pickScheduler (available : List Bytes) : Bytes :=
  match preferredSchedulers.find? (available.contains ·) with
  | some preferred => preferred
  | none => available.head?.getD (ascii "gr::scheduler::SimpleMulti")

def defaultSchedulerAlias : Gr4Action Bytes := do
  let available ← availableSchedulers
  return pickScheduler (available.insertionSort (· ≤ ·))

variable (yaml : YamlPmt)

/-- The `try` block of `prepare_locked`. -/
def buildExecution (session : Session) (bindings : List RuntimeStreamBinding) : Gr4Action Execution := do
  let content ← ExceptT.mk (.ret (ofStd (normalizeGraphContent yaml session.grcContent bindings)))
  loadGrc content
  let default ← defaultSchedulerAlias
  let schedulerAlias := session.schedulerAlias.getD default
  if ← instantiateScheduler schedulerAlias then
    setGraph
    return { schedulerAlias := schedulerAlias, graph := content, calls := [], running := false }
  else
    throw (runtimeError session (ascii "prepare") (ascii "scheduler not found: " ++ schedulerAlias))

/-- What `prepare_locked` leaves in the session's resources. -/
def prepared (execution : Execution) (bindings : List RuntimeStreamBinding)
    (r : SessionRuntimeResources) : SessionRuntimeResources :=
  { r with
    execution := some execution
    streamBindings := bindings
    generation := r.generation + 1
    lifecyclePhase := .idle
    teardownComplete := true
    teardownError := none }

/-- The part of `prepare_locked` that is only run when there is no execution. -/
def buildLocked (session : Session) (a : Nat) : Gr4Action Unit := do
  match validateStreamRuntimeContract yaml session with
  | some contractError => throw (runtimeError session (ascii "prepare") contractError)
  | none => pure ()
  ensureRuntimeEnvironment
  releaseStreamBindingsLocked a
  let bindings ← allocateBindings
    (((deriveStreamRuntimePlan yaml session).map (·.streams)).getD [])
  match ← (buildExecution yaml session bindings).attempt with
  | .ok execution => modify a (prepared execution bindings)
  | .error (.exception error) =>
    releaseBindings bindings
    throw (runtimeError session (ascii "prepare") (cString error))
  | .error .unknown => throw .unknown

def prepareLocked (session : Session) (a : Nat) : Gr4Action Unit := do
  let resources ← read a
  if resources.lifecyclePhase = .stopping then
    throw (runtimeError session (ascii "prepare") (ascii "session runtime teardown is still in progress"))
  else if resources.execution.isSome then
    return ()
  else
    buildLocked yaml session a

def prepare (session : Session) : Gr4Action Unit := do
  let a ← getOrCreateResources session.id
  withLock a (prepareLocked yaml session a)

def starting (r : SessionRuntimeResources) : SessionRuntimeResources :=
  { r with
    asyncError := none
    teardownError := none
    teardownComplete := false
    lifecyclePhase := .starting }

/-- `execution.running = running` -/
def setRunning (running : Bool) (r : SessionRuntimeResources) : SessionRuntimeResources :=
  { r with execution := r.execution.map fun x => { x with running := running } }

def startLocked (session : Session) (a : Nat) : Gr4Action Unit := do
  prepareLocked yaml session a
  let resources ← read a
  if resources.lifecyclePhase = .stopping then
    throw (runtimeError session (ascii "start") (ascii "session runtime teardown is still in progress"))
  else if resources.execution.any (·.running) ∧ resources.lifecyclePhase = .running then
    return ()
  else
    modify a starting
    schedulerStart a
    modify a fun r => { setRunning true r with lifecyclePhase := .running }

def start (session : Session) : Gr4Action Unit := do
  let a ← getOrCreateResources session.id
  withLock a (startLocked yaml session a)

def settled (r : SessionRuntimeResources) : SessionRuntimeResources :=
  { r with lifecyclePhase := .idle, teardownComplete := true, teardownError := none }

/-- `scheduler->stop()` and its handler. -/
def stopScheduler (session : Session) (a : Nat) : Gr4Action Unit := do
  match ← (schedulerStop a).attempt with
  | .ok () => return ()
  | .error (.exception error) =>
    let teardownError := ascii "failed to stop scheduler: " ++ cString error
    modify a fun r => { r with lifecyclePhase := .failed, teardownError := some teardownError }
    throw (runtimeError session (ascii "stop") teardownError)
  | .error .unknown => throw .unknown

/-- How `stop_locked` ends once the scheduler has stopped. -/
def finishStop (session : Session) (a : Nat) : Gr4Action Unit := do
  modify a (setRunning false)
  releaseStreamBindingsLocked a
  modify a fun r => { r with execution := none, teardownComplete := true }
  let resources ← read a
  match resources.asyncError with
  | some error =>
    modify a fun r => { r with lifecyclePhase := .failed, teardownError := r.asyncError }
    throw (runtimeError session (ascii "execution") error)
  | none => modify a fun r => { r with lifecyclePhase := .idle, teardownError := none }

def stopLocked (session : Session) (a : Nat) : Gr4Action Unit := do
  let resources ← read a
  match resources.execution with
  | none =>
    releaseStreamBindingsLocked a
    modify a settled
  | some execution =>
    if resources.lifecyclePhase = .stopping then
      throw (runtimeError session (ascii "stop") (ascii "session runtime stop already in progress"))
    else
      modify a fun r => { r with lifecyclePhase := .stopping, teardownComplete := false, teardownError := none }
      if execution.running then stopScheduler session a
      finishStop session a

def stop (session : Session) : Gr4Action Unit := do
  match ← findResources session.id with
  | none => return ()
  | some a => withLock a (stopLocked session a)

def destroyLocked (session : Session) (a : Nat) : Gr4Action Unit := do
  stopLocked session a
  modify a ({ · with execution := none })
  releaseStreamBindingsLocked a
  modify a settled

def destroy (session : Session) : Gr4Action Unit := do
  match ← findResources session.id with
  | none => return ()
  | some a =>
    withLock a (destroyLocked session a)
    eraseResources a session.id

end Gr4RuntimeManager

def gr4RuntimeManager (yaml : YamlPmt) : RuntimeManager gr4Interface where
  prepare := Gr4RuntimeManager.prepare yaml
  start := Gr4RuntimeManager.start yaml
  stop := Gr4RuntimeManager.stop
  destroy := Gr4RuntimeManager.destroy

namespace Gr4State

variable (σ : Gr4State)

def liveResources (session : Session) : Option SessionRuntimeResources :=
  ((σ.entry session.id).map Prod.snd).filter fun r =>
    r.execution.any (·.running) && decide (r.lifecyclePhase = .running)

def activeStreamPlan (session : Session) : Option StreamRuntimePlan := do
  let resources ← σ.liveResources session
  if resources.streamBindings.isEmpty then none
  else some ⟨resources.streamBindings.map (·.plan)⟩

/-- The lookup of a binding by its stream and by whether it is a websocket. -/
def findStream (action : Bytes) (websocket : Bool) (session : Session) (streamId : Bytes) :
    Except Thrown RuntimeStreamBinding :=
  match σ.liveResources session with
  | none =>
    .error (Gr4RuntimeManager.runtimeError session action (ascii "session runtime is not running"))
  | some resources =>
    match resources.streamBindings.find? fun binding =>
        binding.plan.streamId = streamId ∧ isWebsocket binding.plan.transport = websocket with
    | some binding => .ok binding
    | none =>
      .error (Gr4RuntimeManager.runtimeError session action
        (ascii "stream not found in active runtime resources: " ++ streamId))

/-- The lookup at the head of `fetch_http_stream`. -/
def findHttpStream : Session → Bytes → Except Thrown RuntimeStreamBinding :=
  σ.findStream (ascii "stream fetch") false

/-- The lookup of `resolve_websocket_stream`. -/
def findWebsocketStream : Session → Bytes → Except Thrown RuntimeStreamBinding :=
  σ.findStream (ascii "websocket route") true

end Gr4State

end Gr4ControlPlane
