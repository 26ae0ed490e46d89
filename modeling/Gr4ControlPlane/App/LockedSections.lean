import Gr4ControlPlane.App.SessionCalls

open Gr4ControlPlane.Interleaving

namespace Gr4ControlPlane.SessionService

/-- A section under `mutex_`: it may throw, with the service as it is by then, or not come to its end. -/
abbrev Locked (α : Type) := ExceptT AppError (StateT SessionService Option) α

namespace Locked

variable {α : Type}

def runOn (body : Locked α) (service : SessionService) : Option (Except AppError α × SessionService) :=
  StateT.run (ExceptT.run body) service

def again : Locked α := ExceptT.mk fun _ => none

def loadOrThrow (id : Bytes) : Locked Session := do
  match (← get).repository.get id with
  | some session => return session
  | none => throw (.notFound (ascii "session not found: " ++ id))

def setPhase (id : Bytes) (phase : InternalLifecyclePhase) : Locked Unit :=
  modify fun service => { service with phases := service.phases.insert id phase }

def erasePhaseLocked (id : Bytes) : Locked Unit :=
  modify fun service => { service with phases := service.phases.erase id }

def onRepository (call : InMemorySessionRepository → Except Bytes InMemorySessionRepository) : Locked Unit := do
  match call (← get).repository with
  | .ok repository => modify fun service => { service with repository := repository }
  | .error what => throw (.stdException what)

def storeSessionLocked (session : Session) (phase : InternalLifecyclePhase) : Locked Unit := do
  onRepository fun repository => repository.update session
  setPhase session.id phase

def create (draw : UInt64) (name grc : Bytes) (schedulerAlias : Option Bytes) (now : Timestamp) : Locked Session := do
  if grc = [] then throw (.validation (ascii "grc_content must not be empty"))
  let session : Session :=
    { id := generateSessionId draw, name := name, grcContent := grc, schedulerAlias := schedulerAlias,
      state := .stopped, lastError := none, createdAt := now, updatedAt := now }
  if ((← get).repository.get session.id).isSome then again
  onRepository fun repository => repository.create session
  setPhase session.id .idle
  return session

def admitStart (id : Bytes) : Locked Admission := do
  let session ← loadOrThrow id
  let phase := (← get).phaseFor session
  if session.state = .running ∨ phase = .running then
    throw (.invalidState (ascii "session already running: " ++ id))
  if phase = .starting then
    throw (.invalidState (ascii "session start already in progress: " ++ id))
  if phase = .stopping then
    throw (.invalidState (ascii "session stop in progress: " ++ id))
  setPhase id .starting
  return .proceed session

def admitStop (id : Bytes) : Locked Admission := do
  let session ← loadOrThrow id
  let phase := (← get).phaseFor session
  if phase = .stopping then
    throw (.invalidState (ascii "session stop already in progress: " ++ id))
  if phase = .starting then
    throw (.invalidState (ascii "session start in progress: " ++ id))
  if session.state = .stopped ∧ phase = .idle then
    return .settled session
  setPhase id .stopping
  return .proceed session

def admitRestart (id : Bytes) : Locked Admission := do
  let session ← loadOrThrow id
  let phase := (← get).phaseFor session
  if phase = .stopping then
    throw (.invalidState (ascii "session stop in progress: " ++ id))
  if phase = .starting then
    throw (.invalidState (ascii "session start already in progress: " ++ id))
  setPhase id .starting
  return .proceed session

def admitRemove (id : Bytes) : Locked Admission := do
  let session ← loadOrThrow id
  let phase := (← get).phaseFor session
  if phase = .stopping then
    throw (.invalidState (ascii "session stop in progress: " ++ id))
  if phase = .starting then
    throw (.invalidState (ascii "session start in progress: " ++ id))
  setPhase id .stopping
  return .proceed session

def admission : Operation → Bytes → Locked Admission
  | .start => admitStart
  | .stop => admitStop
  | .restart => admitRestart
  | .remove => admitRemove

def commitState (state : SessionState) (phase : InternalLifecyclePhase) (id : Bytes) (now : Timestamp) :
    Locked (Option Session) := do
  let loaded ← loadOrThrow id
  let session := { loaded with state := state, lastError := none, updatedAt := now }
  storeSessionLocked session phase
  return some session

def commitRemove (id : Bytes) : Locked (Option Session) := do
  let (erased, repository) := (← get).repository.remove id
  modify fun service => { service with repository := repository }
  if ¬ erased then throw (.notFound (ascii "session not found: " ++ id))
  erasePhaseLocked id
  return none

def commit (op : Operation) (id : Bytes) (now : Timestamp) : Locked (Option Session) :=
  match op with
  | .start => commitState .running .running id now
  | .stop => commitState .stopped .idle id now
  | .restart => commitState .running .running id now
  | .remove => commitRemove id

def recordRuntimeFailure (id message : Bytes) (now : Timestamp) : Locked Unit := do
  let loaded ← loadOrThrow id
  let session := { loaded with state := .error, lastError := some message, updatedAt := now }
  storeSessionLocked session .failed
  return ()

def planGate (id : Bytes) : Locked (Option Session) := do
  let session ← loadOrThrow id
  if session.state ≠ .running ∨ (← get).phaseFor session ≠ .running then return none
  return some session

def streamGate (id : Bytes) : Locked Session := do
  let session ← loadOrThrow id
  if session.state ≠ .running ∨ (← get).phaseFor session ≠ .running then
    throw (.invalidState (ascii "session is not running: " ++ id))
  return session

end Locked

def locked (service : SessionService) (now : Timestamp) :
    (c : ServiceCmd) → Option (serviceInterface.Ans c × SessionService)
  | .create draw name grc schedulerAlias => (Locked.create draw name grc schedulerAlias now).runOn service
  | .admission op id => (Locked.admission op id).runOn service
  | .fail id message => (Locked.recordRuntimeFailure id message now).runOn service
  | .commit op id => (Locked.commit op id now).runOn service

def lockedRead (service : SessionService) : (c : ReadCmd) → Option (readInterface.Ans c × SessionService)
  | .list => some (service.list, service)
  | .get id => (Locked.loadOrThrow id).runOn service
  | .planGate id => (Locked.planGate id).runOn service
  | .streamGate id => (Locked.streamGate id).runOn service

variable {service : SessionService} {x : Bytes} {s : Session} {now : Timestamp}

namespace Locked

variable {α β : Type}

theorem runOn_bind (body : Locked α) (f : α → Locked β) :
    (body >>= f).runOn service = (body.runOn service).bind fun
      | (.ok a, service') => (f a).runOn service'
      | (.error err, service') => some (.error err, service') := by
  unfold runOn
  rw [ExceptT.run_bind]
  apply congrArg (Option.bind _)
  funext ⟨r, service'⟩
  cases r <;> rfl

@[simp] theorem runOn_pure (a : α) : (pure a : Locked α).runOn service = some (.ok a, service) := rfl

@[simp] theorem runOn_throw (err : AppError) : (throw err : Locked α).runOn service = some (.error err, service) := rfl

@[simp] theorem runOn_get : (get : Locked SessionService).runOn service = some (.ok service, service) := rfl

@[simp] theorem runOn_modify (f : SessionService → SessionService) :
    (modify f : Locked Unit).runOn service = some (.ok (), f service) := rfl

@[simp] theorem runOn_again : (again : Locked α).runOn service = none := rfl

@[simp] theorem runOn_ite {p : Prop} [Decidable p] (a b : Locked α) :
    (if p then a else b).runOn service = if p then a.runOn service else b.runOn service := by
  split <;> rfl

@[simp] theorem runOn_loadOrThrow (id : Bytes) :
    (loadOrThrow id).runOn service = some (service.loadOrThrow id, service) := by
  unfold loadOrThrow SessionService.loadOrThrow
  rw [runOn_bind, runOn_get, Option.bind_some]
  dsimp only
  cases service.repository.get id <;> rfl

@[simp] theorem runOn_setPhase (id : Bytes) (phase : InternalLifecyclePhase) :
    (setPhase id phase).runOn service = some (.ok (), service.setPhase id phase) := rfl

@[simp] theorem runOn_onRepository (call : InMemorySessionRepository → Except Bytes InMemorySessionRepository) :
    (onRepository call).runOn service = match call service.repository with
      | .ok repository => some (.ok (), { service with repository := repository })
      | .error what => some (.error (.stdException what), service) := by
  unfold onRepository
  rw [runOn_bind, runOn_get, Option.bind_some]
  dsimp only
  cases call service.repository <;> rfl

theorem runOn_load_error {id : Bytes} {err : AppError} (h : service.loadOrThrow id = .error err)
    (f : Session → Locked α) : (loadOrThrow id >>= f).runOn service = some (.error err, service) := by
  rw [runOn_bind, runOn_loadOrThrow, h]
  rfl

theorem runOn_load {id : Bytes} (h : service.loadOrThrow id = .ok s) (f : Session → Locked α) :
    (loadOrThrow id >>= f).runOn service = (f s).runOn service := by
  rw [runOn_bind, runOn_loadOrThrow, h]
  rfl

theorem runOn_admission (op : Operation) (id : Bytes) :
    (admission op id).runOn service = some (service.settle (service.admission op id)) := by
  cases hload : service.loadOrThrow id with
  | error err =>
    have herror : service.admission op id = .error err := by
      cases op <;>
        simp only [SessionService.admission, SessionService.admitStart, SessionService.admitStop,
          SessionService.admitRestart, SessionService.admitRemove, hload] <;>
        rfl
    rw [herror]
    cases op <;> exact runOn_load_error hload _
  | ok s =>
    cases op <;>
      · simp only [admission, admitStart, admitStop, admitRestart, admitRemove, SessionService.admission,
          SessionService.admitStart, SessionService.admitStop, SessionService.admitRestart,
          SessionService.admitRemove, runOn_load hload, hload, runOn_bind, runOn_get, runOn_ite, runOn_throw,
          runOn_setPhase, runOn_pure, Option.bind_some]
        change _ = some (service.settle (if _ then _ else _))
        split_ifs <;> rfl

theorem runOn_storing (a : α) (session : Session) (phase : InternalLifecyclePhase) :
    (do storeSessionLocked session phase; return a : Locked α).runOn service =
      some (service.settle (do return (a, ← service.storeSession session phase))) := by
  unfold storeSessionLocked SessionService.storeSession
  rw [runOn_bind, runOn_bind, runOn_onRepository]
  cases service.repository.update session <;> rfl

theorem runOn_recordRuntimeFailure (id message : Bytes) :
    (recordRuntimeFailure id message now).runOn service =
      some (service.settle (service.recordRuntimeFailure id message now)) := by
  unfold recordRuntimeFailure SessionService.recordRuntimeFailure
  cases hload : service.loadOrThrow id with
  | error err => exact runOn_load_error hload _
  | ok loaded =>
    rw [runOn_load hload]
    exact runOn_storing () _ .failed

theorem runOn_commitState (state : SessionState) (phase : InternalLifecyclePhase) (id : Bytes) :
    (commitState state phase id now).runOn service =
      some (service.settle (service.commitState state phase id now)) := by
  unfold commitState SessionService.commitState
  cases hload : service.loadOrThrow id with
  | error err => exact runOn_load_error hload _
  | ok loaded =>
    rw [runOn_load hload]
    exact runOn_storing _ _ phase

theorem runOn_commitRemove (id : Bytes) :
    (commitRemove id).runOn service = some (service.settle (service.commitRemove id)) := by
  unfold commitRemove SessionService.commitRemove
  simp only [runOn_bind, runOn_get, runOn_modify, runOn_ite, runOn_throw, runOn_pure, Option.bind_some]
  cases hget : service.repository.get id with
  | some s =>
    rw [InMemorySessionRepository.remove_of_get hget]
    rfl
  | none =>
    rw [InMemorySessionRepository.remove_of_missing hget]
    rfl

theorem runOn_commit (op : Operation) (id : Bytes) :
    (commit op id now).runOn service = some (service.settle (service.commit op id now)) := by
  cases op with
  | start | stop | restart => exact runOn_commitState _ _ id
  | remove => exact runOn_commitRemove id

theorem runOn_create (draw : UInt64) (name grc : Bytes) (schedulerAlias : Option Bytes) :
    (create draw name grc schedulerAlias now).runOn service =
      (service.create draw name grc schedulerAlias now).map service.settle := by
  unfold create SessionService.create
  by_cases hgrc : grc = []
  · simp only [runOn_bind, runOn_ite, runOn_throw, if_pos hgrc]
    rfl
  · simp only [runOn_bind, runOn_ite, runOn_get, runOn_again, runOn_onRepository, runOn_setPhase, runOn_pure,
      if_neg hgrc, Option.bind_some]
    split_ifs with hget
    · rfl
    · cases service.repository.create _ <;> rfl


theorem runOn_planGate (id : Bytes) : (planGate id).runOn service = some (service.planGate id, service) := by
  unfold planGate SessionService.planGate
  cases hload : service.loadOrThrow id with
  | error err => exact runOn_load_error hload _
  | ok loaded =>
    rw [runOn_load hload]
    simp only [runOn_bind, runOn_get, runOn_ite, runOn_pure, Option.bind_some]
    change _ = some ((if _ then _ else _), service)
    split_ifs <;> rfl

theorem runOn_streamGate (id : Bytes) : (streamGate id).runOn service = some (service.streamGate id, service) := by
  unfold streamGate SessionService.streamGate
  cases hload : service.loadOrThrow id with
  | error err => exact runOn_load_error hload _
  | ok loaded =>
    rw [runOn_load hload]
    simp only [runOn_bind, runOn_get, runOn_ite, runOn_throw, runOn_pure, Option.bind_some]
    change _ = some ((if _ then _ else _), service)
    split_ifs <;> rfl

end Locked

/-- No section has written anything by the time it throws. -/
theorem locked_eq (c : ServiceCmd) : service.locked now c = service.exec now c := by
  cases c with
  | create draw name grc schedulerAlias => exact Locked.runOn_create draw name grc schedulerAlias
  | admission op id => exact Locked.runOn_admission op id
  | fail id message => exact Locked.runOn_recordRuntimeFailure id message
  | commit op id => exact Locked.runOn_commit op id

theorem lockedRead_eq (c : ReadCmd) : service.lockedRead c = some (service.read c, service) := by
  cases c with
  | list => rfl
  | get id => exact Locked.runOn_loadOrThrow id
  | planGate id => exact Locked.runOn_planGate id
  | streamGate id => exact Locked.runOn_streamGate id

variable {R : Interface} {M : RuntimeMachine R}

abbrev lockedSystem (streams : StreamMachine M) {Op Result : Type} (body : Op → Program (callInterface R) Result) :
    System (callInterface R) where
  State := SessionService × M.State
  Env := Env M.Env
  Op := Op
  Result := Result
  body := body
  exec
    | .inl (.inl c), _, σ => (σ.1.lockedRead c).map fun (r, service) => (r, (service, σ.2))
    | .inl (.inr c), e, σ => (streams.exec c e.runtime σ.2).map fun (r, runtime) => (r, (σ.1, runtime))
    | .inr (.inl c), e, σ => (σ.1.locked e.now c).map fun (r, service) => (r, (service, σ.2))
    | .inr (.inr c), e, σ => (M.exec c e.runtime σ.2).map fun (r, runtime) => (r, (σ.1, runtime))

theorem lockedSystem_exec (rm : RuntimeManager R) (streams : StreamMachine M) {Op Result : Type}
    {body : Op → Program (callInterface R) Result} (c : (callInterface R).Cmd) (e : Env M.Env)
    (σ : SessionService × M.State) : (lockedSystem streams body).exec c e σ = (callSystem rm streams body).exec c e σ := by
  rcases c with (c | c) | (c | c)
  · exact congrArg (Option.map _) (lockedRead_eq c)
  · rfl
  · exact congrArg (Option.map _) (locked_eq c)
  · rfl

end Gr4ControlPlane.SessionService
