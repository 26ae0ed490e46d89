import Gr4ControlPlane.App.SessionServiceLaws
import Mathlib.Data.List.Sort

open Gr4ControlPlane.Interleaving

namespace Gr4ControlPlane

namespace SessionService

def listedBefore (left right : Σ _ : Bytes, Session) : Prop :=
  if left.2.createdAt = right.2.createdAt then left.1 < right.1 else left.2.createdAt < right.2.createdAt

def inOrder (left right : Σ _ : Bytes, Session) : Prop := ¬ listedBefore right left

instance : DecidableRel inOrder := fun left right =>
  inferInstanceAs (Decidable (¬ if right.2.createdAt = left.2.createdAt then right.1 < left.1
    else right.2.createdAt < left.2.createdAt))

theorem inOrder_iff {left right : Σ _ : Bytes, Session} :
    inOrder left right ↔ left.2.createdAt < right.2.createdAt ∨
      left.2.createdAt = right.2.createdAt ∧ left.1 ≤ right.1 := by
  unfold inOrder listedBefore
  split
  · next h => simp [h]
  · next h =>
    rw [not_lt]
    exact ⟨fun hle => .inl (lt_of_le_of_ne hle fun he => h he.symm),
      fun ho => ho.elim le_of_lt fun he => absurd he.1.symm h⟩

instance : Std.Total inOrder where
  total left right := by
    simp only [inOrder_iff]
    rcases lt_trichotomy left.2.createdAt right.2.createdAt with h | h | h
    · exact .inl (.inl h)
    · exact (List.le_total left.1 right.1).imp (fun hle => .inr ⟨h, hle⟩) fun hle => .inr ⟨h.symm, hle⟩
    · exact .inr (.inl h)

instance : IsTrans _ inOrder where
  trans a b c := by
    simp only [inOrder_iff]
    rintro (h | ⟨h, hle⟩) (h' | ⟨h', hle'⟩)
    · exact .inl (h.trans h')
    · exact .inl (h' ▸ h)
    · exact .inl (h ▸ h')
    · exact .inr ⟨h.trans h', List.le_trans hle hle'⟩

theorem id_eq_of_inOrder {left right : Σ _ : Bytes, Session} (h : inOrder left right)
    (h' : inOrder right left) : left.1 = right.1 := by
  rw [inOrder_iff] at h h'
  rcases h with h | ⟨h, hle⟩ <;> rcases h' with h' | ⟨h', hle'⟩
  · exact absurd h' (lt_asymm h)
  · exact absurd h'.symm h.ne
  · exact absurd h.symm h'.ne
  · exact List.le_antisymm hle hle'

theorem sorted_eq {a b : AList fun _ : Bytes => Session} (h : a.entries.Perm b.entries) :
    a.entries.insertionSort inOrder = b.entries.insertionSort inOrder := by
  refine List.Perm.eq_of_pairwise ?_ (List.pairwise_insertionSort inOrder _) (List.pairwise_insertionSort inOrder _)
    (((List.perm_insertionSort inOrder _).trans h).trans (List.perm_insertionSort inOrder _).symm)
  intro e e' he he' hle hle'
  rw [List.mem_insertionSort] at he he'
  exact b.nodupKeys.eq_of_fst_eq (h.subset he) he' (id_eq_of_inOrder hle hle')

variable (service : SessionService)

def list : List Session :=
  service.repository.sessions.liftOn (fun sessions => (sessions.entries.insertionSort inOrder).map Sigma.snd)
    fun _ _ h => congrArg _ (sorted_eq h)

variable {service} {s : Session} in
theorem mem_list : s ∈ service.list ↔ service.repository.get s.id = some s := by
  have hlookup : s ∈ service.list ↔ ∃ id, service.repository.sessions.lookup id = some s := by
    unfold list
    induction service.repository.sessions using Finmap.induction_on with
    | H sessions =>
      simp only [Finmap.liftOn_toFinmap, List.mem_map, List.mem_insertionSort, Finmap.lookup_toFinmap,
        ← Option.mem_def, AList.mem_lookup_iff]
      exact ⟨fun ⟨⟨id, _⟩, hmem, h⟩ => ⟨id, h ▸ hmem⟩, fun ⟨id, hmem⟩ => ⟨⟨id, s⟩, hmem, rfl⟩⟩
  rw [hlookup]
  exact ⟨fun ⟨id, h⟩ => service.repository.named id s h ▸ h, fun h => ⟨s.id, h⟩⟩

/-- The section of `active_stream_plan`: the session it asks the runtime manager about, if any. -/
def planGate (id : Bytes) : Except AppError (Option Session) := do
  let session ← service.loadOrThrow id
  if session.state ≠ .running ∨ service.phaseFor session ≠ .running then return none
  else return some session

end SessionService

inductive ReadCmd
  | list
  | get (id : Bytes)
  | planGate (id : Bytes)
  | streamGate (id : Bytes)

abbrev readInterface : Interface where
  Cmd := ReadCmd
  Ans
    | .list => List Session
    | .get _ => Except AppError Session
    | .planGate _ => Except AppError (Option Session)
    | .streamGate _ => Except AppError Session

namespace SessionService

def read (service : SessionService) : (c : ReadCmd) → readInterface.Ans c
  | .list => service.list
  | .get id => service.loadOrThrow id
  | .planGate id => service.planGate id
  | .streamGate id => service.streamGate id

end SessionService

def ReadCmd.session : ReadCmd → Option Bytes
  | .list => none
  | .get id | .planGate id | .streamGate id => some id

def readAnswers : (c : ReadCmd) → readInterface.Ans c → Prop
  | .list, _ => True
  | .get id, r => ∀ session, r = .ok session → session.id = id
  | .planGate id, r => ∀ session, r = .ok (some session) → session.id = id
  | .streamGate id, r => ∀ session, r = .ok session → session.id = id

namespace SessionService

variable {service service' : SessionService} {x : Bytes} {s : Session}

theorem planGate_eq_some : service.planGate x = .ok (some s) ↔ service.streamGate x = .ok s := by
  unfold planGate streamGate
  cases service.loadOrThrow x with
  | error err => simp [bind, Except.bind]
  | ok stored =>
    simp only [bind, Except.bind]
    split
    · exact iff_of_false nofun nofun
    · simp [pure, Except.pure]

theorem planGate_of_get (h : service.repository.get x = some s) : ∃ session, service.planGate x = .ok session := by
  unfold planGate
  rw [loadOrThrow_eq_ok.mpr h]
  simp only [bind, Except.bind]
  split <;> exact ⟨_, rfl⟩

theorem planGate_eq_error {err : AppError} (h : service.planGate x = .error err) :
    service.repository.get x = none := by
  by_contra hne
  obtain ⟨s, hs⟩ := Option.ne_none_iff_exists'.mp hne
  obtain ⟨session, hsession⟩ := planGate_of_get hs
  rw [hsession] at h
  cases h

theorem activeStreamPlan_eq (lookup : Session → Option StreamRuntimePlan) :
    service.activeStreamPlan lookup x = (service.planGate x).map (·.bind lookup) := by
  unfold activeStreamPlan planGate
  cases service.loadOrThrow x with
  | error err => rfl
  | ok s =>
    simp only [bind, Except.bind]
    split <;> rfl

theorem read_answers (c : ReadCmd) : readAnswers c (service.read c) := by
  cases c with
  | list => trivial
  | get id => exact fun s h => InMemorySessionRepository.id_of_get (loadOrThrow_eq_ok.mp h)
  | planGate id =>
    exact fun s h => InMemorySessionRepository.id_of_get (streamGate_eq_ok.mp (planGate_eq_some.mp h)).1
  | streamGate id => exact fun s h => InMemorySessionRepository.id_of_get (streamGate_eq_ok.mp h).1

theorem read_congr {c : ReadCmd} (hc : c.session = some x) (h : service.slot x = service'.slot x) :
    service.read c = service'.read c := by
  cases hrec : (service.slot x).record with
  | none =>
    have hload := loadOrThrow_of_missing hrec
    have hload' := loadOrThrow_of_missing (h ▸ hrec)
    cases c with
    | list => cases hc
    | get id =>
      cases hc
      exact hload.trans hload'.symm
    | planGate id =>
      cases hc
      simp only [read, planGate, hload, hload', bind, Except.bind]
    | streamGate id =>
      cases hc
      simp only [read, streamGate, hload, hload', bind, Except.bind]
  | some s =>
    have hload := loadOrThrow_of_slot hrec
    have hload' := loadOrThrow_of_slot (h ▸ hrec)
    have hphase : service.phaseFor s = service'.phaseFor s := by
      rw [phaseFor_of_slot hrec, phaseFor_of_slot (h ▸ hrec), h]
    cases c with
    | list => cases hc
    | get id =>
      cases hc
      exact hload.trans hload'.symm
    | planGate id =>
      cases hc
      simp only [read, planGate, hload, hload', bind, Except.bind, hphase]
    | streamGate id =>
      cases hc
      simp only [read, streamGate, hload, hload', bind, Except.bind, hphase]

abbrev callInterface (R : Interface) : Interface := (readInterface.sum streamInterface).sum (serviceInterface.sum R)

abbrev Call (R : Interface) (α : Type) := Action (callInterface R) AppError α

namespace Call

variable {R : Interface}

def list : Call R (List Session) := Action.perform (.inl (.inl .list)) .ok

def get (id : Bytes) : Call R Session := Action.perform (.inl (.inl (.get id))) fun r => r

def planGate (id : Bytes) : Call R (Option Session) := Action.perform (.inl (.inl (.planGate id))) fun r => r

def streamGate (id : Bytes) : Call R Session := Action.perform (.inl (.inl (.streamGate id))) fun r => r

/-- A stream call to the runtime manager, with an exception handed back as a value. -/
def ask (c : StreamCall) : Call R (streamInterface.Ans c) := Action.perform (.inl (.inr c)) .ok

def activeStreamPlan (id : Bytes) : Call R (Option StreamRuntimePlan) := do
  match ← planGate id with
  | none => return none
  | some session =>
    match ← ask (.activeStreamPlan session) with
    | .ok plan => return plan
    | .error thrown => throw (.runtime (runtimeMessage (ascii "stream lookup") id thrown))

def kTransientFetchRetries : Nat := 20

def isTransientHttpStreamConnectError (what : Bytes) : Bool :=
  decide (ascii "failed to reach internal HTTP stream endpoint" <:+: cString what)

/-- The retry loop, with this many attempts left. -/
def fetchAttempts (session : Session) (id streamId : Bytes) : Nat → Call R HttpStreamResponse
  | 0 => throw (.runtime (runtimeMessage (ascii "stream fetch") id .unknown))
  | attempts + 1 => do
    match ← ask (.fetchHttpStream session streamId) with
    | .ok response => return response
    | .error (.exception what) =>
      if attempts = 0 ∨ ¬ isTransientHttpStreamConnectError what then
        throw (.runtime (runtimeMessage (ascii "stream fetch") id (.exception what)))
      else fetchAttempts session id streamId attempts
    | .error .unknown => throw (.runtime (runtimeMessage (ascii "stream fetch") id .unknown))

def fetchHttpStream (id streamId : Bytes) : Call R HttpStreamResponse := do
  let session ← streamGate id
  fetchAttempts session id streamId kTransientFetchRetries

def resolveWebsocketStream (id streamId : Bytes) : Call R WebSocketStreamRoute := do
  let session ← streamGate id
  match ← ask (.resolveWebsocketStream session streamId) with
  | .ok route => return route
  | .error thrown => throw (.runtime (runtimeMessage (ascii "websocket route") id thrown))

def lifecycle {α : Type} (action : ServiceAction R α) : Call R α := ExceptT.mk action.run.inr

end Call

end SessionService

inductive SessionCall
  | request (request : Request)
  | get (id : Bytes)
  | activeStreamPlan (id : Bytes)
  | fetchHttpStream (id streamId : Bytes)
  | resolveWebsocketStream (id streamId : Bytes)
  deriving DecidableEq

def SessionCall.session : SessionCall → Bytes
  | .request r => r.session
  | .get id | .activeStreamPlan id | .fetchHttpStream id _ | .resolveWebsocketStream id _ => id

inductive CallResult
  | session (session : Option Session)
  | plan (plan : Option StreamRuntimePlan)
  | response (response : HttpStreamResponse)
  | route (route : WebSocketStreamRoute)
  deriving DecidableEq

namespace SessionService

variable {R : Interface} (rm : RuntimeManager R)

def dispatch : SessionCall → Call R CallResult
  | .request request => .session <$> Call.lifecycle (handle rm request)
  | .get id => (fun session => .session (some session)) <$> Call.get id
  | .activeStreamPlan id => .plan <$> Call.activeStreamPlan id
  | .fetchHttpStream id streamId => .response <$> Call.fetchHttpStream id streamId
  | .resolveWebsocketStream id streamId => .route <$> Call.resolveWebsocketStream id streamId

abbrev callSystem {M : RuntimeMachine R} (streams : StreamMachine M) {Op Result : Type}
    (body : Op → Program (callInterface R) Result) : System (callInterface R) where
  State := SessionService × M.State
  Env := Env M.Env
  Op := Op
  Result := Result
  body := body
  exec
    | .inl (.inl c), _, σ => some (σ.1.read c, σ)
    | .inl (.inr c), e, σ => (streams.exec c e.runtime σ.2).map fun (r, runtime) => (r, (σ.1, runtime))
    | .inr c, e, σ => (system rm M).exec c e σ

end SessionService

end Gr4ControlPlane
