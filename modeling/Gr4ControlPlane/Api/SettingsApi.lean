import Gr4ControlPlane.Api.SessionApi
import Gr4ControlPlane.Runtime.StubSettings

namespace Gr4ControlPlane

open Json

structure SettingsHttpRequest where
  sessionId : Bytes
  block : Bytes
  /-- `get_param_value("mode")` -/
  mode : Bytes
  body : Bytes
  /-- The arguments of `update` are evaluated in any order. -/
  bodyFirst : Bool

namespace SettingsRoutes

open SessionRoutes BlockSettingsService

def parseSettingsMode (mode : Bytes) : Except AppError BlockSettingsMode :=
  if mode = [] ∨ mode = ascii "staged" then .ok .staged
  else if mode = ascii "immediate" then .ok .immediate
  else .error (.validation (ascii "mode must be 'staged' or 'immediate'"))

def blockSettingsUpdateToJson (result : BlockSettingsUpdateResult) : Json :=
  .object [(ascii "accepted", .boolean result.accepted), (ascii "applied_via", .string result.appliedVia),
    (ascii "block", .string result.block), (ascii "session_id", .string result.sessionId)]

section

variable (parse : Bytes → Except JsonThrown Json) (dump : Json → Except Bytes Bytes)

def parseArguments (request : SettingsHttpRequest) : Except AppError (Json × BlockSettingsMode) :=
  if request.bodyFirst then do
    let patch ← parseJsonBody parse request.body
    return (patch, ← parseSettingsMode request.mode)
  else do
    let mode ← parseSettingsMode request.mode
    return (← parseJsonBody parse request.body, mode)

/-- `POST /sessions/([A-Za-z0-9_]+)/blocks/(.+)/settings` -/
def updateSettings (repository : InMemorySessionRepository) (runtime : BlockSettingsRuntime)
    (request : SettingsHttpRequest) : Except Raised HttpResponse := do
  let (patch, mode) ← (parseArguments parse request).mapError .app
  let result ← BlockSettingsService.update repository runtime request.sessionId request.block patch mode
  raiseStd (setJsonResponse dump (blockSettingsUpdateToJson result) 200)

/-- `GET /sessions/([A-Za-z0-9_]+)/blocks/(.+)/settings` -/
def settings (repository : InMemorySessionRepository) (runtime : BlockSettingsRuntime) (sessionId block : Bytes) :
    Except Raised HttpResponse := do
  let settings ← BlockSettingsService.get repository runtime sessionId block
  raiseStd (setJsonResponse dump (.object [(ascii "settings", settings)]) 200)

def patched (repository : InMemorySessionRepository) (request : SettingsHttpRequest) : Option (Session × PropertyMap) :=
  match parseArguments parse request, loadRunningSessionOrThrow repository request.sessionId with
  | .ok (patch, _), .ok session => (jsonToPropertyMap patch).toOption.map (session, ·)
  | _, _ => none

end

/-- What may happen to a stub; a request sees the repository as it was when the session was looked up. -/
inductive SettingsEvent
  | update (repository : InMemorySessionRepository) (request : SettingsHttpRequest)
  | read (repository : InMemorySessionRepository) (sessionId block : Bytes)
  | lifecycle (reserve : Reservations) (c : StubCmd)

section

variable (parse : Bytes → Except JsonThrown Json) (dump : Json → Except Bytes Bytes)

def serve (σ : StubState) : SettingsEvent → Option (Except Bytes HttpResponse) × StubState
  | .update repository request =>
    (some (execute dump (updateSettings parse dump repository σ.blockSettings request)),
      match patched parse repository request with
      | none => σ
      | some (session, patch) => σ.setBlockSettings session request.block patch)
  | .read repository sessionId block =>
    (some (execute dump (settings dump repository σ.blockSettings sessionId block)), σ)
  | .lifecycle reserve c => (none, ((σ.exec reserve c).map Prod.snd).getD σ)

def run (σ : StubState) : List SettingsEvent → List (Option (Except Bytes HttpResponse)) × StubState
  | [] => ([], σ)
  | event :: events =>
    let (response, σ) := serve parse dump σ event
    let (responses, σ) := run σ events
    (response :: responses, σ)

inductive Refused (repository : InMemorySessionRepository) (request : SettingsHttpRequest) : AppError → Prop
  | arguments {err} : parseArguments parse request = .error err → Refused repository request err
  | session {patch mode err} : parseArguments parse request = .ok (patch, mode) →
      loadRunningSessionOrThrow repository request.sessionId = .error err → Refused repository request err
  | patch {patch mode session err} : parseArguments parse request = .ok (patch, mode) →
      loadRunningSessionOrThrow repository request.sessionId = .ok session → jsonToPropertyMap patch = .error err →
      Refused repository request err

inductive StoreStep (store : SettingsStore) : SettingsEvent → Option (Except Bytes HttpResponse) → SettingsStore → Prop
  | updated {repository request patch mode session} : parseArguments parse request = .ok (patch, mode) →
      loadRunningSessionOrThrow repository request.sessionId = .ok session →
      (∃ members, patch = .object members) ∧ (∀ items, ¬ Within (.array items) patch) →
      StoreStep store (.update repository request)
        (some (execute dump (raiseStd (setJsonResponse dump
          (blockSettingsUpdateToJson ⟨session.id, request.block, mode.toString, true⟩) 200))))
        (store.update session.id request.block patch)
  | refused {repository request err} : Refused parse repository request err →
      StoreStep store (.update repository request) (some (handleException dump (.app err))) store
  | read {repository sessionId block session members} : loadRunningSessionOrThrow repository sessionId = .ok session →
      Sorted members → (∀ key, members.lookup key = store session.id block key) →
      StoreStep store (.read repository sessionId block)
        (some (execute dump (raiseStd (setJsonResponse dump (.object [(ascii "settings", .object members)]) 200)))) store
  | unread {repository sessionId block err} : loadRunningSessionOrThrow repository sessionId = .error err →
      StoreStep store (.read repository sessionId block) (some (handleException dump (.app err))) store
  | destroyed {reserve id} : StoreStep store (.lifecycle reserve (.eraseSettings id)) none (store.erase id)
  | other {reserve c} : (∀ id, c ≠ .eraseSettings id) → StoreStep store (.lifecycle reserve c) none store

inductive StoreRun : SettingsStore → List SettingsEvent → List (Option (Except Bytes HttpResponse)) → SettingsStore → Prop
  | nil {store} : StoreRun store [] [] store
  | cons {store store' store'' event events response responses} : StoreStep parse dump store event response store' →
      StoreRun store' events responses store'' → StoreRun store (event :: events) (response :: responses) store''

end

def SettingsEvent.Fits (parse : Bytes → Except JsonThrown Json) : SettingsEvent → Prop
  | .update _ request => ∀ patch, parse request.body = .ok patch → ∀ n, Within (.integer n) patch → FitsInt64 n
  | _ => True

section

variable {parse : Bytes → Except JsonThrown Json} {dump : Json → Except Bytes Bytes} {σ : StubState} {store : SettingsStore}
  {repository : InMemorySessionRepository} {request : SettingsHttpRequest} {patch : Json} {mode : BlockSettingsMode}

theorem parse_of_arguments (h : parseArguments parse request = .ok (patch, mode)) : parse request.body = .ok patch := by
  unfold parseArguments at h
  split at h
  · obtain ⟨patch', hpatch, h⟩ := bind_eq_ok h
    obtain ⟨mode', -, h⟩ := bind_eq_ok h
    cases h
    exact parseJsonBody_eq_ok.mp hpatch
  · obtain ⟨mode', -, h⟩ := bind_eq_ok h
    obtain ⟨patch', hpatch, h⟩ := bind_eq_ok h
    cases h
    exact parseJsonBody_eq_ok.mp hpatch

theorem serve_refused {err : AppError} (h : Refused parse repository request err) :
    serve parse dump σ (.update repository request) = (some (handleException dump (.app err)), σ) := by
  have hupdate : updateSettings parse dump repository σ.blockSettings request = .error (.app err) ∧
      patched parse repository request = none := by
    unfold updateSettings patched
    cases h with
    | arguments harguments =>
      rw [harguments]
      exact ⟨rfl, rfl⟩
    | session harguments hload =>
      rw [harguments, hload]
      refine ⟨?_, rfl⟩
      dsimp only [Except.mapError, bind, Except.bind]
      rw [update_refused hload]
    | patch harguments hload hpatch =>
      rw [harguments, hload]
      dsimp only [Except.mapError, bind, Except.bind, BlockSettingsService.update]
      rw [hload, hpatch]
      exact ⟨rfl, rfl⟩
  obtain ⟨hresponse, hpatched⟩ := hupdate
  dsimp only [serve]
  rw [hresponse, hpatched]
  rfl

theorem serve_updated {session : Session} {propertyMap : PropertyMap}
    (harguments : parseArguments parse request = .ok (patch, mode))
    (hload : loadRunningSessionOrThrow repository request.sessionId = .ok session)
    (hpatch : jsonToPropertyMap patch = .ok propertyMap) :
    serve parse dump σ (.update repository request) =
      (some (execute dump (raiseStd (setJsonResponse dump
        (blockSettingsUpdateToJson ⟨session.id, request.block, mode.toString, true⟩) 200))),
        σ.setBlockSettings session request.block propertyMap) := by
  have hresponse : updateSettings parse dump repository σ.blockSettings request =
      raiseStd (setJsonResponse dump (blockSettingsUpdateToJson ⟨session.id, request.block, mode.toString, true⟩) 200) := by
    unfold updateSettings
    rw [harguments]
    dsimp only [Except.mapError, bind, Except.bind]
    rw [passes_of_ok hpatch repository σ.blockSettings _ session request.block mode hload]
    rfl
  have hpatched : patched parse repository request = some (session, propertyMap) := by
    unfold patched
    rw [harguments, hload]
    dsimp only
    rw [hpatch]
    rfl
  dsimp only [serve]
  rw [hresponse, hpatched]

theorem serve_update (ordered : ∀ text json, parse text = .ok json → Ordered json) (h : σ.Represents store)
    (hfits : (SettingsEvent.update repository request).Fits parse) :
    ∃ store', StoreStep parse dump store (.update repository request) (serve parse dump σ (.update repository request)).1
      store' ∧ (serve parse dump σ (.update repository request)).2.Represents store' := by
  have hrefused : ∀ {err}, Refused parse repository request err →
      ∃ store', StoreStep parse dump store (.update repository request) (serve parse dump σ (.update repository request)).1
        store' ∧ (serve parse dump σ (.update repository request)).2.Represents store' := by
    intro err herr
    rw [serve_refused herr]
    exact ⟨store, .refused herr, h⟩
  cases harguments : parseArguments parse request with
  | error err => exact hrefused (.arguments harguments)
  | ok arguments =>
    obtain ⟨patch, mode⟩ := arguments
    cases hload : loadRunningSessionOrThrow repository request.sessionId with
    | error err => exact hrefused (.session harguments hload)
    | ok session =>
      cases hpatch : jsonToPropertyMap patch with
      | error err => exact hrefused (.patch harguments hload hpatch)
      | ok propertyMap =>
        have hparsed := parse_of_arguments harguments
        rw [serve_updated harguments hload hpatch]
        exact ⟨_, .updated harguments hload (jsonToPropertyMap_ok_iff.mp ⟨propertyMap, hpatch⟩),
          h.set (ordered _ _ hparsed) (hfits _ hparsed) hpatch⟩

theorem serve_read {sessionId block : Bytes} (h : σ.Represents store) :
    StoreStep parse dump store (.read repository sessionId block)
      (serve parse dump σ (.read repository sessionId block)).1 store := by
  dsimp only [serve]
  cases hload : loadRunningSessionOrThrow repository sessionId with
  | error err =>
    have hresponse : settings dump repository σ.blockSettings sessionId block = .error (.app err) := by
      unfold settings
      rw [get_refused hload]
      rfl
    rw [hresponse]
    exact .unread hload
  | ok session =>
    obtain ⟨members, hmembers, hsorted, hlookup⟩ := (h session block).propertyMapToJson
    have hget : BlockSettingsService.get repository σ.blockSettings sessionId block = .ok (.object members) := by
      have hruntime : σ.blockSettings.getBlockSettings session block = .ok (σ.getBlockSettings session block) := rfl
      unfold BlockSettingsService.get
      rw [hload]
      dsimp only [Except.mapError, bind, Except.bind]
      rw [hruntime]
      dsimp only
      rw [hmembers]
    have hresponse : settings dump repository σ.blockSettings sessionId block =
        raiseStd (setJsonResponse dump (.object [(ascii "settings", .object members)]) 200) := by
      unfold settings
      rw [hget]
      rfl
    rw [hresponse]
    exact .read hload hsorted hlookup

theorem settings_exec {reserve : Reservations} {c : StubCmd} (hc : ∀ id, c ≠ .eraseSettings id) :
    (((σ.exec reserve c).map Prod.snd).getD σ).settings = σ.settings := by
  cases c with
  | eraseSettings id => exact absurd rfl (hc id)
  | _ => rfl

theorem serve_lifecycle {reserve : Reservations} {c : StubCmd} (h : σ.Represents store) :
    ∃ store', StoreStep parse dump store (.lifecycle reserve c) none store' ∧
      (((σ.exec reserve c).map Prod.snd).getD σ).Represents store' := by
  by_cases hc : ∃ id, c = .eraseSettings id
  · obtain ⟨id, rfl⟩ := hc
    exact ⟨_, .destroyed, h.erase id⟩
  · have hc : ∀ id, c ≠ .eraseSettings id := fun id heq => hc ⟨id, heq⟩
    refine ⟨store, .other hc, fun session block => ?_⟩
    have hsame : (((σ.exec reserve c).map Prod.snd).getD σ).getBlockSettings session block =
        σ.getBlockSettings session block := by
      unfold StubState.getBlockSettings
      rw [settings_exec hc]
    rw [hsame]
    exact h session block

theorem serve_step {event : SettingsEvent} (ordered : ∀ text json, parse text = .ok json → Ordered json)
    (h : σ.Represents store) (hfits : event.Fits parse) : ∃ store',
      StoreStep parse dump store event (serve parse dump σ event).1 store' ∧
        (serve parse dump σ event).2.Represents store' := by
  cases event with
  | update repository request => exact serve_update ordered h hfits
  | read repository sessionId block => exact ⟨store, serve_read h, h⟩
  | lifecycle reserve c => exact serve_lifecycle h

/-- Whatever else is done to the sessions, a client finds in the settings of a block just the members that have been
patched in since the session was last destroyed, each as it was given last. -/
theorem settings_refine (ordered : ∀ text json, parse text = .ok json → Ordered json) (events : List SettingsEvent)
    (hfits : ∀ event ∈ events, event.Fits parse) : ∃ store,
      StoreRun parse dump (fun _ _ _ => none) events (run parse dump .init events).1 store ∧
      (run parse dump .init events).2.Represents store := by
  have hrun : ∀ {σ : StubState} {store}, σ.Represents store →
      ∃ store', StoreRun parse dump store events (run parse dump σ events).1 store' ∧
        (run parse dump σ events).2.Represents store' := by
    induction events with
    | nil => exact fun h => ⟨_, .nil, h⟩
    | cons event events ih =>
      intro σ store h
      rw [List.forall_mem_cons] at hfits
      obtain ⟨store', hstep, h'⟩ := serve_step ordered h hfits.1
      obtain ⟨store'', hrest, h''⟩ := ih hfits.2 h'
      exact ⟨store'', .cons hstep hrest, h''⟩
  exact hrun StubState.represents_init

end

def gainText : Bytes := ascii "\x7b\"gain\":3\x7d"

def gainBody : Json := .object [(ascii "gain", .integer 3)]

def parseGain (text : Bytes) : Except JsonThrown Json := if text = gainText then .ok gainBody else .error .parseError

theorem eq_gainBody {text : Bytes} {json : Json} (h : parseGain text = .ok json) : json = gainBody := by
  unfold parseGain at h
  split at h
  · exact (Except.ok.inj h).symm
  · cases h

theorem within_gainBody {v : Json} (h : Within v gainBody) : v = gainBody ∨ v = .integer 3 := by
  cases h with
  | self => exact .inl rfl
  | member hmem h =>
    cases List.mem_singleton.mp hmem
    cases h
    exact .inr rfl

theorem ordered_gainBody : Ordered gainBody := by
  intro members h
  rcases within_gainBody h with h | h
  · obtain rfl := Json.object.inj h
    exact List.pairwise_singleton _ _
  · cases h

def runningRepository : InMemorySessionRepository :=
  InMemorySessionRepository.empty.put ⟨ascii "sess_1", [], [], none, .running, none, 1, 2⟩

def gainEvents : List SettingsEvent :=
  [.update runningRepository ⟨ascii "sess_1", ascii "gain#0", ascii "immediate", gainText, true⟩,
    .read runningRepository (ascii "sess_1") (ascii "gain#0"), .lifecycle (fun _ => .ok 1) (.eraseSettings (ascii "sess_1")),
    .read runningRepository (ascii "sess_1") (ascii "gain#0")]

theorem gainEvents_fit : ∀ event ∈ gainEvents, event.Fits parseGain := by
  simp only [gainEvents, List.forall_mem_cons]
  refine ⟨fun patch hpatch n hn => ?_, trivial, trivial, trivial, nofun⟩
  obtain rfl := eq_gainBody hpatch
  rcases within_gainBody hn with h | h <;> cases h
  exact ⟨by decide, by decide⟩

theorem settings_refine_gain : ∃ store,
    StoreRun parseGain (Json.dump fun _ => []) (fun _ _ _ => none) gainEvents
      (run parseGain (Json.dump fun _ => []) .init gainEvents).1 store ∧
    (run parseGain (Json.dump fun _ => []) .init gainEvents).2.Represents store :=
  settings_refine (fun _ _ h => eq_gainBody h ▸ ordered_gainBody) gainEvents gainEvents_fit

end SettingsRoutes

end Gr4ControlPlane
