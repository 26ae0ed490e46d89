import Gr4ControlPlane.Api.RouteTable
import Gr4ControlPlane.Api.SessionRoutes

/-! The routes for sessions from the request to the response: what is read off the path and the
body, the call this makes, and what its result is sent as. -/

open Gr4ControlPlane.Interleaving

namespace Gr4ControlPlane

structure HttpRequest where
  method : HttpMethod
  path : Bytes
  /-- The values of two headers, empty when they are missing. -/
  upgrade : Bytes
  connection : Bytes
  body : Bytes
  deriving DecidableEq

/-- What `Json::parse` throws: a `parse_error`, or the `out_of_range` of a number that is too large. -/
inductive JsonThrown
  | parseError
  | outOfRange (what : Bytes)

/-- The arguments of `create`, which are evaluated in any order. -/
inductive CreateArgument
  | name | grc | schedulerId
  deriving DecidableEq

namespace SessionRoutes

open SessionService

variable (parse : Bytes → Except JsonThrown Json) (dump : Json → Except Bytes Bytes)

def parseJsonBody (body : Bytes) : Except AppError Json :=
  match parse body with
  | .ok json => .ok json
  | .error .parseError => .error (.validation (ascii "request body must be valid JSON"))
  | .error (.outOfRange what) => .error (.stdException what)

def getRequiredGrc (body : Json) : Except AppError Bytes :=
  match body.member (ascii "grc") with
  | some (.string grc) =>
    if grc = [] then .error (.validation (ascii "grc must be a non-empty string")) else .ok grc
  | _ => .error (.validation (ascii "grc must be a non-empty string"))

def getOptionalName (body : Json) : Except AppError Bytes :=
  match body.member (ascii "name") with
  | none | some .null => .ok []
  | some (.string name) => .ok name
  | some _ => .error (.validation (ascii "name must be a string"))

def getOptionalSchedulerId (body : Json) : Except AppError (Option Bytes) :=
  match body.member (ascii "scheduler_id") with
  | none | some .null => .ok none
  | some (.string schedulerId) => .ok (if schedulerId = [] then none else some schedulerId)
  | some _ => .error (.validation (ascii "scheduler_id must be a string"))

def CreateArgument.evaluate (body : Json) : CreateArgument → Except AppError Unit
  | .name => (getOptionalName body).map fun _ => ()
  | .grc => (getRequiredGrc body).map fun _ => ()
  | .schedulerId => (getOptionalSchedulerId body).map fun _ => ()

/-- The call of `POST /sessions`; `draw` is the last id its loop draws. -/
def createRequest (order : List CreateArgument) (draw : UInt64) (body : Bytes) : Except AppError Request := do
  let json ← parseJsonBody parse body
  order.forM (CreateArgument.evaluate json)
  return .create draw (← getOptionalName json) (← getRequiredGrc json) (← getOptionalSchedulerId json)

def clientRequest (order : List CreateArgument) (draw : UInt64) (body : Bytes) :
    Endpoint → Option (Except AppError ClientRequest)
  | .createSession => some ((createRequest parse order draw body).map fun request => .call (.request request))
  | .startSession id => some (.ok (.call (.request (.lifecycle .start id))))
  | .stopSession id => some (.ok (.call (.request (.lifecycle .stop id))))
  | .restartSession id => some (.ok (.call (.request (.lifecycle .restart id))))
  | .removeSession id => some (.ok (.call (.request (.lifecycle .remove id))))
  | .sessions => some (.ok .getSessions)
  | .session id => some (.ok (.getSession id))
  | .httpStream sessionId streamId => some (.ok (.call (.fetchHttpStream sessionId streamId)))
  | .websocketStream sessionId streamId => some (.ok (.call (.resolveWebsocketStream sessionId streamId)))
  | _ => none

def setNoContentResponse : HttpResponse := ⟨204, [], []⟩

/-- A status that was received is not negative. -/
def setHttpStreamResponse (response : HttpStreamResponse) : HttpResponse :=
  ⟨response.status.toNat, response.contentType, response.body⟩

def isWebsocketUpgradeRequest (request : HttpRequest) : Bool :=
  request.upgrade = ascii "websocket" &&
    (ascii "Upgrade" <:+: request.connection || ascii "upgrade" <:+: request.connection)

/-- What the rest of a route's action makes of what the service has returned; `none` where it returns other things. -/
def reply (request : HttpRequest) : Endpoint → ClientResult → Option (Except Raised HttpResponse)
  | .createSession, .result (.session (some session)) =>
    some (raiseStd (setJsonResponse dump (sessionToJson session none) 201))
  | .startSession _, .result (.session (some session)) | .stopSession _, .result (.session (some session))
  | .restartSession _, .result (.session (some session)) =>
    some (raiseStd (setJsonResponse dump (sessionToJson session none) 200))
  | .removeSession _, .result (.session none) => some (.ok setNoContentResponse)
  | .sessions, .body body | .session _, .body body => some (raiseStd (setJsonResponse dump body 200))
  | .httpStream .., .result (.response response) => some (.ok (setHttpStreamResponse response))
  | .websocketStream .., .result (.route _) =>
    some (if isWebsocketUpgradeRequest request then
      raiseStd (setErrorResponse dump 501 (ascii "not_implemented")
        (ascii "websocket proxy upgrade is not implemented on the current server stack"))
    else .ok ⟨426, ascii "text/plain", []⟩)
  | _, _ => none

structure RoutedRequest where
  request : HttpRequest
  order : List CreateArgument
  draw : UInt64
  endpoint : Endpoint
  routed : routeRequest request.method request.path = some (.ok endpoint)

/-- A request for sessions that has passed the checks of its handler. -/
structure HttpCall extends RoutedRequest where
  call : ClientRequest
  accepted : clientRequest parse order draw request.body endpoint = some (.ok call)

variable {parse} in
def HttpCall.respond (call : HttpCall parse) : Except AppError ClientResult → Option (Except Bytes HttpResponse)
  | .ok result => (reply dump call.request call.endpoint result).map (execute dump)
  | .error err => some (execute dump (.error (.app err)))

variable {R : Interface} {M : RuntimeMachine R} (rm : RuntimeManager R) (streams : StreamMachine M)

abbrev httpSystem : System (callInterface R) :=
  callSystem rm streams fun call : HttpCall parse => (serve rm call.call).run

/-- What a request has come to, and what it is sent: a request that its handler refuses makes no call. -/
inductive Served {parse : Bytes → Except JsonThrown Json} {rm : RuntimeManager R} {streams : StreamMachine M}
    (c : Config (httpSystem parse rm streams)) : RoutedRequest → Except AppError ClientResult → Option (Except Bytes HttpResponse) → Prop
  | called {th r answer} : th ∈ c.threads → th.result = some r → th.op.respond dump r = answer →
      Served c th.op.toRoutedRequest r answer
  | refused {routed err} :
      clientRequest parse routed.order routed.draw routed.request.body routed.endpoint = some (.error err) →
      Served c routed (.error err) (some (execute dump (.error (.app err))))

section

variable {parse : Bytes → Except JsonThrown Json} {json : Json}

inductive OptionalText (json : Json) (key : Bytes) : Bytes → Prop
  | missing : json.member key = none → OptionalText json key []
  | null : json.member key = some .null → OptionalText json key []
  | given {text : Bytes} : json.member key = some (.string text) → OptionalText json key text

structure Describes (json : Json) (name grc : Bytes) (schedulerAlias : Option Bytes) : Prop where
  graph : json.member (ascii "grc") = some (.string grc)
  nonempty : grc ≠ []
  name : OptionalText json (ascii "name") name
  scheduler : OptionalText json (ascii "scheduler_id") (schedulerAlias.getD [])
  named : schedulerAlias ≠ some []

inductive Refuses (parse : Bytes → Except JsonThrown Json) (body : Bytes) : AppError → Prop
  | malformed : parse body = .error .parseError → Refuses parse body (.validation (ascii "request body must be valid JSON"))
  | tooLarge {what} : parse body = .error (.outOfRange what) → Refuses parse body (.stdException what)
  | grc {json : Json} : parse body = .ok json → (∀ grc, json.member (ascii "grc") = some (.string grc) → grc = []) →
      Refuses parse body (.validation (ascii "grc must be a non-empty string"))
  | name {json : Json} : parse body = .ok json → (∀ name, ¬OptionalText json (ascii "name") name) →
      Refuses parse body (.validation (ascii "name must be a string"))
  | schedulerId {json : Json} : parse body = .ok json → (∀ id, ¬OptionalText json (ascii "scheduler_id") id) →
      Refuses parse body (.validation (ascii "scheduler_id must be a string"))

theorem getRequiredGrc_eq_ok {grc : Bytes} :
    getRequiredGrc json = .ok grc ↔ json.member (ascii "grc") = some (.string grc) ∧ grc ≠ [] := by
  unfold getRequiredGrc
  split
  · next text heq =>
    rw [heq]
    split <;> grind
  · next hne => grind

theorem getOptionalName_eq_ok {name : Bytes} : getOptionalName json = .ok name ↔ OptionalText json (ascii "name") name := by
  unfold getOptionalName
  constructor
  · intro h
    split at h
    · next heq =>
      cases h
      exact .missing heq
    · next heq =>
      cases h
      exact .null heq
    · next heq =>
      cases h
      exact .given heq
    · cases h
  · intro h
    cases h with
    | missing heq | null heq | given heq => rw [heq]

theorem getOptionalSchedulerId_eq_ok {schedulerAlias : Option Bytes} : getOptionalSchedulerId json = .ok schedulerAlias ↔
    OptionalText json (ascii "scheduler_id") (schedulerAlias.getD []) ∧ schedulerAlias ≠ some [] := by
  unfold getOptionalSchedulerId
  constructor
  · intro h
    split at h
    · next heq =>
      cases h
      exact ⟨.missing heq, nofun⟩
    · next heq =>
      cases h
      exact ⟨.null heq, nofun⟩
    · next text heq =>
      cases h
      split
      · next hempty => exact ⟨.given (hempty ▸ heq), nofun⟩
      · next hne => exact ⟨.given heq, by simpa using hne⟩
    · cases h
  · rintro ⟨h, hne⟩
    generalize htext : schedulerAlias.getD [] = text at h
    cases h with
    | missing heq | null heq =>
      rw [heq]
      cases schedulerAlias with
      | none => rfl
      | some id => exact absurd (congrArg some htext) hne
    | given heq =>
      rw [heq]
      cases schedulerAlias with
      | none => exact congrArg Except.ok (if_pos htext.symm)
      | some id =>
        obtain rfl : id = text := htext
        exact congrArg Except.ok (if_neg fun h => hne (congrArg some h))

theorem getRequiredGrc_eq_error {err : AppError} (h : getRequiredGrc json = .error err) :
    err = .validation (ascii "grc must be a non-empty string") ∧
      ∀ grc, json.member (ascii "grc") = some (.string grc) → grc = [] := by
  have hgrc : ∀ grc, json.member (ascii "grc") = some (.string grc) → grc = [] := fun grc hmember => by
    by_contra hne
    cases h.symm.trans (getRequiredGrc_eq_ok.mpr ⟨hmember, hne⟩)
  refine ⟨?_, hgrc⟩
  unfold getRequiredGrc at h
  split at h
  · split at h <;> cases h
    rfl
  · cases h
    rfl

theorem getOptionalName_eq_error {err : AppError} (h : getOptionalName json = .error err) :
    err = .validation (ascii "name must be a string") ∧ ∀ name, ¬OptionalText json (ascii "name") name := by
  refine ⟨?_, fun name hname => by cases h.symm.trans (getOptionalName_eq_ok.mpr hname)⟩
  unfold getOptionalName at h
  split at h <;> cases h
  rfl

theorem getOptionalSchedulerId_eq_error {err : AppError} (h : getOptionalSchedulerId json = .error err) :
    err = .validation (ascii "scheduler_id must be a string") ∧ ∀ id, ¬OptionalText json (ascii "scheduler_id") id := by
  unfold getOptionalSchedulerId at h
  split at h <;> cases h
  next hnull hstring heq =>
  refine ⟨rfl, fun id hid => ?_⟩
  cases hid with
  | missing h => cases heq.symm.trans h
  | null h => exact hnull (Option.some.inj (heq.symm.trans h))
  | given h => exact hstring _ (Option.some.inj (heq.symm.trans h))

theorem parseJsonBody_eq_ok {body : Bytes} : parseJsonBody parse body = .ok json ↔ parse body = .ok json := by
  unfold parseJsonBody
  split <;> simp [*]

theorem evaluate_ok {name grc : Bytes} {schedulerAlias : Option Bytes} (hname : getOptionalName json = .ok name)
    (hgrc : getRequiredGrc json = .ok grc) (hscheduler : getOptionalSchedulerId json = .ok schedulerAlias)
    (order : List CreateArgument) : order.forM (CreateArgument.evaluate json) = .ok () := by
  induction order with
  | nil => rfl
  | cons argument order ih =>
    have hargument : CreateArgument.evaluate json argument = .ok () := by
      cases argument <;> simp [CreateArgument.evaluate, hname, hgrc, hscheduler, Except.map]
    change (CreateArgument.evaluate json argument >>= fun _ => order.forM (CreateArgument.evaluate json)) = .ok ()
    rw [hargument]
    exact ih

theorem evaluate_eq_error {body : Bytes} (hparse : parse body = .ok json) {argument : CreateArgument} {err : AppError}
    (h : CreateArgument.evaluate json argument = .error err) : Refuses parse body err := by
  cases argument with
  | name =>
    obtain ⟨rfl, hname⟩ := getOptionalName_eq_error (map_eq_error h)
    exact .name hparse hname
  | grc =>
    obtain ⟨rfl, hgrc⟩ := getRequiredGrc_eq_error (map_eq_error h)
    exact .grc hparse hgrc
  | schedulerId =>
    obtain ⟨rfl, hid⟩ := getOptionalSchedulerId_eq_error (map_eq_error h)
    exact .schedulerId hparse hid

theorem createRequest_eq_error {order : List CreateArgument} {draw : UInt64} {body : Bytes} {err : AppError}
    (h : createRequest parse order draw body = .error err) : Refuses parse body err := by
  rcases bind_eq_error h with h | ⟨json, hjson, h⟩
  · unfold parseJsonBody at h
    split at h
    · cases h
    · next hparse =>
      cases h
      exact .malformed hparse
    · next hparse =>
      cases h
      exact .tooLarge hparse
  have hparse := parseJsonBody_eq_ok.mp hjson
  rcases bind_eq_error h with h | ⟨_, -, h⟩
  · obtain ⟨argument, -, h⟩ := forM_eq_error h
    exact evaluate_eq_error hparse h
  rcases bind_eq_error h with h | ⟨name, -, h⟩
  · exact evaluate_eq_error hparse (show CreateArgument.evaluate json .name = .error err from congrArg (Except.map _) h)
  rcases bind_eq_error h with h | ⟨grc, -, h⟩
  · exact evaluate_eq_error hparse (show CreateArgument.evaluate json .grc = .error err from congrArg (Except.map _) h)
  rcases bind_eq_error h with h | ⟨schedulerAlias, -, h⟩
  · exact evaluate_eq_error hparse (show CreateArgument.evaluate json .schedulerId = .error err from congrArg (Except.map _) h)
  · cases h

theorem refuses_of_clientRequest {order : List CreateArgument} {draw : UInt64} {body : Bytes} {endpoint : Endpoint}
    {err : AppError} (h : clientRequest parse order draw body endpoint = some (.error err)) :
    endpoint = .createSession ∧ Refuses parse body err := by
  cases endpoint with
  | createSession => exact ⟨rfl, createRequest_eq_error (map_eq_error (Option.some.inj h))⟩
  | _ => cases h

theorem createRequest_eq_ok {order : List CreateArgument} {draw : UInt64} {body : Bytes} {request : Request} :
    createRequest parse order draw body = .ok request ↔ ∃ json name grc schedulerAlias, parse body = .ok json ∧
      Describes json name grc schedulerAlias ∧ request = .create draw name grc schedulerAlias := by
  constructor
  · intro h
    obtain ⟨json, hparse, h⟩ := bind_eq_ok h
    obtain ⟨_, -, h⟩ := bind_eq_ok h
    obtain ⟨name, hname, h⟩ := bind_eq_ok h
    obtain ⟨grc, hgrc, h⟩ := bind_eq_ok h
    obtain ⟨schedulerAlias, hscheduler, h⟩ := bind_eq_ok h
    cases h
    obtain ⟨hgraph, hne⟩ := getRequiredGrc_eq_ok.mp hgrc
    obtain ⟨hid, hnamed⟩ := getOptionalSchedulerId_eq_ok.mp hscheduler
    exact ⟨json, name, grc, schedulerAlias, parseJsonBody_eq_ok.mp hparse,
      ⟨hgraph, hne, getOptionalName_eq_ok.mp hname, hid, hnamed⟩, rfl⟩
  · rintro ⟨json, name, grc, schedulerAlias, hparse, hdescribes, rfl⟩
    have hname := getOptionalName_eq_ok.mpr hdescribes.name
    have hgrc := getRequiredGrc_eq_ok.mpr ⟨hdescribes.graph, hdescribes.nonempty⟩
    have hscheduler := getOptionalSchedulerId_eq_ok.mpr ⟨hdescribes.scheduler, hdescribes.named⟩
    simp only [createRequest, parseJsonBody_eq_ok.mpr hparse, evaluate_ok hname hgrc hscheduler, hname, hgrc, hscheduler,
      bind, Except.bind]
    rfl

end

end SessionRoutes

end Gr4ControlPlane
