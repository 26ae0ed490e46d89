import Gr4ControlPlane.Api.PercentEncoding
import Gr4ControlPlane.Routing.Pattern

open Gr4ControlPlane.Routing

namespace Gr4ControlPlane

inductive HttpMethod
  | get | post | delete
  deriving DecidableEq

inductive Endpoint
  | healthz
  | blocks
  | block (id : Bytes)
  | schedulers
  | scheduler (id : Bytes)
  | createSession
  | sessions
  | httpStream (sessionId streamId : Bytes)
  | websocketStream (sessionId streamId : Bytes)
  | session (id : Bytes)
  | removeSession (id : Bytes)
  | startSession (id : Bytes)
  | stopSession (id : Bytes)
  | restartSession (id : Bytes)
  | updateSettings (sessionId blockUniqueName : Bytes)
  | settings (sessionId blockUniqueName : Bytes)
  deriving DecidableEq

structure Route where
  method : HttpMethod
  pattern : Pattern UInt8
  endpoint : List Bytes → Except Bytes Endpoint

/-- `.` matches no line terminator. -/
def dot (byte : UInt8) : Bool := byte != 10 && byte != 13

/-- `request.matches[n].str()` -/
def matched (groups : List Bytes) (n : Nat) : Bytes := groups.getD (n - 1) []

def plainRoute (method : HttpMethod) (path : Bytes) (endpoint : Endpoint) : Route where
  method := method
  pattern := [.literal path]
  endpoint _ := .ok endpoint

/-- `path` followed by `(.+)`. -/
def idRoute (method : HttpMethod) (path : Bytes) (endpoint : Bytes → Endpoint) : Route where
  method := method
  pattern := [.literal path, .capture dot]
  endpoint groups := do return endpoint (← decodePercentEncoded (matched groups 1))

/-- `/sessions/([A-Za-z0-9_]+)` followed by `path`. -/
def sessionRoute (method : HttpMethod) (path : Pattern UInt8) (endpoint : Bytes → Endpoint) : Route where
  method := method
  pattern := .literal (ascii "/sessions/") :: .capture isWord :: path
  endpoint groups := .ok (endpoint (matched groups 1))

/-- `/sessions/([A-Za-z0-9_]+)` followed by `(.+)` between two texts. -/
def memberRoute (method : HttpMethod) (before after : Bytes) (endpoint : Bytes → Bytes → Endpoint) : Route where
  method := method
  pattern := [.literal (ascii "/sessions/"), .capture isWord, .literal before, .capture dot, .literal after]
  endpoint groups := do return endpoint (matched groups 1) (← decodePercentEncoded (matched groups 2))

def httpStreamRoute : Route := memberRoute .get (ascii "/streams/") (ascii "/http") .httpStream

def websocketStreamRoute : Route := memberRoute .get (ascii "/streams/") (ascii "/ws") .websocketStream

def registerRoutes : List Route :=
  [plainRoute .get (ascii "/healthz") .healthz,
    plainRoute .get (ascii "/blocks") .blocks,
    idRoute .get (ascii "/blocks/") .block,
    plainRoute .get (ascii "/schedulers") .schedulers,
    idRoute .get (ascii "/schedulers/") .scheduler,
    plainRoute .post (ascii "/sessions") .createSession,
    plainRoute .get (ascii "/sessions") .sessions,
    httpStreamRoute,
    websocketStreamRoute,
    sessionRoute .get [] .session,
    sessionRoute .delete [] .removeSession,
    sessionRoute .post [.literal (ascii "/start")] .startSession,
    sessionRoute .post [.literal (ascii "/stop")] .stopSession,
    sessionRoute .post [.literal (ascii "/restart")] .restartSession,
    memberRoute .post (ascii "/blocks/") (ascii "/settings") .updateSettings,
    memberRoute .get (ascii "/blocks/") (ascii "/settings") .settings]

def Route.groups (route : Route) (method : HttpMethod) (path : Bytes) : Option (List Bytes) :=
  if route.method = method then regexMatch route.pattern path else none

/-- The first route that matches handles the request. -/
def routeRequest (method : HttpMethod) (path : Bytes) : Option (Except Bytes Endpoint) :=
  registerRoutes.findSome? fun route => (route.groups method path).map route.endpoint

example : routeRequest .get (ascii "/sessions/sess_7/streams/a+b/http") =
    some (.ok (.httpStream (ascii "sess_7") (ascii "a b"))) := by decide +kernel

variable {method : HttpMethod} {path sessionId before after id word : Bytes} {pattern : Pattern UInt8}

theorem forall_dot : (∀ byte ∈ id, dot byte = true) ↔ 10 ∉ id ∧ 13 ∉ id := by
  simp only [dot, Bool.and_eq_true, bne_iff_ne]
  exact ⟨fun h => ⟨fun hm => (h _ hm).1 rfl, fun hm => (h _ hm).2 rfl⟩,
    fun h byte hm => ⟨fun heq => h.1 (heq ▸ hm), fun heq => h.2 (heq ▸ hm)⟩⟩

theorem routeRequest_only (i : Nat) {route : Route} (hroute : registerRoutes[i]? = some route)
    (hothers : ∀ other ∈ registerRoutes.eraseIdx i, other.groups method path = none) :
    routeRequest method path = (route.groups method path).map route.endpoint := by
  obtain ⟨hlt, rfl⟩ := List.getElem?_eq_some_iff.mp hroute
  rw [List.eraseIdx_eq_take_drop_succ] at hothers
  have hnone : ∀ routes : List Route, (∀ other ∈ routes, other.groups method path = none) →
      routes.findSome? (fun route => (route.groups method path).map route.endpoint) = none := by
    intro routes h
    rw [List.findSome?_eq_none_iff]
    intro other hother
    rw [h other hother, Option.map_none]
  have hbefore := hnone (registerRoutes.take i) fun other h => hothers other (List.mem_append_left _ h)
  have hafter := hnone (registerRoutes.drop (i + 1)) fun other h => hothers other (List.mem_append_right _ h)
  have hsplit : registerRoutes = registerRoutes.take i ++ registerRoutes[i] :: registerRoutes.drop (i + 1) := by
    rw [← List.drop_eq_getElem_cons hlt, List.take_append_drop]
  unfold routeRequest
  conv_lhs => rw [hsplit]
  rw [List.findSome?_append, hbefore, Option.none_or, List.findSome?_cons]
  cases (registerRoutes[i].groups method path).map registerRoutes[i].endpoint with
  | none => exact hafter
  | some _ => rfl

def captured (id : Bytes) : Option (List Bytes) :=
  if !id.isEmpty && id.all dot then some [id] else none

theorem idRoute_groups (endpoint : Bytes → Endpoint) (id : Bytes) :
    (idRoute method path endpoint).groups method (path ++ id) = captured id :=
  (if_pos rfl).trans ((regexMatch_literal id).trans (regexMatch_group id))

theorem routeRequest_block (id : Bytes) : routeRequest .get (ascii "/blocks/" ++ id) =
    (captured id).map (idRoute .get (ascii "/blocks/") .block).endpoint := by
  rw [routeRequest_only 2 rfl, idRoute_groups]
  simp only [registerRoutes, List.eraseIdx_cons_succ, List.eraseIdx_cons_zero, List.forall_mem_cons]
  exact ⟨rfl, rfl, rfl, rfl, rfl, rfl, rfl, rfl, rfl, rfl, rfl, rfl, rfl, rfl, rfl, nofun⟩

theorem routeRequest_scheduler (id : Bytes) : routeRequest .get (ascii "/schedulers/" ++ id) =
    (captured id).map (idRoute .get (ascii "/schedulers/") .scheduler).endpoint := by
  rw [routeRequest_only 4 rfl, idRoute_groups]
  simp only [registerRoutes, List.eraseIdx_cons_succ, List.eraseIdx_cons_zero, List.forall_mem_cons]
  exact ⟨rfl, rfl, rfl, rfl, rfl, rfl, rfl, rfl, rfl, rfl, rfl, rfl, rfl, rfl, rfl, nofun⟩

def memberPath (sessionId before id after : Bytes) : Bytes :=
  ascii "/sessions/" ++ (sessionId ++ (before ++ (id ++ after)))

structure IsSessionId (sessionId : Bytes) : Prop where
  nonempty : sessionId ≠ []
  word : ∀ byte ∈ sessionId, isWord byte = true

theorem regexMatch_session (hs : IsSessionId sessionId) (hp : Anchored pattern) (tail : Bytes) :
    regexMatch (.literal (ascii "/sessions/") :: .capture isWord :: .literal (47 :: word) :: pattern)
        (ascii "/sessions/" ++ (sessionId ++ 47 :: tail)) =
      (regexMatch (.literal (47 :: word) :: pattern) (47 :: tail)).map (sessionId :: ·) :=
  (regexMatch_literal _).trans (regexMatch_before hp rfl hs.nonempty hs.word)

theorem anchored_member : Anchored [Piece.capture dot, .literal after] :=
  .last fun _ hpiece => ⟨after, List.mem_singleton.mp hpiece⟩

theorem memberRoute_groups (hs : IsSessionId sessionId) (endpoint : Bytes → Bytes → Endpoint) (id : Bytes) :
    (memberRoute method (47 :: word) after endpoint).groups method (memberPath sessionId (47 :: word) id after) =
      (captured id).map (sessionId :: ·) := by
  refine (if_pos rfl).trans ((regexMatch_session hs anchored_member _).trans ?_)
  congr 1
  exact (regexMatch_literal (id ++ after)).trans (regexMatch_last id)

theorem memberRoute_other {before after' : Bytes} (hs : IsSessionId sessionId) (endpoint : Bytes → Bytes → Endpoint)
    (h : regexMatch [.literal (47 :: word), .capture dot, .literal after] (47 :: before ++ (id ++ after')) = none) :
    (memberRoute method (47 :: word) after endpoint).groups method (memberPath sessionId (47 :: before) id after') =
      none :=
  (if_pos rfl).trans ((regexMatch_session hs anchored_member _).trans (congrArg _ h))

theorem sessionRoute_other {before : Bytes} (endpoint : Bytes → Endpoint) :
    (sessionRoute method [] endpoint).groups method (memberPath sessionId (47 :: before) id after) = none := by
  refine (if_pos rfl).trans ((regexMatch_literal _).trans ((regexMatch_group _).trans (if_neg ?_)))
  rw [Bool.and_eq_true, List.all_eq_true]
  rintro ⟨-, hall⟩
  exact absurd (hall 47 (by simp)) (by decide)

theorem sessionAction_other {before : Bytes} (hs : IsSessionId sessionId) (endpoint : Bytes → Endpoint)
    (h : regexMatch [.literal (47 :: word)] (47 :: before ++ (id ++ after)) = none) :
    (sessionRoute method [.literal (47 :: word)] endpoint).groups method (memberPath sessionId (47 :: before) id after) =
      none :=
  (if_pos rfl).trans ((regexMatch_session hs .nil _).trans (congrArg _ h))

theorem regexMatch_streams_ws (id : Bytes) :
    regexMatch [.literal (ascii "/streams/"), .capture dot, .literal (ascii "/ws")]
      (ascii "/streams/" ++ (id ++ ascii "/http")) = none :=
  (regexMatch_literal _).trans (regexMatch_ending fun ⟨_, h⟩ => endings_ne h)

theorem regexMatch_streams_http (id : Bytes) :
    regexMatch [.literal (ascii "/streams/"), .capture dot, .literal (ascii "/http")]
      (ascii "/streams/" ++ (id ++ ascii "/ws")) = none :=
  (regexMatch_literal _).trans (regexMatch_ending fun ⟨_, h⟩ => endings_ne h.symm)

theorem routeRequest_httpStream (hs : IsSessionId sessionId) (id : Bytes) :
    routeRequest .get (memberPath sessionId (ascii "/streams/") id (ascii "/http")) =
      ((captured id).map (sessionId :: ·)).map httpStreamRoute.endpoint := by
  rw [routeRequest_only 7 rfl, httpStreamRoute]
  · congr 1
    exact memberRoute_groups hs _ id
  · simp only [registerRoutes, List.eraseIdx_cons_succ, List.eraseIdx_cons_zero, List.forall_mem_cons]
    exact ⟨rfl, rfl, rfl, rfl, rfl, rfl, rfl, memberRoute_other hs _ (regexMatch_streams_ws id), sessionRoute_other _,
      rfl, rfl, rfl, rfl, rfl, memberRoute_other hs _ rfl, nofun⟩

theorem routeRequest_websocketStream (hs : IsSessionId sessionId) (id : Bytes) :
    routeRequest .get (memberPath sessionId (ascii "/streams/") id (ascii "/ws")) =
      ((captured id).map (sessionId :: ·)).map websocketStreamRoute.endpoint := by
  rw [routeRequest_only 8 rfl, websocketStreamRoute]
  · congr 1
    exact memberRoute_groups hs _ id
  · simp only [registerRoutes, List.eraseIdx_cons_succ, List.eraseIdx_cons_zero, List.forall_mem_cons]
    exact ⟨rfl, rfl, rfl, rfl, rfl, rfl, rfl, memberRoute_other hs _ (regexMatch_streams_http id), sessionRoute_other _,
      rfl, rfl, rfl, rfl, rfl, memberRoute_other hs _ rfl, nofun⟩

theorem routeRequest_updateSettings (hs : IsSessionId sessionId) (id : Bytes) :
    routeRequest .post (memberPath sessionId (ascii "/blocks/") id (ascii "/settings")) =
      ((captured id).map (sessionId :: ·)).map
        (memberRoute .post (ascii "/blocks/") (ascii "/settings") .updateSettings).endpoint := by
  rw [routeRequest_only 14 rfl]
  · congr 1
    exact memberRoute_groups hs _ id
  · simp only [registerRoutes, List.eraseIdx_cons_succ, List.eraseIdx_cons_zero, List.forall_mem_cons]
    exact ⟨rfl, rfl, rfl, rfl, rfl, rfl, rfl, rfl, rfl, rfl, rfl, sessionAction_other hs _ rfl,
      sessionAction_other hs _ rfl, sessionAction_other hs _ rfl, rfl, nofun⟩

theorem routeRequest_settings (hs : IsSessionId sessionId) (id : Bytes) :
    routeRequest .get (memberPath sessionId (ascii "/blocks/") id (ascii "/settings")) =
      ((captured id).map (sessionId :: ·)).map
        (memberRoute .get (ascii "/blocks/") (ascii "/settings") .settings).endpoint := by
  rw [routeRequest_only 15 rfl]
  · congr 1
    exact memberRoute_groups hs _ id
  · simp only [registerRoutes, List.eraseIdx_cons_succ, List.eraseIdx_cons_zero, List.forall_mem_cons]
    exact ⟨rfl, rfl, rfl, rfl, rfl, rfl, rfl, memberRoute_other hs _ rfl, memberRoute_other hs _ rfl,
      sessionRoute_other _, rfl, rfl, rfl, rfl, rfl, nofun⟩

theorem regexMatch_bare (hs : IsSessionId sessionId) (pattern : Pattern UInt8) :
    regexMatch (.literal (ascii "/sessions/") :: .capture isWord :: .literal (47 :: word) :: pattern)
      (ascii "/sessions/" ++ sessionId) = none := by
  rw [regexMatch_literal, Option.eq_none_iff_forall_ne_some]
  intro groups hmatch
  obtain ⟨group, rest, groups, htext, -, -, -, hrest⟩ := matches_capture.mp (regexMatch_sound hmatch)
  obtain ⟨rest', rfl, -⟩ := matches_literal.mp hrest
  have hslash : (47 : UInt8) ∈ sessionId := by
    rw [htext]
    simp
  exact absurd (hs.word 47 hslash) (by decide)

theorem sessionRoute_groups (hs : IsSessionId sessionId) (endpoint : Bytes → Endpoint) :
    (sessionRoute method [] endpoint).groups method (ascii "/sessions/" ++ sessionId) = some [sessionId] := by
  refine (if_pos rfl).trans ((regexMatch_literal _).trans ((regexMatch_group _).trans (if_pos ?_)))
  rw [Bool.and_eq_true, List.all_eq_true, Bool.not_eq_true', List.isEmpty_eq_false_iff]
  exact ⟨hs.nonempty, hs.word⟩

theorem sessionAction_groups (hs : IsSessionId sessionId) (endpoint : Bytes → Endpoint) :
    (sessionRoute method [.literal (47 :: word)] endpoint).groups method
      (ascii "/sessions/" ++ (sessionId ++ 47 :: word)) = some [sessionId] := by
  refine (if_pos rfl).trans ((regexMatch_session hs .nil _).trans ?_)
  have hword : regexMatch [.literal (47 :: word)] (47 :: word ++ []) = regexMatch [] [] := regexMatch_literal []
  rw [List.append_nil] at hword
  rw [hword]
  rfl

theorem sessionAction_none (hs : IsSessionId sessionId) (endpoint : Bytes → Endpoint) {after : Bytes}
    (h : regexMatch [.literal (47 :: word)] (47 :: after) = none) :
    (sessionRoute method [.literal (47 :: word)] endpoint).groups method
      (ascii "/sessions/" ++ (sessionId ++ 47 :: after)) = none :=
  (if_pos rfl).trans ((regexMatch_session hs .nil _).trans (congrArg _ h))

theorem memberRoute_none (hs : IsSessionId sessionId) (endpoint : Bytes → Bytes → Endpoint) {ending : Bytes}
    (h : regexMatch [.literal (47 :: word), .capture dot, .literal after] (47 :: ending) = none) :
    (memberRoute method (47 :: word) after endpoint).groups method (ascii "/sessions/" ++ (sessionId ++ 47 :: ending)) =
      none :=
  (if_pos rfl).trans ((regexMatch_session hs anchored_member _).trans (congrArg _ h))

theorem routeRequest_session (hs : IsSessionId sessionId) :
    routeRequest .get (ascii "/sessions/" ++ sessionId) = some (.ok (.session sessionId)) := by
  rw [routeRequest_only 9 rfl, sessionRoute_groups hs]
  · rfl
  · simp only [registerRoutes, List.eraseIdx_cons_succ, List.eraseIdx_cons_zero, List.forall_mem_cons]
    exact ⟨rfl, rfl, rfl, rfl, rfl, rfl, rfl, regexMatch_bare hs _, regexMatch_bare hs _, rfl, rfl, rfl, rfl, rfl,
      regexMatch_bare hs _, nofun⟩

theorem routeRequest_removeSession (hs : IsSessionId sessionId) :
    routeRequest .delete (ascii "/sessions/" ++ sessionId) = some (.ok (.removeSession sessionId)) := by
  rw [routeRequest_only 10 rfl, sessionRoute_groups hs]
  · rfl
  · simp only [registerRoutes, List.eraseIdx_cons_succ, List.eraseIdx_cons_zero, List.forall_mem_cons]
    exact ⟨rfl, rfl, rfl, rfl, rfl, rfl, rfl, rfl, rfl, rfl, rfl, rfl, rfl, rfl, rfl, nofun⟩

theorem routeRequest_startSession (hs : IsSessionId sessionId) :
    routeRequest .post (ascii "/sessions/" ++ (sessionId ++ ascii "/start")) = some (.ok (.startSession sessionId)) := by
  rw [routeRequest_only 11 rfl]
  · exact congrArg _ (sessionAction_groups hs _)
  · simp only [registerRoutes, List.eraseIdx_cons_succ, List.eraseIdx_cons_zero, List.forall_mem_cons]
    exact ⟨rfl, rfl, rfl, rfl, rfl, rfl, rfl, rfl, rfl, rfl, rfl, sessionAction_none hs _ rfl,
      sessionAction_none hs _ rfl, memberRoute_none hs _ rfl, rfl, nofun⟩

theorem routeRequest_stopSession (hs : IsSessionId sessionId) :
    routeRequest .post (ascii "/sessions/" ++ (sessionId ++ ascii "/stop")) = some (.ok (.stopSession sessionId)) := by
  rw [routeRequest_only 12 rfl]
  · exact congrArg _ (sessionAction_groups hs _)
  · simp only [registerRoutes, List.eraseIdx_cons_succ, List.eraseIdx_cons_zero, List.forall_mem_cons]
    exact ⟨rfl, rfl, rfl, rfl, rfl, rfl, rfl, rfl, rfl, rfl, rfl, sessionAction_none hs _ rfl,
      sessionAction_none hs _ rfl, memberRoute_none hs _ rfl, rfl, nofun⟩

theorem routeRequest_restartSession (hs : IsSessionId sessionId) :
    routeRequest .post (ascii "/sessions/" ++ (sessionId ++ ascii "/restart")) =
      some (.ok (.restartSession sessionId)) := by
  rw [routeRequest_only 13 rfl]
  · exact congrArg _ (sessionAction_groups hs _)
  · simp only [registerRoutes, List.eraseIdx_cons_succ, List.eraseIdx_cons_zero, List.forall_mem_cons]
    exact ⟨rfl, rfl, rfl, rfl, rfl, rfl, rfl, rfl, rfl, rfl, rfl, sessionAction_none hs _ rfl,
      sessionAction_none hs _ rfl, memberRoute_none hs _ rfl, rfl, nofun⟩

end Gr4ControlPlane
