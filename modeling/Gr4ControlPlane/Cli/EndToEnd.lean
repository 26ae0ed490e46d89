import Gr4ControlPlane.Api.HttpAnswers
import Gr4ControlPlane.Cli.CommandLaws

/-! The client and the server together: what a command prints is what the call that it makes came
to, whatever the other clients do. -/

open Gr4ControlPlane.Interleaving

namespace Gr4ControlPlane.Cli

open SessionService SessionRoutes

/-- The session that a command is about has an id that the routes let through. -/
def Command.Addressed : Command → Prop
  | .session _ id _ => IsSessionId id
  | _ => True

def Command.endpoint : Command → Endpoint
  | .create _ => .createSession
  | .list _ => .sessions
  | .session .get id _ => .session id
  | .session .start id _ => .startSession id
  | .session .stop id _ => .stopSession id
  | .session .restart id _ => .restartSession id
  | .session .delete id _ => .removeSession id

def Command.Leaves (world : World) (command : Command) (s : Session) : Prop :=
  match command with
  | .create _ => s.name = command.options.name ∧ world.readFile command.options.filePath = some s.grcContent ∧
      s.schedulerAlias = none ∧ s.state = .stopped
  | .session .start id _ | .session .restart id _ => s.id = id ∧ s.state = .running
  | .session .stop id _ => s.id = id ∧ s.state = .stopped
  | .list _ | .session .get _ _ | .session .delete _ _ => False

def reported (err : AppError) : Json := errorBody (currentErrorDetails (.app err)).code (currentErrorDetails (.app err)).message

def documents : Except AppError ClientResult → List Json
  | .ok (.body body) => [body, internalError]
  | .ok (.result (.session (some session))) => [sessionToJson session none, internalError]
  | .ok _ => []
  | .error err => [reported err]

structure Arrives (request : CliRequest) (received : HttpRequest) : Prop where
  method : received.method = request.method
  path : received.path = request.path
  body : received.body = request.body

/-- What one side prints the other reads. -/
def Understood {ε : Type} (dump : Json → Except Bytes Bytes) (parse : Bytes → Except ε Json) (body : Json) : Prop :=
  ∀ text, dump body = .ok text → text ≠ [] ∧ parse text = .ok body

/-- What is printed of a call that is over, and how the command exits. -/
inductive Reports (world : World) (request : CliRequest) : Command → Except AppError ClientResult → Outcome → Prop
  | session {command s out} : command.Leaves world s → world.dumpIndented (sessionToJson s none) = .ok out →
      Reports world request command (.ok (.result (.session (some s)))) ⟨0, out ++ [10], [], [request]⟩
  | deleted {id urls} : Reports world request (.session .delete id urls) (.ok (.result (.session none)))
      ⟨0, ascii "deleted " ++ id ++ [10], [], [request]⟩
  | body {command body out} : world.dumpIndented body = .ok out →
      Reports world request command (.ok (.body body)) ⟨0, out ++ [10], [], [request]⟩
  | unprintable {command body} : body.printable = false →
      Reports world request command (.ok (.body body))
        ⟨1, [], ascii "internal_error: internal server error" ++ [10], [request]⟩
  | failed {command err} : Reports world request command (.error err)
      ⟨1, [], (currentErrorDetails (.app err)).code ++ ascii ": " ++ (currentErrorDetails (.app err)).message ++ [10],
        [request]⟩

section

variable {world : World} {command : Command} {request : CliRequest} {status : Nat} {text : Bytes} {body : Json}

/-! ### Requests -/

theorem Command.request_create {options : List CreateOption} (h : (Command.create options).request world = .ok request) :
    ∃ server grc, readFile world (Command.create options).options.filePath = .ok grc ∧
      world.dump (createBody (Command.create options).options.name grc) = .ok request.body ∧
      request = ⟨server, .post, ascii "/sessions", request.body⟩ := by
  unfold Command.request at h
  dsimp only at h
  split at h
  · cases h
  · obtain ⟨server, -, h⟩ := bind_eq_ok h
    obtain ⟨grc, hgrc, h⟩ := bind_eq_ok h
    obtain ⟨payload, hpayload, h⟩ := bind_eq_ok h
    cases h
    exact ⟨server, grc, hgrc, hpayload, rfl⟩

theorem routeRequest_command (h : command.Addressed) (hrequest : command.request world = .ok request) :
    routeRequest request.method request.path = some (.ok command.endpoint) := by
  cases command with
  | create options =>
    obtain ⟨server, grc, -, -, heq⟩ := Command.request_create hrequest
    rw [heq]
    have hroute : routeRequest .post (ascii "/sessions") = some (.ok .createSession) := by decide +kernel
    exact hroute
  | list urls =>
    obtain ⟨server, -, hrequest⟩ := bind_eq_ok hrequest
    cases hrequest
    have hroute : routeRequest .get (ascii "/sessions") = some (.ok .sessions) := by decide +kernel
    exact hroute
  | session verb id urls =>
    obtain ⟨server, -, hrequest⟩ := bind_eq_ok hrequest
    cases hrequest
    cases verb with
    | get => exact routeRequest_session h
    | delete => exact routeRequest_removeSession h
    | start => exact (congrArg _ (List.append_assoc _ _ _)).trans (routeRequest_startSession h)
    | stop => exact (congrArg _ (List.append_assoc _ _ _)).trans (routeRequest_stopSession h)
    | restart => exact (congrArg _ (List.append_assoc _ _ _)).trans (routeRequest_restartSession h)

theorem readFile_eq_ok {path content : Bytes} (h : readFile world path = .ok content) :
    world.readFile path = some content := by
  unfold readFile at h
  split at h
  · next heq => rw [heq, Except.ok.inj h]
  · cases h

theorem describes_createBody {name name' grc grc' : Bytes} {schedulerAlias : Option Bytes}
    (h : Describes (createBody name grc) name' grc' schedulerAlias) :
    name' = name ∧ grc' = grc ∧ schedulerAlias = none := by
  obtain ⟨hgraph, -, hname, hscheduler, hnamed⟩ := h
  have hmembers : (createBody name grc).member (ascii "grc") = some (.string grc) ∧
      (createBody name grc).member (ascii "name") = some (.string name) ∧
      (createBody name grc).member (ascii "scheduler_id") = none := ⟨rfl, rfl, rfl⟩
  obtain ⟨hgrc', hname', hscheduler'⟩ := hmembers
  refine ⟨?_, ?_, ?_⟩
  · cases hname with
    | missing h | null h => cases hname'.symm.trans h
    | given h => exact Json.string.inj (Option.some.inj (h.symm.trans hname'))
  · exact Json.string.inj (Option.some.inj (hgraph.symm.trans hgrc'))
  · cases schedulerAlias with
    | none => rfl
    | some id =>
      generalize htext : (some id).getD [] = text at hscheduler
      cases hscheduler with
      | missing h | null h => exact absurd (congrArg some htext) hnamed
      | given h => cases hscheduler'.symm.trans h

/-! ### Responses -/

theorem findErrorMessage_errorBody {code message : Bytes} (hne : text ≠ [])
    (hparse : world.parse text = .ok (errorBody code message)) :
    findErrorMessage world (some ⟨status, text⟩) = .ok (some (code ++ ascii ": " ++ message)) := by
  unfold findErrorMessage
  dsimp only
  rw [if_neg hne, hparse]
  rfl

theorem throwStatus_errorBody {α : Type} {code message : Bytes} (hne : text ≠ [])
    (hparse : world.parse text = .ok (errorBody code message)) :
    (throwStatus world (some ⟨status, text⟩) ⟨status, text⟩ : Except Bytes α) =
      .error (code ++ ascii ": " ++ message) := by
  unfold throwStatus
  rw [findErrorMessage_errorBody hne hparse]
  rfl

theorem finish_error {code message : Bytes} (hne : text ≠ []) (hstatus : 300 ≤ status)
    (hparse : world.parse text = .ok (errorBody code message)) :
    command.finish world (some ⟨status, text⟩) = .error (code ++ ascii ": " ++ message) := by
  have hshow : showJson world (some ⟨status, text⟩) = .error (code ++ ascii ": " ++ message) := by
    have hreply : replyJson world (some ⟨status, text⟩) = .error (code ++ ascii ": " ++ message) := by
      refine (if_neg ?_).trans (throwStatus_errorBody hne hparse)
      exact fun h => absurd hstatus (Nat.not_le.mpr h.2)
    unfold showJson
    rw [hreply]
    rfl
  have hdeleted : ∀ id, showDeleted world id (some ⟨status, text⟩) = .error (code ++ ascii ": " ++ message) := by
    intro id
    have hreply : replyNoContent world (some ⟨status, text⟩) = .error (code ++ ascii ": " ++ message) := by
      refine (if_neg ?_).trans (throwStatus_errorBody hne hparse)
      rintro rfl
      exact absurd hstatus (by decide)
    unfold showDeleted
    rw [hreply]
    rfl
  unfold Command.finish
  split
  · exact hdeleted _
  · exact hshow

theorem showJson_body {out : Bytes} (hne : text ≠ []) (hstatus : 200 ≤ status ∧ status < 300)
    (hparse : world.parse text = .ok body) (hout : world.dumpIndented body = .ok out) :
    showJson world (some ⟨status, text⟩) = .ok (out ++ [10]) := by
  have hreply : replyJson world (some ⟨status, text⟩) = .ok body := by
    refine (if_pos hstatus).trans ((if_neg hne).trans ?_)
    unfold parseSuccessJson
    rw [hparse]
    rfl
  unfold showJson
  rw [hreply]
  change (world.dumpIndented body).bind _ = _
  rw [hout]
  rfl

theorem status_details (raised : Raised) : 300 ≤ (currentErrorDetails raised).status := by
  unfold currentErrorDetails
  split <;> (dsimp only; decide)

theorem whole_details (raised : Raised) :
    0 ∉ (currentErrorDetails raised).code ++ ascii ": " ++ (currentErrorDetails raised).message := by
  have hcode : 0 ∉ (currentErrorDetails raised).code ++ ascii ": " := by
    unfold currentErrorDetails
    split <;> (dsimp only; decide)
  have hmessage : 0 ∉ (currentErrorDetails raised).message := by
    unfold currentErrorDetails
    split <;> first | exact not_mem_cString _ | decide
  rw [List.mem_append, not_or]
  exact ⟨hcode, hmessage⟩

theorem outcome_ok {response : Reply} {out : Bytes} (hrequest : command.request world = .ok request)
    (hreply : world.respond request = some response) (hfinish : command.finish world (some response) = .ok out) :
    command.outcome world = ⟨0, out, [], [request]⟩ := by
  unfold Command.outcome
  rw [hrequest]
  dsimp only
  rw [hreply, hfinish]

theorem outcome_error {response : Reply} {what : Bytes} (hrequest : command.request world = .ok request)
    (hreply : world.respond request = some response) (hfinish : command.finish world (some response) = .error what) :
    command.outcome world = ⟨1, [], cString what ++ [10], [request]⟩ := by
  unfold Command.outcome
  rw [hrequest]
  dsimp only
  rw [hreply, hfinish]

variable {dump : Json → Except Bytes Bytes} {response : HttpResponse}

theorem outcome_raised {raised : Raised} (hrequest : command.request world = .ok request)
    (hread : Understood dump world.parse (errorBody (currentErrorDetails raised).code (currentErrorDetails raised).message))
    (hresponse : handleException dump raised = .ok response)
    (hreply : world.respond request = some ⟨response.status, response.body⟩) :
    command.outcome world = ⟨1, [], (currentErrorDetails raised).code ++ ascii ": " ++
      (currentErrorDetails raised).message ++ [10], [request]⟩ := by
  obtain ⟨text, hdump, heq⟩ := bind_eq_ok hresponse
  cases heq
  obtain ⟨hne, hparse⟩ := hread text hdump
  rw [outcome_error hrequest hreply (finish_error hne (status_details raised) hparse), cString_eq_self (whole_details raised)]

theorem outcome_shown {out : Bytes} (hshows : ∀ id urls, command ≠ .session .delete id urls)
    (hrequest : command.request world = .ok request) (hread : Understood dump world.parse body)
    (hstatus : 200 ≤ status ∧ status < 300) (hdump : dump body = .ok text)
    (hreply : world.respond request = some ⟨status, text⟩) (hout : world.dumpIndented body = .ok out) :
    command.outcome world = ⟨0, out ++ [10], [], [request]⟩ := by
  obtain ⟨hne, hparse⟩ := hread text hdump
  refine outcome_ok hrequest hreply (Eq.trans ?_ (showJson_body hne hstatus hparse hout))
  unfold Command.finish
  split
  · exact absurd rfl (hshows _ _)
  · rfl

end

section

variable {R : Interface} {M : RuntimeMachine R} {rm : RuntimeManager R} {streams : StreamMachine M}
  {parse : Bytes → Except JsonThrown Json} {dump : Json → Except Bytes Bytes} {world : World} {command : Command}
  {request : CliRequest}

theorem reports_read {call : HttpCall parse} {result : ClientResult} {response : HttpResponse}
    (hendpoint : call.endpoint = .sessions ∨ ∃ id, call.endpoint = .session id) (strict : Json.StrictDump dump)
    (indented : Json.StrictDump world.dumpIndented) (hshows : ∀ id urls, command ≠ .session .delete id urls)
    (hrequest : command.request world = .ok request) (hresponse : call.respond dump (.ok result) = some (.ok response))
    (hread : ∀ body ∈ documents (.ok result), Understood dump world.parse body)
    (hreply : world.respond request = some ⟨response.status, response.body⟩) :
    Reports world request command (.ok result) (command.outcome world) := by
  obtain ⟨action, haction, hexecute⟩ := Option.map_eq_some_iff.mp hresponse
  have hbody : ∃ body, result = .body body ∧ action = raiseStd (setJsonResponse dump body 200) := by
    rcases hendpoint with hendpoint | ⟨id, hendpoint⟩ <;> rw [hendpoint] at haction <;>
      cases result with
      | body body => exact ⟨body, rfl, (Option.some.inj haction).symm⟩
      | result r => cases haction
  obtain ⟨body, rfl, rfl⟩ := hbody
  cases hdump : dump body with
  | error what =>
    have hprintable : body.printable = false := by
      rw [← strict body, hdump]
      rfl
    rw [setJsonResponse, hdump] at hexecute
    have hraised : handleException dump (.app (.stdException what)) = .ok response := hexecute
    rw [outcome_raised hrequest (hread internalError (by simp [documents])) hraised hreply]
    exact .unprintable hprintable
  | ok text =>
    have hprintable : body.printable := by
      rw [← strict body, hdump]
      rfl
    rw [setJsonResponse, hdump] at hexecute
    cases hexecute
    obtain ⟨out, hout⟩ := indented.ok hprintable
    rw [outcome_shown hshows hrequest (hread body (by simp [documents]))
      (show 200 ≤ 200 ∧ 200 < 300 by decide) hdump hreply hout]
    exact .body hout

inductive Told (dump : Json → Except Bytes Bytes) : Operation → Bytes → ClientResult → HttpResponse → Prop
  | shown {op id s text} : Shows op id (some s) → dump (sessionToJson s none) = .ok text →
      Told dump op id (.result (.session (some s))) ⟨200, ascii "application/json", text⟩
  | removed {id} : Told dump .remove id (.result (.session none)) ⟨204, [], []⟩

theorem told_of_answers {routed : RoutedRequest} {result : ClientResult} {response : HttpResponse} {op : Operation}
    {id : Bytes} (hop : routed.endpoint.lifecycle = some (op, id)) (h : Answers parse dump routed (.ok result) (.ok response)) :
    Told dump op id result response := by
  cases h with
  | created hcreate =>
    rw [hcreate] at hop
    cases hop
  | shown hop' hshows hdump =>
    cases hop.symm.trans hop'
    exact .shown hshows hdump
  | removed hop' =>
    cases hop.symm.trans hop'
    exact .removed

theorem reports_session {s : Session} {text : Bytes} {status : Nat} (hleaves : command.Leaves world s)
    (strict : Json.StrictDump dump) (indented : Json.StrictDump world.dumpIndented)
    (hrequest : command.request world = .ok request) (hdump : dump (sessionToJson s none) = .ok text)
    (hstatus : 200 ≤ status ∧ status < 300) (hreply : world.respond request = some ⟨status, text⟩)
    (hread : ∀ body ∈ documents (.ok (.result (.session (some s)))), Understood dump world.parse body) :
    Reports world request command (.ok (.result (.session (some s)))) (command.outcome world) := by
  have hshows : ∀ id urls, command ≠ .session .delete id urls := by
    rintro id urls rfl
    exact hleaves
  have hprintable : (sessionToJson s none).printable := by
    rw [← strict, hdump]
    rfl
  obtain ⟨out, hout⟩ := indented.ok hprintable
  rw [outcome_shown hshows hrequest (hread _ (by simp [documents])) hstatus hdump hreply hout]
  exact .session hleaves hout

theorem reports_told {result : ClientResult} {response : HttpResponse} {op : Operation} {id : Bytes} (hne : op ≠ .remove)
    (h : Told dump op id result response) (hleaves : ∀ s, Shows op id (some s) → command.Leaves world s)
    (strict : Json.StrictDump dump) (indented : Json.StrictDump world.dumpIndented)
    (hrequest : command.request world = .ok request)
    (hreply : world.respond request = some ⟨response.status, response.body⟩)
    (hread : ∀ body ∈ documents (.ok result), Understood dump world.parse body) :
    Reports world request command (.ok result) (command.outcome world) := by
  cases h with
  | shown hshows hdump =>
    exact reports_session (hleaves _ hshows) strict indented hrequest hdump (show 200 ≤ 200 ∧ 200 < 300 by decide)
      hreply hread
  | removed => exact absurd rfl hne

theorem reports_called (utf8 : ∀ text json, parse text = .ok json → json.printable) (strict : Json.StrictDump dump)
    (indented : Json.StrictDump world.dumpIndented) {c : Config (httpSystem parse rm streams)}
    (h : Reach (fun _ _ _ => True) ⟨(empty, M.init), []⟩ c) {th : Thread (httpSystem parse rm streams)}
    (hth : th ∈ c.threads) {result : ClientResult} (hr : th.result = some (.ok result))
    (hendpoint : th.op.endpoint = command.endpoint) (hrequest : command.request world = .ok request)
    (hbody : th.op.request.body = request.body)
    (hasked : ∀ grc, world.readFile command.options.filePath = some grc →
      Understood world.dump parse (createBody command.options.name grc)) {response : HttpResponse}
    (hresponse : th.op.respond dump (.ok result) = some (.ok response))
    (hreply : world.respond request = some ⟨response.status, response.body⟩)
    (hread : ∀ body ∈ documents (.ok result), Understood dump world.parse body) :
    Reports world request command (.ok result) (command.outcome world) := by
  cases command with
  | create options =>
    obtain ⟨response', hrespond, hanswers⟩ := create_answers utf8 strict h hth hr hendpoint
    obtain rfl := Option.some.inj (hresponse.symm.trans hrespond)
    cases hanswers with
    | shown hop | removed hop =>
      rw [hendpoint] at hop
      cases hop
    | @created json name grc schedulerAlias now body _ hparse hdescribes hdump =>
      obtain ⟨server, content, hcontent, hpayload, -⟩ := Command.request_create hrequest
      have hcontent := readFile_eq_ok hcontent
      rw [hbody] at hparse
      obtain rfl := Except.ok.inj ((hasked content hcontent _ hpayload).2.symm.trans hparse)
      obtain ⟨rfl, rfl, rfl⟩ := describes_createBody hdescribes
      exact reports_session ⟨rfl, hcontent, rfl, rfl⟩ strict indented hrequest hdump
        (show 200 ≤ 201 ∧ 201 < 300 by decide) hreply hread
  | list urls => exact reports_read (.inl hendpoint) strict indented nofun hrequest hresponse hread hreply
  | session verb id urls =>
    have hlifecycle : ∀ op, th.op.endpoint.lifecycle = some (op, id) → Told dump op id result response := fun op hop => by
      obtain ⟨response', hrespond, hanswers⟩ := lifecycle_answers utf8 strict h hth hr hop
      obtain rfl := Option.some.inj (hresponse.symm.trans hrespond)
      exact told_of_answers hop hanswers
    cases verb with
    | get => exact reports_read (.inr ⟨id, hendpoint⟩) strict indented nofun hrequest hresponse hread hreply
    | delete =>
      cases hlifecycle .remove (by rw [hendpoint]; rfl) with
      | shown hshows => exact absurd rfl hshows.1
      | removed =>
        rw [outcome_ok hrequest hreply rfl]
        exact .deleted
    | start =>
      exact reports_told (by decide) (hlifecycle .start (by rw [hendpoint]; rfl))
        (fun s hs => ⟨hs.2.1.stored.id, hs.2.2.2⟩) strict indented hrequest hreply hread
    | stop =>
      exact reports_told (by decide) (hlifecycle .stop (by rw [hendpoint]; rfl))
        (fun s hs => ⟨hs.2.1.stored.id, hs.2.2.2⟩) strict indented hrequest hreply hread
    | restart =>
      exact reports_told (by decide) (hlifecycle .restart (by rw [hendpoint]; rfl))
        (fun s hs => ⟨hs.2.1.stored.id, hs.2.2.2⟩) strict indented hrequest hreply hread

/-- A command whose request the server has answered is told, and tells, how its own call came out or why none was made,
whatever the other clients of the server do. -/
theorem commands_reported (utf8 : ∀ text json, parse text = .ok json → json.printable) (strict : Json.StrictDump dump)
    (indented : Json.StrictDump world.dumpIndented) {c : Config (httpSystem parse rm streams)}
    (h : Reach (fun _ _ _ => True) ⟨(empty, M.init), []⟩ c) (haddressed : command.Addressed)
    (hrequest : command.request world = .ok request) {routed : RoutedRequest} (harrives : Arrives request routed.request)
    (hasked : ∀ grc, world.readFile command.options.filePath = some grc →
      Understood world.dump parse (createBody command.options.name grc)) {r : Except AppError ClientResult}
    {response : HttpResponse} (hserved : Served dump c routed r (some (.ok response)))
    (hreply : world.respond request = some ⟨response.status, response.body⟩)
    (hread : ∀ body ∈ documents r, Understood dump world.parse body) :
    routed.endpoint = command.endpoint ∧ Reports world request command r (command.outcome world) := by
  have hendpoint : routed.endpoint = command.endpoint := by
    have hrouted := routed.routed
    rw [harrives.method, harrives.path, routeRequest_command haddressed hrequest] at hrouted
    exact (Except.ok.inj (Option.some.inj hrouted)).symm
  have hfailed : ∀ {err}, execute dump (.error (.app err)) = .ok response → r = .error err →
      Reports world request command r (command.outcome world) := by
    rintro err hresponse rfl
    rw [outcome_raised hrequest (hread _ (by simp [documents, reported])) hresponse hreply]
    exact .failed
  refine ⟨hendpoint, ?_⟩
  generalize hanswer : some (Except.ok response) = answer at hserved
  cases hserved with
  | refused => exact hfailed (Option.some.inj hanswer).symm rfl
  | called hth hr hresponse =>
    subst hanswer
    cases r with
    | error err => exact hfailed (Option.some.inj hresponse) rfl
    | ok result =>
      exact reports_called utf8 strict indented h hth hr hendpoint hrequest harrives.body hasked hresponse hreply hread

end

def startedSession : Session :=
  { created 7 (ascii "fm") (ascii "blocks: []") none 1 with state := .running, updatedAt := 5 }

def printed (body : Json) : Bytes := (Json.dump (fun _ => []) body).toOption.getD []

def startedWorld : World where
  parse text :=
    if text = printed (sessionToJson startedSession none) then .ok (sessionToJson startedSession none)
    else if text = printed internalError then .ok internalError
    else .error ⟨true, []⟩
  dump := Json.dump fun _ => []
  dumpIndented := Json.dump fun _ => []
  readFile _ := none
  respond _ := some ⟨200, printed (sessionToJson startedSession none)⟩

def startCommand : Command := .session .start (ascii "sess_0000000000000007") []

def startRequest : CliRequest :=
  ⟨⟨ascii "http", ascii "127.0.0.1", 8080⟩, .post, ascii "/sessions/sess_0000000000000007/start", []⟩

theorem printed_of_ok {body : Json} {text : Bytes} (h : Json.dump (fun _ => []) body = .ok text) : printed body = text := by
  unfold printed
  rw [h]
  rfl

theorem understood_session : Understood (Json.dump fun _ => []) startedWorld.parse (sessionToJson startedSession none) := by
  intro text h
  obtain rfl := printed_of_ok h
  refine ⟨by decide +kernel, ?_⟩
  dsimp only [startedWorld]
  rw [if_pos rfl]

theorem understood_internalError : Understood (Json.dump fun _ => []) startedWorld.parse internalError := by
  intro text h
  obtain rfl := printed_of_ok h
  refine ⟨by decide +kernel, ?_⟩
  dsimp only [startedWorld]
  rw [if_neg (by decide +kernel), if_pos rfl]

def givenSession : Except AppError ClientResult → Option Session
  | .ok (.result (.session s)) => s
  | _ => none

theorem givenSession_eq_some {r : Except AppError ClientResult} {s : Session} (h : givenSession r = some s) :
    r = .ok (.result (.session (some s))) := by
  unfold givenSession at h
  split at h
  · rw [h]
  · cases h

theorem startedThread_session : startedThread.result = some (.ok (.result (.session (some startedSession)))) := by
  have h : Option.bind startedThread.result givenSession = some startedSession := by decide +kernel
  obtain ⟨r, hr, hsession⟩ := Option.bind_eq_some_iff.mp h
  rw [hr, givenSession_eq_some hsession]

theorem commands_reported_started :
    startedThread.op.endpoint = startCommand.endpoint ∧
      Reports startedWorld startRequest startCommand (.ok (.result (.session (some startedSession))))
        (startCommand.outcome startedWorld) := by
  have hdump : Json.dump (fun _ => []) (sessionToJson startedSession none) =
      .ok (printed (sessionToJson startedSession none)) := rfl
  have hop : startedThread.op.endpoint.lifecycle = some (.start, ascii "sess_0000000000000007") := by decide +kernel
  have harrives : Arrives startRequest startedThread.op.request := ⟨by decide +kernel, by decide +kernel, by decide +kernel⟩
  have haddressed : startCommand.Addressed := ⟨by decide, by decide +kernel⟩
  have hasked : ∀ grc, startedWorld.readFile startCommand.options.filePath = some grc →
      Understood startedWorld.dump parseFm (createBody startCommand.options.name grc) := nofun
  have hserved : Served (Json.dump fun _ => []) startedServer startedThread.op.toRoutedRequest
      (.ok (.result (.session (some startedSession))))
      (some (.ok ⟨200, ascii "application/json", printed (sessionToJson startedSession none)⟩)) :=
    .called (List.mem_of_getElem? (Option.some_get startedThread_isSome).symm) startedThread_session
      (respond_shown (by decide) hop hdump)
  refine commands_reported (fun _ _ => parseFm_printable) (Json.strictDump_dump _) (Json.strictDump_dump _)
    (.of_run .init (Option.some_get _).symm) haddressed rfl harrives hasked hserved rfl ?_
  intro body hbody
  rcases List.mem_pair.mp hbody with rfl | rfl
  · exact understood_session
  · exact understood_internalError

end Gr4ControlPlane.Cli
