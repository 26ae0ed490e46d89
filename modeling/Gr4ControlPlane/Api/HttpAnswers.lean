import Gr4ControlPlane.Api.SessionAnswers

open Gr4ControlPlane.Interleaving

namespace Gr4ControlPlane

def Endpoint.lifecycle : Endpoint → Option (Operation × Bytes)
  | .startSession id => some (.start, id)
  | .stopSession id => some (.stop, id)
  | .restartSession id => some (.restart, id)
  | .removeSession id => some (.remove, id)
  | _ => none

namespace SessionRoutes

open SessionService

section

variable {text text' : Bytes}

theorem Plain.append (h : Plain text) (h' : Plain text') : Plain (text ++ text') := fun byte hb =>
  (List.mem_append.mp hb).elim (h byte) (h' byte)

theorem Plain.validUtf8 (h : Plain text) : validUtf8 text = true := by
  have happend := validUtf8_append (fun byte hb => (h byte hb).2) []
  rwa [List.append_nil] at happend

theorem Plain.cString (h : Plain text) : cString text = text :=
  cString_eq_self fun hzero => absurd (h 0 hzero).1 (by decide)

theorem plain_decimalPadded (width n : Nat) : Plain (decimalPadded width n) := by
  induction width generalizing n with
  | zero => exact fun byte hb => by cases hb
  | succ width ih =>
    refine (ih (n / 10)).append fun byte hb => ?_
    obtain rfl := List.mem_singleton.mp hb
    rw [UInt8.lt_iff_toNat_lt, UInt8.le_iff_toNat_le, UInt8.toNat_ofNat']
    have hlt : n % 10 < 10 := Nat.mod_lt n (by decide)
    simp only [UInt8.toNat_ofNat]
    omega

theorem plain_hexPadded (width n : Nat) : Plain (hexPadded width n) := by
  induction width generalizing n with
  | zero => exact fun byte hb => by cases hb
  | succ width ih =>
    refine (ih (n / 16)).append fun byte hb => ?_
    obtain rfl := List.mem_singleton.mp hb
    unfold hexDigit
    rw [UInt8.lt_iff_toNat_lt, UInt8.le_iff_toNat_le, UInt8.toNat_ofNat']
    have hlt : n % 16 < 16 := Nat.mod_lt n (by decide)
    simp only [UInt8.toNat_ofNat]
    split <;> omega

theorem plain_formatTimestampUtc (timestamp : Timestamp) : Plain (formatTimestampUtc timestamp) := by
  have hascii : Plain (ascii "-") ∧ Plain (ascii "T") ∧ Plain (ascii ":") ∧ Plain (ascii "Z") := by
    unfold Plain
    decide +kernel
  obtain ⟨hdash, ht, hcolon, hz⟩ := hascii
  unfold formatTimestampUtc
  have hnum := plain_decimalPadded
  exact (((((((((((hnum _ _).append hdash).append (hnum _ _)).append hdash).append (hnum _ _)).append ht).append
    (hnum _ _)).append hcolon).append (hnum _ _)).append hcolon).append (hnum _ _)).append hz

theorem plain_generateSessionId (draw : UInt64) : Plain (generateSessionId draw) :=
  Plain.append (by unfold Plain; decide +kernel) (plain_hexPadded 16 _)

theorem plain_of_word (h : ∀ byte ∈ text, isWord byte = true) : Plain text := by
  intro byte hb
  have hword := h byte hb
  simp only [isWord, Bool.or_eq_true, Bool.and_eq_true, decide_eq_true_eq, beq_iff_eq, UInt8.le_iff_toNat_le,
    ← UInt8.toNat_inj] at hword
  rw [UInt8.lt_iff_toNat_lt, UInt8.le_iff_toNat_le]
  simp only [UInt8.toNat_ofNat] at hword ⊢
  omega

end

inductive Answers (parse : Bytes → Except JsonThrown Json) (dump : Json → Except Bytes Bytes) (call : RoutedRequest) :
    Except AppError ClientResult → Except Bytes HttpResponse → Prop
  | created {json name grc schedulerAlias now body} : call.endpoint = .createSession →
      parse call.request.body = .ok json → Describes json name grc schedulerAlias →
      dump (sessionToJson (created call.draw name grc schedulerAlias now) none) = .ok body →
      Answers parse dump call (.ok (.result (.session (some (created call.draw name grc schedulerAlias now)))))
        (.ok ⟨201, ascii "application/json", body⟩)
  | shown {op id s body} : call.endpoint.lifecycle = some (op, id) → Shows op id (some s) →
      dump (sessionToJson s none) = .ok body →
      Answers parse dump call (.ok (.result (.session (some s)))) (.ok ⟨200, ascii "application/json", body⟩)
  | removed {id} : call.endpoint.lifecycle = some (.remove, id) →
      Answers parse dump call (.ok (.result (.session none))) (.ok ⟨204, [], []⟩)
  | missing {op id body} : call.endpoint.lifecycle = some (op, id) →
      dump (errorBody (ascii "not_found") (ascii "session not found: " ++ id)) = .ok body →
      Answers parse dump call (.error (.notFound (ascii "session not found: " ++ id)))
        (.ok ⟨404, ascii "application/json", body⟩)
  | conflict {op id text body} : call.endpoint.lifecycle = some (op, id) →
      dump (errorBody (ascii "invalid_state") (text ++ id)) = .ok body →
      Answers parse dump call (.error (.invalidState (text ++ id))) (.ok ⟨409, ascii "application/json", body⟩)
  | failed {op id what} : call.endpoint.lifecycle = some (op, id) →
      Answers parse dump call (.error (.runtime what)) (setErrorResponse dump 500 (ascii "runtime_error") (cString what))
  | refused {message body} : call.endpoint = .createSession → Refuses parse call.request.body (.validation message) →
      dump (errorBody (ascii "validation_error") message) = .ok body →
      Answers parse dump call (.error (.validation message)) (.ok ⟨400, ascii "application/json", body⟩)
  | tooLarge {what body} : call.endpoint = .createSession → Refuses parse call.request.body (.stdException what) →
      dump internalError = .ok body →
      Answers parse dump call (.error (.stdException what)) (.ok ⟨500, ascii "application/json", body⟩)

section

variable {parse : Bytes → Except JsonThrown Json} {dump : Json → Except Bytes Bytes} {json item : Json} {key : Bytes}
  {s : Session} {id : Bytes} {op : Operation}

theorem printable_member (h : json.printable) (hmember : json.member key = some item) : item.printable := by
  cases json with
  | object members =>
    have hall : Json.printableMembers members = true := h
    have hlookup : members.lookup key = some item := hmember
    clear h hmember
    induction members with
    | nil => cases hlookup
    | cons entry members ih =>
      obtain ⟨key', value⟩ := entry
      simp only [Json.printableMembers, Bool.and_eq_true] at hall
      rw [List.lookup_cons] at hlookup
      split at hlookup
      · cases hlookup
        exact hall.1.2
      · exact ih hall.2 hlookup
  | null | boolean | integer | real | string | array => cases hmember

theorem OptionalText.valid {text : Bytes} (h : OptionalText json key text) (hp : json.printable) : validUtf8 text := by
  cases h with
  | missing | null => rfl
  | given hmember => exact printable_member hp hmember

theorem printable_sessionToJson (h : Sendable id s) (hid : Plain id) (herr : s.lastError = none) :
    (sessionToJson s none).printable := by
  have hkeys : validUtf8 (ascii "created_at") ∧ validUtf8 (ascii "id") ∧ validUtf8 (ascii "last_error") ∧
      validUtf8 (ascii "name") ∧ validUtf8 (ascii "scheduler_id") ∧ validUtf8 (ascii "state") ∧
      validUtf8 (ascii "updated_at") := by decide +kernel
  have hstate : validUtf8 s.state.toString := by cases s.state <;> decide +kernel
  have hscheduler := h.scheduler
  have htime := fun t => (plain_formatTimestampUtc t).validUtf8
  have hname := h.name
  unfold sessionToJson
  cases halias : s.schedulerAlias with
  | none =>
    simp [Json.printable, Json.printableMembers, hkeys, hstate, htime, hname, herr, h.stored.id, hid.validUtf8]
  | some schedulerId =>
    have hvalid := hscheduler schedulerId halias
    simp [Json.printable, Json.printableMembers, hkeys, hstate, htime, hname, herr, h.stored.id, hid.validUtf8, hvalid]

theorem plain_sessionGroup {method method' : HttpMethod} {path : Bytes} {pattern : Routing.Pattern UInt8}
    {endpoint : Bytes → Endpoint} {groups : List Bytes}
    (h : (sessionRoute method pattern endpoint).groups method' path = some groups) : Plain (matched groups 1) := by
  obtain ⟨-, hmatch⟩ := Option.ite_none_right_eq_some.mp h
  obtain ⟨rest, -, hrest⟩ := Routing.matches_literal.mp (Routing.regexMatch_sound hmatch)
  obtain ⟨group, _, groups', -, rfl, -, hword, -⟩ := Routing.matches_capture.mp hrest
  exact plain_of_word hword

theorem plain_of_routed {method : HttpMethod} {path : Bytes} {endpoint : Endpoint}
    (h : routeRequest method path = some (.ok endpoint)) (hop : endpoint.lifecycle = some (op, id)) : Plain id := by
  have hplain : ∀ {e : Endpoint}, e.lifecycle = none → (.ok e : Except Bytes Endpoint) = .ok endpoint → Plain id := by
    rintro e hnone ⟨⟩
    cases hnone.symm.trans hop
  have hdecoded : ∀ {encoded : Bytes} {f : Bytes → Endpoint}, (∀ id, (f id).lifecycle = none) →
      (do return f (← decodePercentEncoded encoded) : Except Bytes Endpoint) = .ok endpoint → Plain id := by
    intro encoded f hf heq
    obtain ⟨decoded, -, heq⟩ := bind_eq_ok heq
    exact hplain (hf decoded) heq
  have hsession : ∀ {groups : List Bytes} {m : HttpMethod} {pattern : Routing.Pattern UInt8} {f : Bytes → Endpoint} {o},
      (∀ x, (f x).lifecycle = some (o, x)) → (sessionRoute m pattern f).groups method path = some groups →
      (.ok (f (matched groups 1)) : Except Bytes Endpoint) = .ok endpoint → Plain id := by
    rintro groups m pattern f o hf hgroups ⟨⟩
    cases (hf _).symm.trans hop
    exact plain_sessionGroup hgroups
  have hroutes : ∀ route ∈ registerRoutes, ∀ groups, route.groups method path = some groups →
      route.endpoint groups = .ok endpoint → Plain id := by
    simp only [registerRoutes, List.forall_mem_cons]
    exact ⟨fun _ _ => hplain rfl, fun _ _ => hplain rfl, fun _ _ => hdecoded fun _ => rfl, fun _ _ => hplain rfl,
      fun _ _ => hdecoded fun _ => rfl, fun _ _ => hplain rfl, fun _ _ => hplain rfl, fun _ _ => hdecoded fun _ => rfl,
      fun _ _ => hdecoded fun _ => rfl, fun _ _ => hplain rfl, fun _ => hsession fun _ => rfl,
      fun _ => hsession fun _ => rfl, fun _ => hsession fun _ => rfl, fun _ => hsession fun _ => rfl,
      fun _ _ => hdecoded fun _ => rfl, fun _ _ => hdecoded fun _ => rfl,
      fun _ hmem => absurd hmem List.not_mem_nil⟩
  obtain ⟨route, hmem, hroute⟩ := List.exists_of_findSome?_eq_some h
  obtain ⟨groups, hgroups, hendpoint⟩ := Option.map_eq_some_iff.mp hroute
  exact hroutes route hmem groups hgroups hendpoint

end

section

variable {R : Interface} {M : RuntimeMachine R} {rm : RuntimeManager R} {streams : StreamMachine M}
  {parse : Bytes → Except JsonThrown Json} {dump : Json → Except Bytes Bytes} {call : HttpCall parse}

theorem HttpCall.creates (h : call.endpoint = .createSession) : ∃ json name grc schedulerAlias,
    parse call.request.body = .ok json ∧ Describes json name grc schedulerAlias ∧
      call.call = .call (.request (.create call.draw name grc schedulerAlias)) := by
  have haccepted := call.accepted
  rw [h] at haccepted
  simp only [clientRequest, Option.some.injEq] at haccepted
  cases hcreate : createRequest parse call.order call.draw call.request.body with
  | error err =>
    rw [hcreate] at haccepted
    cases haccepted
  | ok request =>
    rw [hcreate] at haccepted
    obtain ⟨json, name, grc, schedulerAlias, hparse, hdescribes, rfl⟩ := createRequest_eq_ok.mp hcreate
    exact ⟨json, name, grc, schedulerAlias, hparse, hdescribes, (Except.ok.inj haccepted).symm⟩

theorem HttpCall.lifecycle {op : Operation} {id : Bytes} (h : call.endpoint.lifecycle = some (op, id)) :
    call.call = .call (.request (.lifecycle op id)) := by
  have haccepted := call.accepted
  cases hendpoint : call.endpoint <;> rw [hendpoint] at h haccepted <;> cases h <;>
    exact (Except.ok.inj (Option.some.inj haccepted)).symm

include M in
theorem HttpCall.issues (utf8 : ∀ text json, parse text = .ok json → json.printable) (call : HttpCall parse) :
    Issues (serve rm call.call) := by
  have hrequest : ∀ {request : Request}, Issues (Call.lifecycle (handle rm request)) →
      Issues (serve rm (.call (.request request))) := fun h => (h.map _).bind fun _ => .pure _
  have haccepted := call.accepted
  have hcall : ∀ request, clientRequest parse call.order call.draw call.request.body call.endpoint = some (.ok request) →
      call.call = request := fun request h => Except.ok.inj (Option.some.inj (haccepted.symm.trans h))
  cases hendpoint : call.endpoint with
  | createSession =>
    obtain ⟨json, name, grc, schedulerAlias, hparse, hdescribes, hcall⟩ := HttpCall.creates hendpoint
    have hprintable := utf8 _ _ hparse
    have hscheduler : ∀ id ∈ schedulerAlias, validUtf8 id := by
      rintro id ⟨⟩
      exact hdescribes.scheduler.valid hprintable
    rw [hcall]
    refine hrequest (Program.All.inr ?_)
    rw [handle_create (M := M)]
    exact ⟨⟨hdescribes.nonempty, hdescribes.name.valid hprintable, hscheduler⟩, fun _ _ => trivial⟩
  | startSession id | stopSession id | restartSession id | removeSession id =>
    rw [HttpCall.lifecycle (by rw [hendpoint]; rfl)]
    exact hrequest (issues_lifecycle (M := M) _ id)
  | sessions =>
    rw [hcall (.getSessions) (by rw [hendpoint]; rfl)]
    have hlist : Issues (Call.list : Call R _) := ⟨trivial, fun _ _ => trivial⟩
    exact (hlist.bind fun sessions => (issues_streamPlansOf sessions).bind fun _ => .pure _).bind fun _ => .pure _
  | session id =>
    rw [hcall (.getSession id) (by rw [hendpoint]; rfl)]
    exact ((issues_get id).bind fun session => (issues_activeStreamPlan session.id).bind fun _ => .pure _).bind fun _ => .pure _
  | httpStream sessionId streamId =>
    rw [hcall (.call (.fetchHttpStream sessionId streamId)) (by rw [hendpoint]; rfl)]
    have hfetch : Issues (Call.fetchHttpStream sessionId streamId : Call R _) :=
      (issues_streamGate sessionId).bind fun session => issues_fetchAttempts session sessionId streamId _
    exact (hfetch.map _).bind fun _ => .pure _
  | websocketStream sessionId streamId =>
    rw [hcall (.call (.resolveWebsocketStream sessionId streamId)) (by rw [hendpoint]; rfl)]
    have hresolve : Issues (Call.resolveWebsocketStream sessionId streamId : Call R _) := by
      refine (issues_streamGate sessionId).bind fun session => ?_
      refine (issues_ask (.resolveWebsocketStream session streamId)).bind fun r => ?_
      cases r with
      | error thrown => exact .throw _
      | ok route => exact .pure _
    exact (hresolve.map _).bind fun _ => .pure _
  | healthz | blocks | block | schedulers | scheduler | updateSettings | settings =>
    rw [hendpoint] at haccepted
    cases haccepted

theorem exec_answers {cmd : (callInterface R).Cmd} {e : Env M.Env} {σ σ' : SessionService × M.State}
    {r : (callInterface R).Ans cmd} (hc : SessionRoutes.issues cmd) (ht : Texts σ.1)
    (h : (httpSystem parse rm streams).exec cmd e σ = some (r, σ')) : Texts σ'.1 ∧ answers cmd r := by
  match cmd, r, hc, h with
  | .inl (.inl _), _, _, h =>
    cases h
    exact ⟨ht, trivial⟩
  | .inl (.inr _), _, _, h =>
    obtain ⟨p, -, heq⟩ := Option.map_eq_some_iff.mp h
    cases heq
    exact ⟨ht, trivial⟩
  | .inr (.inl cmd), r, hc, h =>
    obtain ⟨p, hexec, heq⟩ := Option.map_eq_some_iff.mp h
    cases heq
    exact exec_sendable hc ht hexec
  | .inr (.inr _), _, _, h =>
    obtain ⟨p, -, heq⟩ := Option.map_eq_some_iff.mp h
    cases heq
    exact ⟨ht, trivial⟩

theorem serve_ends {request : Request} {P : Except AppError (Option Session) → Prop}
    (h : (handle rm request).run.Ends (fun c r => answers (.inr c) r) P) :
    (serve rm (.call (.request request))).run.Ends answers fun r =>
      ∃ r', P r' ∧ r = r'.map fun session => .result (.session session) := by
  rw [serve_request]
  exact Program.Ends.bind (Program.Ends.inr (h.mono fun r' hr' => ⟨r', hr', rfl⟩))

theorem respond_shown {session : Session} {body : Bytes} {op : Operation} {id : Bytes} (hne : op ≠ .remove)
    (hop : call.endpoint.lifecycle = some (op, id)) (hdump : dump (sessionToJson session none) = .ok body) :
    call.respond dump (.ok (.result (.session (some session)))) = some (.ok ⟨200, ascii "application/json", body⟩) := by
  have hreply : reply dump call.request call.endpoint (.result (.session (some session))) =
      some (raiseStd (setJsonResponse dump (sessionToJson session none) 200)) := by
    cases hendpoint : call.endpoint <;> rw [hendpoint] at hop <;> cases hop
    · exact absurd rfl hne
    · rfl
    · rfl
    · rfl
  simp [HttpCall.respond, hreply, setJsonResponse, hdump, raiseStd, execute, Except.mapError, bind, Except.bind, pure,
    Except.pure]

theorem respond_removed {id : Bytes} (hop : call.endpoint.lifecycle = some (.remove, id)) :
    call.respond dump (.ok (.result (.session none))) = some (.ok ⟨204, [], []⟩) := by
  have hreply : reply dump call.request call.endpoint (.result (.session none)) = some (.ok setNoContentResponse) := by
    cases hendpoint : call.endpoint <;> rw [hendpoint] at hop <;> cases hop
    rfl
  exact congrArg (Option.map (execute dump)) hreply

theorem execute_error (strict : Json.StrictDump dump) {err : AppError} {status : Nat} {code what : Bytes}
    (hdetails : currentErrorDetails (.app err) = ⟨status, code, cString what⟩) (hwhat : Plain what) :
    ∃ body, dump (errorBody code what) = .ok body ∧
      execute dump (.error (.app err)) = .ok ⟨status, ascii "application/json", body⟩ := by
  rw [hwhat.cString] at hdetails
  have hprintable : (errorBody code what).printable = true := by
    rw [printable_errorBody (by simpa [hdetails] using validUtf8_code (.app err))]
    exact hwhat.validUtf8
  obtain ⟨body, hdump⟩ := strict.ok hprintable
  refine ⟨body, hdump, ?_⟩
  simp [execute, handleException, hdetails, setErrorResponse, setJsonResponse, hdump, bind, Except.bind, pure, Except.pure]

theorem refused_answers (strict : Json.StrictDump dump) {routed : RoutedRequest} {err : AppError}
    (hcreate : routed.endpoint = .createSession) (h : Refuses parse routed.request.body err) :
    Answers parse dump routed (.error err) (execute dump (.error (.app err))) := by
  have hrefused : ∀ message, Plain message → Refuses parse routed.request.body (.validation message) →
      Answers parse dump routed (.error (.validation message)) (execute dump (.error (.app (.validation message)))) :=
    fun message hmessage hrefuses => by
      obtain ⟨body, hdump, hrespond⟩ := @execute_error dump strict (.validation message) _ _ _ rfl hmessage
      rw [hrespond]
      exact .refused hcreate hrefuses hdump
  cases h with
  | malformed | grc | name | schedulerId =>
    exact hrefused _ (by unfold Plain; decide +kernel) (by constructor <;> assumption)
  | @tooLarge what hparse =>
    have hplain : Plain (ascii "internal server error") := by unfold Plain; decide +kernel
    obtain ⟨body, hdump, hrespond⟩ := @execute_error dump strict (.stdException what) _ _ _ rfl hplain
    rw [hrespond]
    exact .tooLarge hcreate (.tooLarge hparse) hdump

theorem trace_answers (utf8 : ∀ text json, parse text = .ok json → json.printable) {c : Config (httpSystem parse rm streams)}
    (h : Reach (fun _ _ _ => True) ⟨(empty, M.init), []⟩ c) {th : Thread (httpSystem parse rm streams)}
    (hth : th ∈ c.threads) {r : Except AppError ClientResult} (hr : th.result = some r) :
    ((serve rm th.op.call).run).Follows th.trace (.ret r) ∧ ∀ e ∈ th.trace, answers e.1 e.2 := by
  have htexts : Texts (empty, M.init).1 := fun x s hs => by cases hs
  obtain ⟨-, hwithin⟩ := h.within htexts (fun call => call.issues (M := M) utf8) exec_answers
  exact ⟨Thread.prog_of_result hr ▸ h.follows th hth, (hwithin th hth).trace⟩

theorem create_answers (utf8 : ∀ text json, parse text = .ok json → json.printable) (strict : Json.StrictDump dump)
    {c : Config (httpSystem parse rm streams)} (h : Reach (fun _ _ _ => True) ⟨(empty, M.init), []⟩ c)
    {th : Thread (httpSystem parse rm streams)} (hth : th ∈ c.threads) {r : Except AppError ClientResult}
    (hr : th.result = some r) (hcreate : th.op.endpoint = .createSession) :
    ∃ response, th.op.respond dump r = some response ∧ Answers parse dump th.op.toRoutedRequest r response := by
  obtain ⟨hfollows, htrace⟩ := trace_answers utf8 h hth hr
  obtain ⟨json, name, grc, schedulerAlias, hparse, hdescribes, hcall⟩ := HttpCall.creates hcreate
  have hprintable := utf8 _ _ hparse
  rw [hcall] at hfollows
  have hends : (handle rm (.create th.op.draw name grc schedulerAlias)).run.Ends (fun c r => answers (.inr c) r)
      fun r => ∃ now, r = .ok (some (created th.op.draw name grc schedulerAlias now)) := by
    rw [handle_create (M := M)]
    rintro r ⟨now, rfl⟩
    exact ⟨now, rfl⟩
  obtain ⟨_, ⟨now, rfl⟩, rfl⟩ := (serve_ends hends).follows hfollows htrace
  have hsendable : Sendable (generateSessionId th.op.draw) (created th.op.draw name grc schedulerAlias now) := by
    refine ⟨⟨rfl, by simp [created]⟩, hdescribes.name.valid hprintable, ?_⟩
    rintro id ⟨⟩
    exact hdescribes.scheduler.valid hprintable
  obtain ⟨body, hdump⟩ := strict.ok (printable_sessionToJson hsendable (plain_generateSessionId _) rfl)
  refine ⟨_, ?_, .created hcreate hparse hdescribes hdump⟩
  simp [HttpCall.respond, hcreate, reply, setJsonResponse, hdump, raiseStd, execute, Except.mapError, Except.map, bind,
    Except.bind, pure, Except.pure]

theorem lifecycle_answers (utf8 : ∀ text json, parse text = .ok json → json.printable) (strict : Json.StrictDump dump)
    {c : Config (httpSystem parse rm streams)} (h : Reach (fun _ _ _ => True) ⟨(empty, M.init), []⟩ c)
    {th : Thread (httpSystem parse rm streams)} (hth : th ∈ c.threads) {r : Except AppError ClientResult}
    (hr : th.result = some r) {op : Operation} {id : Bytes} (hop : th.op.endpoint.lifecycle = some (op, id)) :
    ∃ response, th.op.respond dump r = some response ∧ Answers parse dump th.op.toRoutedRequest r response := by
  obtain ⟨hfollows, htrace⟩ := trace_answers utf8 h hth hr
  have hplain := plain_of_routed th.op.routed hop
  rw [HttpCall.lifecycle hop] at hfollows
  obtain ⟨r', hends, rfl⟩ := (serve_ends (lifecycle_ends (M := M) op id)).follows hfollows htrace
  rcases r' with err | (_ | session)
  · rcases hends with hdeclined | ⟨what, rfl⟩
    · cases hdeclined with
      | notFound =>
        have hmessage : Plain (ascii "session not found: " ++ id) :=
          Plain.append (by unfold Plain; decide +kernel) hplain
        obtain ⟨body, hdump, hrespond⟩ := @execute_error dump strict (.notFound _) _ _ _ rfl hmessage
        exact ⟨_, congrArg some hrespond, .missing hop hdump⟩
      | invalidState htext =>
        obtain ⟨body, hdump, hrespond⟩ := @execute_error dump strict (.invalidState _) _ _ _ rfl (htext.append hplain)
        exact ⟨_, congrArg some hrespond, .conflict hop hdump⟩
    · exact ⟨_, rfl, .failed hop⟩
  · obtain rfl : op = .remove := hends
    exact ⟨_, respond_removed hop, .removed hop⟩
  · obtain ⟨hne, hsendable, herr, hstate⟩ := hends
    obtain ⟨body, hdump⟩ := strict.ok (printable_sessionToJson hsendable hplain herr)
    exact ⟨_, respond_shown hne hop hdump, .shown hop ⟨hne, hsendable, herr, hstate⟩ hdump⟩

/-- Whatever else is under way, a request that is over has been answered as its call came out, or as the check says that
has kept it from making one. -/
theorem http_answers (utf8 : ∀ text json, parse text = .ok json → json.printable) (strict : Json.StrictDump dump)
    {c : Config (httpSystem parse rm streams)} (h : Reach (fun _ _ _ => True) ⟨(empty, M.init), []⟩ c)
    {routed : RoutedRequest} {r : Except AppError ClientResult} {answer : Option (Except Bytes HttpResponse)}
    (hserved : Served dump c routed r answer)
    (hop : routed.endpoint = .createSession ∨ routed.endpoint.lifecycle.isSome) :
    ∃ response, answer = some response ∧ Answers parse dump routed r response := by
  cases hserved with
  | called hth hr hrespond =>
    subst hrespond
    rcases hop with hcreate | hlifecycle
    · exact create_answers utf8 strict h hth hr hcreate
    · obtain ⟨⟨op, id⟩, hop⟩ := Option.isSome_iff_exists.mp hlifecycle
      exact lifecycle_answers utf8 strict h hth hr hop
  | refused hrefused =>
    obtain ⟨hcreate, hrefuses⟩ := refuses_of_clientRequest hrefused
    exact ⟨_, rfl, refused_answers strict hcreate hrefuses⟩

end

def fmBody : Bytes := ascii "\x7b\"name\":\"fm\",\"grc\":\"blocks: []\"\x7d"

def fmJson : Json := .object [(ascii "grc", .string (ascii "blocks: []")), (ascii "name", .string (ascii "fm"))]

def parseFm (text : Bytes) : Except JsonThrown Json := if text = fmBody then .ok fmJson else .error .parseError

def post (path body : Bytes) : HttpRequest := ⟨.post, path, [], [], body⟩

def createCall : HttpCall parseFm where
  request := post (ascii "/sessions") fmBody
  order := [.schedulerId, .grc, .name]
  draw := 7
  endpoint := .createSession
  routed := by decide +kernel
  call := .call (.request (.create 7 (ascii "fm") (ascii "blocks: []") none))
  accepted := by decide +kernel

def startCall : HttpCall parseFm where
  request := post (ascii "/sessions/sess_0000000000000007/start") []
  order := []
  draw := 0
  endpoint := .startSession (ascii "sess_0000000000000007")
  routed := by decide +kernel
  call := .call (.request (.lifecycle .start (ascii "sess_0000000000000007")))
  accepted := rfl

def startedRun : List (Label (httpSystem parseFm outcomeRuntime graphStreams)) :=
  [.invoke createCall ⟨1, .ok ()⟩, .invoke startCall ⟨2, .ok ()⟩, .run 1 ⟨3, .ok ()⟩, .run 1 ⟨4, .ok ()⟩, .run 1 ⟨5, .ok ()⟩]

def startedServer : Config (httpSystem parseFm outcomeRuntime graphStreams) :=
  (Config.run ⟨(empty, []), []⟩ startedRun).get (by decide +kernel)

theorem startedThread_isSome : startedServer.threads[1]?.isSome := by decide +kernel

def startedThread := startedServer.threads[1]?.get startedThread_isSome

theorem startedThread_result : startedThread.result.isSome := by decide +kernel

theorem parseFm_printable {text : Bytes} {json : Json} (h : parseFm text = .ok json) : json.printable := by
  unfold parseFm at h
  split at h
  · obtain rfl : fmJson = json := by simpa using h
    decide +kernel
  · cases h

theorem startedThread_served : Served (Json.dump fun _ => []) startedServer startedThread.op.toRoutedRequest
    (startedThread.result.get startedThread_result)
    (startedThread.op.respond (Json.dump fun _ => []) (startedThread.result.get startedThread_result)) :=
  .called (List.mem_of_getElem? (Option.some_get startedThread_isSome).symm) (Option.some_get startedThread_result).symm rfl

theorem http_answers_started : ∃ response,
    startedThread.op.respond (Json.dump fun _ => []) (startedThread.result.get startedThread_result) = some response ∧
    Answers parseFm (Json.dump fun _ => []) startedThread.op.toRoutedRequest (startedThread.result.get startedThread_result)
      response :=
  http_answers (fun _ _ => parseFm_printable) (Json.strictDump_dump _) (.of_run .init (Option.some_get _).symm)
    startedThread_served (.inr (by decide +kernel))

end SessionRoutes

end Gr4ControlPlane
