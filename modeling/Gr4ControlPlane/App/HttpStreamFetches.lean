import Gr4ControlPlane.App.SessionIsolation
import Gr4ControlPlane.Interleaving.Alone
import Gr4ControlPlane.Runtime.Gr4RuntimeManager
import Gr4ControlPlane.Text.Occurrences

/-! Which failed stream fetches are made again. -/

open Gr4ControlPlane.Interleaving

namespace Gr4ControlPlane

structure EndpointResponse where
  status : Int
  body : Bytes
  contentType : Bytes

def EndpointResponse.toHttpStreamResponse (response : EndpointResponse) : HttpStreamResponse where
  status := response.status
  body := response.body
  contentType :=
    if response.contentType.isEmpty then ascii "application/octet-stream" else response.contentType

/-- `fetch_http_stream`; `get` is the request to the endpoint, which may be out of reach. -/
def Gr4State.fetchHttpStream (σ : Gr4State) (get : InternalStreamBinding → Option EndpointResponse)
    (session : Session) (streamId : Bytes) : Except Thrown HttpStreamResponse := do
  let binding ← σ.findHttpStream session streamId
  match get binding.internal with
  | some response => return response.toHttpStreamResponse
  | none =>
    .error (Gr4RuntimeManager.runtimeError session (ascii "stream fetch")
      (ascii "failed to reach internal HTTP stream endpoint"))

/-- How `Gr4RuntimeManager::fetch_http_stream` ends. -/
inductive FetchOutcome
  | responded (response : HttpStreamResponse)
  | notRunning
  | streamNotFound
  | unreachable
  deriving DecidableEq

def FetchOutcome.answer (session : Session) (streamId : Bytes) : FetchOutcome → Except Thrown HttpStreamResponse
  | .responded response => .ok response
  | .notRunning =>
    .error (Gr4RuntimeManager.runtimeError session (ascii "stream fetch") (ascii "session runtime is not running"))
  | .streamNotFound =>
    .error (Gr4RuntimeManager.runtimeError session (ascii "stream fetch")
      (ascii "stream not found in active runtime resources: " ++ streamId))
  | .unreachable =>
    .error (Gr4RuntimeManager.runtimeError session (ascii "stream fetch")
      (ascii "failed to reach internal HTTP stream endpoint"))

theorem Gr4State.fetchHttpStream_outcome (σ : Gr4State) (get : InternalStreamBinding → Option EndpointResponse)
    (session : Session) (streamId : Bytes) :
    ∃ outcome : FetchOutcome, σ.fetchHttpStream get session streamId = outcome.answer session streamId := by
  unfold Gr4State.fetchHttpStream Gr4State.findHttpStream Gr4State.findStream
  cases σ.liveResources session with
  | none => exact ⟨.notRunning, rfl⟩
  | some resources =>
    dsimp only
    cases resources.streamBindings.find? fun binding =>
        binding.plan.streamId = streamId ∧ isWebsocket binding.plan.transport = false with
    | none => exact ⟨.streamNotFound, rfl⟩
    | some binding =>
      dsimp only [bind, Except.bind]
      cases get binding.internal with
      | none => exact ⟨.unreachable, rfl⟩
      | some response => exact ⟨.responded response.toHttpStreamResponse, rfl⟩

def fetchRuntime : HistoryRuntime FetchOutcome where
  outcome _ _ _ _ := some (.ok ())
  answer
    | _, .activeStreamPlan _, _ => some (.ok none)
    | _, .fetchHttpStream session streamId, outcome => some (outcome.answer session streamId)
    | _, .resolveWebsocketStream .., _ => some (.error .unknown)

def FetchOutcome.Transient (session : Session) (streamId : Bytes) (outcome : FetchOutcome) : Prop :=
  ∃ what, outcome.answer session streamId = .error (.exception what) ∧
    SessionService.Call.isTransientHttpStreamConnectError what = true

def connectMarker : Bytes := ascii "failed to reach internal HTTP stream endpoint"

/-- A failure of another kind, in which an id makes it look like an endpoint out of reach. -/
def FetchOutcome.Misread (id streamId : Bytes) : FetchOutcome → Prop
  | .notRunning => connectMarker <:+: cString id
  | .streamNotFound => connectMarker <:+: cString id ∨ 0 ∉ id ∧ connectMarker <:+: cString streamId
  | .responded _ | .unreachable => False

/-- The message breaks off in the session id, before it says that the endpoint is out of reach. -/
def CutOff (id : Bytes) : Prop := 0 ∈ id ∧ ¬ connectMarker <:+: cString id

section

variable {session : Session} {detail rest : Bytes}

theorem runtimeError_text : ascii "session " ++ session.id ++ ascii " " ++ ascii "stream fetch" ++ ascii " failed: " ++
      (detail ++ rest) =
    ascii "session " ++ (session.id ++ (ascii " stream fetch failed: " ++ detail ++ rest)) := by
  have hfixed : ascii " stream fetch failed: " = ascii " " ++ ascii "stream fetch" ++ ascii " failed: " := by decide
  rw [hfixed]
  simp only [List.append_assoc]

theorem connectMarker_occurs (hlength : connectMarker.length ≤ (ascii " stream fetch failed: " ++ detail).length)
    (hends : ¬ Text.Ends connectMarker (ascii " stream fetch failed: " ++ detail))
    (hwhole : 0 ∉ ascii " stream fetch failed: " ++ detail) :
    connectMarker <:+: cString (ascii "session " ++ session.id ++ ascii " " ++ ascii "stream fetch" ++
        ascii " failed: " ++ (detail ++ rest)) ↔
      connectMarker <:+: cString session.id ∨
        0 ∉ session.id ∧ connectMarker <:+: ascii " stream fetch failed: " ++ detail ++ cString rest := by
  have hhead : ¬ connectMarker <:+: ascii "session " := by decide
  rw [runtimeError_text, cString_append (by decide)]
  by_cases hid : 0 ∈ session.id
  · rw [cString_append_of_mem hid, Text.infix_append_of_not_begins (by decide), or_iff_right hhead]
    simp [hid]
  · rw [cString_append hid, cString_append hwhole, Text.infix_append_of_not_begins (by decide), or_iff_right hhead,
      Text.infix_append_of_not_ends hlength hends, cString_eq_self hid]
    simp [hid]

end

theorem FetchOutcome.transient_iff {session : Session} {streamId : Bytes} {outcome : FetchOutcome} :
    outcome.Transient session streamId ↔
      outcome = .unreachable ∧ ¬ CutOff session.id ∨ outcome.Misread session.id streamId := by
  have hmarker : ∀ {what : Bytes}, outcome.answer session streamId = .error (.exception what) →
      (outcome.Transient session streamId ↔ connectMarker <:+: cString what) := by
    intro what hanswer
    unfold FetchOutcome.Transient SessionService.Call.isTransientHttpStreamConnectError
    simp [hanswer, connectMarker]
  cases outcome with
  | responded response =>
    refine iff_of_false ?_ (by simp [Misread])
    rintro ⟨what, hanswer, -⟩
    cases hanswer
  | notRunning =>
    have htext := @connectMarker_occurs session (ascii "session runtime is not running") [] (by decide) (by decide)
      (by decide)
    have hfixed : ¬ connectMarker <:+: ascii " stream fetch failed: " ++ ascii "session runtime is not running" ++
        cString [] := by decide
    rw [List.append_nil] at htext
    rw [hmarker rfl, htext]
    simp only [hfixed, and_false, or_false, Misread, reduceCtorEq, false_and, false_or]
  | streamNotFound =>
    have htext := @connectMarker_occurs session (ascii "stream not found in active runtime resources: ") streamId
      (by decide) (by decide) (by decide)
    have hfixed : ¬ connectMarker <:+:
        ascii " stream fetch failed: " ++ ascii "stream not found in active runtime resources: " := by
      decide +kernel
    rw [hmarker rfl, htext, Text.infix_append_of_not_begins (by decide +kernel), or_iff_right hfixed]
    simp [Misread]
  | unreachable =>
    have htext := @connectMarker_occurs session (ascii "failed to reach internal HTTP stream endpoint") [] (by decide)
      (by decide) (by decide)
    have hfixed : connectMarker <:+: ascii " stream fetch failed: " ++
        ascii "failed to reach internal HTTP stream endpoint" ++ cString [] := by decide
    rw [List.append_nil] at htext
    rw [hmarker rfl, htext]
    simp only [hfixed, and_true, CutOff, Misread, true_and, or_false, not_and_or, not_not]
    exact or_comm

theorem FetchOutcome.not_misread_of_cutOff {id streamId : Bytes} {outcome : FetchOutcome} (h : CutOff id) :
    ¬ outcome.Misread id streamId := by
  cases outcome with
  | responded | unreachable => exact not_false
  | notRunning => exact h.2
  | streamNotFound =>
    rintro (hmarker | ⟨hwhole, -⟩)
    · exact h.2 hmarker
    · exact hwhole h.1

theorem FetchOutcome.not_transient_of_cutOff {session : Session} {streamId : Bytes} {outcome : FetchOutcome}
    (h : CutOff session.id) : ¬ outcome.Transient session streamId := by
  rw [transient_iff, not_or]
  exact ⟨fun hwhole => hwhole.2 h, not_misread_of_cutOff h⟩

namespace SessionService

def fetchResult (id : Bytes) (answer : Except Thrown HttpStreamResponse) : Except AppError HttpStreamResponse :=
  answer.mapError fun thrown => .runtime (runtimeMessage (ascii "stream fetch") id thrown)

variable {service : SessionService} {session : Session} {id streamId : Bytes} {outcome : FetchOutcome}

theorem fetchAttempts_succ {R : Interface} (attempts : Nat) :
    (Call.fetchAttempts session id streamId (attempts + 1) : Call R HttpStreamResponse).run =
      .step (.inl (.inr (.fetchHttpStream session streamId))) fun answer =>
        match answer with
        | .error (.exception what) =>
          if attempts = 0 ∨ ¬ Call.isTransientHttpStreamConnectError what then .ret (fetchResult id answer)
          else (Call.fetchAttempts session id streamId attempts).run
        | _ => .ret (fetchResult id answer) := by
  rw [Call.fetchAttempts]
  refine congrArg (Program.step _) (funext fun answer => ?_)
  match answer with
  | .ok response => rfl
  | .error .unknown => rfl
  | .error (.exception what) =>
    change ExceptT.run (if attempts = 0 ∨ ¬ Call.isTransientHttpStreamConnectError what then
      throw (.runtime (runtimeMessage (ascii "stream fetch") id (.exception what)))
      else Call.fetchAttempts session id streamId attempts) = _
    dsimp only
    split
    · rfl
    · rfl

section run

variable {attempts : Nat} (envs : Nat → Env FetchOutcome) (received : List ReceivedCall)
  (t : Trace (callInterface outcomeInterface))

theorem fetchAttempts_again (hattempts : attempts ≠ 0) (h : (envs 0).runtime.Transient session streamId) :
    (Call.fetchAttempts session id streamId (attempts + 1)).run.alone (HistorySystem fetchRuntime) envs
        (service, received) t =
      (Call.fetchAttempts session id streamId attempts).run.alone (HistorySystem fetchRuntime) (fun n => envs (n + 1))
        (service, received ++ [.stream (.fetchHttpStream session streamId)])
        (⟨.inl (.inr (.fetchHttpStream session streamId)), (envs 0).runtime.answer session streamId⟩ :: t) := by
  obtain ⟨what, hanswer, htransient⟩ := h
  rw [fetchAttempts_succ]
  refine (Program.alone_of_exec rfl).trans ?_
  rw [hanswer]
  dsimp only
  rw [if_neg (by simp [hattempts, htransient])]

theorem fetchAttempts_last (h : ¬ (attempts ≠ 0 ∧ (envs 0).runtime.Transient session streamId)) :
    (Call.fetchAttempts session id streamId (attempts + 1)).run.alone (HistorySystem fetchRuntime) envs
        (service, received) t =
      some (fetchResult id ((envs 0).runtime.answer session streamId),
        (service, received ++ [.stream (.fetchHttpStream session streamId)]),
        ⟨.inl (.inr (.fetchHttpStream session streamId)), (envs 0).runtime.answer session streamId⟩ :: t) := by
  rw [fetchAttempts_succ]
  refine (Program.alone_of_exec rfl).trans ?_
  cases hanswer : (envs 0).runtime.answer session streamId with
  | ok response => rfl
  | error thrown =>
    cases thrown with
    | unknown => rfl
    | exception what =>
      dsimp only
      rw [if_pos]
      · rfl
      · by_contra hagain
        rw [not_or, not_not] at hagain
        exact h ⟨hagain.1, what, hanswer, hagain.2⟩

end run

theorem fetchAttempts_alone {attempts : Nat} (hpos : 0 < attempts) (envs : Nat → Env FetchOutcome)
    (received : List ReceivedCall) (t : Trace (callInterface outcomeInterface)) :
    ∃ last < attempts, ∃ t', (∀ i < last, (envs i).runtime.Transient session streamId) ∧
      (last + 1 = attempts ∨ ¬ (envs last).runtime.Transient session streamId) ∧
      (Call.fetchAttempts session id streamId attempts).run.alone (HistorySystem fetchRuntime) envs
          (service, received) t =
        some (fetchResult id ((envs last).runtime.answer session streamId), (service, received ++
          List.replicate (last + 1) (.stream (.fetchHttpStream session streamId))), t') := by
  induction attempts generalizing envs received t with
  | zero => cases hpos
  | succ attempts ih =>
    by_cases hagain : attempts ≠ 0 ∧ (envs 0).runtime.Transient session streamId
    · rw [fetchAttempts_again envs received t hagain.1 hagain.2]
      obtain ⟨last, hlast, t', hbefore, hend, hrest⟩ := ih (Nat.pos_of_ne_zero hagain.1) (fun n => envs (n + 1)) _ _
      refine ⟨last + 1, by omega, t', ?_, hend.imp_left (congrArg (· + 1)), ?_⟩
      · intro i hi
        cases i with
        | zero => exact hagain.2
        | succ i => exact hbefore i (by omega)
      · rw [hrest, List.append_assoc, List.replicate_succ (n := last + 1)]
        rfl
    · rw [fetchAttempts_last envs received t hagain]
      refine ⟨0, Nat.succ_pos attempts, _, nofun, ?_, rfl⟩
      rw [not_and_or, not_not] at hagain
      exact hagain.imp_left fun h => by rw [h]

/-- What is promised of the calls that a fetch makes, and of its result. -/
structure RetriesConnectFailures (outcomes : Nat → FetchOutcome) (calls : List ReceivedCall)
    (result : Except AppError HttpStreamResponse) : Prop where
  retried : ∀ i, i + 1 < calls.length → outcomes i = .unreachable
  single : outcomes 0 = .notRunning ∨ outcomes 0 = .streamNotFound → calls.length = 1
  bounded : calls.length ≤ 20
  responded : ∀ i < 20, ∀ response, (∀ j < i, outcomes j = .unreachable) → outcomes i = .responded response →
    result = .ok response

theorem fetchHttpStream_alone {envs : Nat → Env FetchOutcome} (hserved : service.streamGate id = .ok session) :
    (Call.fetchHttpStream id streamId).run.alone (HistorySystem fetchRuntime) envs (service, []) [] =
      (Call.fetchAttempts session id streamId 20).run.alone (HistorySystem fetchRuntime) (fun n => envs (n + 1))
        (service, []) [⟨.inl (.inl (.streamGate id)), .ok session⟩] := by
  refine (Program.alone_of_exec rfl).trans ?_
  have hread : service.read (.streamGate id) = .ok session := hserved
  rw [hread]
  rfl

def fetchOutcomes (envs : Nat → Env FetchOutcome) (i : Nat) : FetchOutcome := (envs (i + 1)).runtime

section retries

variable {outcomes : Nat → FetchOutcome} {last : Nat}

theorem unreachable_of_not_misread
    (hread : ∀ i < 19, (∀ j < i, outcomes j = .unreachable) → ¬ (outcomes i).Misread id streamId) (hlast : last < 20)
    (hbefore : ∀ i < last, outcomes i = .unreachable ∨ (outcomes i).Misread id streamId) :
    ∀ i < last, outcomes i = .unreachable := by
  intro i
  induction i using Nat.strong_induction_on with
  | _ i ih =>
    intro hi
    exact (hbefore i hi).resolve_right (hread i (by omega) fun j hj => ih j hj (by omega))

theorem retriesConnectFailures_of_unreachable {call : ReceivedCall} (hlast : last < 20)
    (hbefore : ∀ i < last, outcomes i = .unreachable) (hend : last + 1 = 20 ∨ outcomes last ≠ .unreachable) :
    RetriesConnectFailures outcomes (List.replicate (last + 1) call)
      (fetchResult id ((outcomes last).answer session streamId)) where
  retried i hi := by
    rw [List.length_replicate] at hi
    exact hbefore i (by omega)
  single h := by
    rw [List.length_replicate]
    cases last with
    | zero => rfl
    | succ last =>
      rw [hbefore 0 (Nat.succ_pos last)] at h
      simp at h
  bounded := by
    rw [List.length_replicate]
    omega
  responded i hi response hunreachable hresponse := by
    obtain rfl : i = last := by
      rcases Nat.lt_trichotomy i last with h | h | h
      · rw [hbefore i h] at hresponse
        cases hresponse
      · exact h
      · have hunreached := hunreachable last h
        have := hend.resolve_right fun hne => hne hunreached
        omega
    rw [hresponse]
    rfl

theorem retriesConnectFailures_of_first {call : ReceivedCall} (hlast : last = 0)
    (htold : ∀ i < 20, ∀ response, (∀ j < i, outcomes j = .unreachable) → outcomes i = .responded response → i = 0) :
    RetriesConnectFailures outcomes (List.replicate (last + 1) call)
      (fetchResult id ((outcomes last).answer session streamId)) where
  retried i hi := by
    rw [List.length_replicate] at hi
    omega
  single _ := by simp [hlast]
  bounded := by simp [hlast]
  responded i hi response hunreachable hresponse := by
    have hfirst := htold i hi response hunreachable hresponse
    rw [hlast, ← hfirst, hresponse]
    rfl

end retries

/-- A call that reports connect failures as such, and no other failure as one. -/
structure TellsConnectFailures (id streamId : Bytes) (outcomes : Nat → FetchOutcome) : Prop where
  apart : ∀ i < 19, (∀ j < i, outcomes j = .unreachable) → ¬ (outcomes i).Misread id streamId
  told : CutOff id → ∀ i < 20, ∀ response, (∀ j < i, outcomes j = .unreachable) → outcomes i = .responded response →
    i = 0

section

variable {outcomes : Nat → FetchOutcome} {last : Nat} {call : ReceivedCall} {result : Except AppError HttpStreamResponse}

theorem tells_of_retries (hlast : last < 20) (hid : session.id = id)
    (hend : last + 1 = 20 ∨ ¬ (outcomes last).Transient session streamId)
    (hbefore : ∀ i < last, (outcomes i).Transient session streamId)
    (hkept : RetriesConnectFailures outcomes (List.replicate (last + 1) call)
      (fetchResult id ((outcomes last).answer session streamId))) : TellsConnectFailures id streamId outcomes where
  apart i hi hunreachable hmisread := by
    have htransient : (outcomes i).Transient session streamId :=
      FetchOutcome.transient_iff.mpr (.inr (hid ▸ hmisread))
    have hlater : i < last := by
      rcases Nat.lt_trichotomy i last with h | rfl | h
      · exact h
      · have := hend.resolve_right fun hnot => hnot htransient
        omega
      · have hlater := hunreachable last h
        have hcut : CutOff id := by
          by_contra hwhole
          have := hend.resolve_right fun hnot => hnot (FetchOutcome.transient_iff.mpr (.inl ⟨hlater, hid ▸ hwhole⟩))
          omega
        exact absurd hmisread (FetchOutcome.not_misread_of_cutOff hcut)
    have hretried := hkept.retried i (by simpa using hlater)
    rw [hretried] at hmisread
    exact hmisread
  told hcut i hi response hunreachable hresponse := by
    have hnever : ∀ j, ¬ (outcomes j).Transient session streamId :=
      fun j => FetchOutcome.not_transient_of_cutOff (hid ▸ hcut)
    have hfirst : last = 0 := by
      by_contra hpos
      exact hnever 0 (hbefore 0 (Nat.pos_of_ne_zero hpos))
    have hanswer := hkept.responded i hi response hunreachable hresponse
    by_contra hpos
    rw [hfirst, hunreachable 0 (Nat.pos_of_ne_zero hpos)] at hanswer
    cases hanswer

theorem retries_of_tells (hlast : last < 20) (hid : session.id = id)
    (hend : last + 1 = 20 ∨ ¬ (outcomes last).Transient session streamId)
    (hbefore : ∀ i < last, (outcomes i).Transient session streamId)
    (htells : TellsConnectFailures id streamId outcomes) :
    RetriesConnectFailures outcomes (List.replicate (last + 1) call)
      (fetchResult id ((outcomes last).answer session streamId)) := by
  by_cases hcut : CutOff id
  · have hfirst : last = 0 := by
      by_contra hpos
      exact FetchOutcome.not_transient_of_cutOff (hid ▸ hcut) (hbefore 0 (Nat.pos_of_ne_zero hpos))
    exact retriesConnectFailures_of_first hfirst (htells.told hcut)
  · have hread : ∀ i, (outcomes i).Transient session streamId ↔
        outcomes i = .unreachable ∨ (outcomes i).Misread id streamId := by
      intro i
      rw [FetchOutcome.transient_iff, hid, and_iff_left hcut]
    simp only [hread] at hbefore hend
    exact retriesConnectFailures_of_unreachable hlast (unreachable_of_not_misread htells.apart hlast hbefore)
      (hend.imp_right fun h hlast => h (.inl hlast))

end

/-- A fetch retries connect failures only, exactly if the failures it may retry are told apart by their texts. -/
theorem only_connect_failures_retried {envs : Nat → Env FetchOutcome} (hserved : service.streamGate id = .ok session) :
    (∃ result calls t, (Call.fetchHttpStream id streamId).run.alone (HistorySystem fetchRuntime) envs (service, []) [] =
        some (result, (service, calls), t) ∧ RetriesConnectFailures (fetchOutcomes envs) calls result) ↔
      TellsConnectFailures id streamId (fetchOutcomes envs) := by
  have hid : session.id = id := InMemorySessionRepository.id_of_get (streamGate_eq_ok.mp hserved).1
  obtain ⟨last, hlast, t', hbefore, hend, hrun⟩ := @fetchAttempts_alone service session id streamId 20 (by decide)
    (fun n => envs (n + 1)) [] [⟨.inl (.inl (.streamGate id)), .ok session⟩]
  rw [fetchHttpStream_alone hserved, hrun]
  constructor
  · rintro ⟨result, calls, t, heq, hkept⟩
    cases heq
    exact tells_of_retries hlast hid hend hbefore hkept
  · intro htells
    exact ⟨_, _, _, rfl, retries_of_tells hlast hid hend hbefore htells⟩

def servedSession : Session where
  id := ascii "sess_1"
  name := ascii "rx"
  grcContent := []
  schedulerAlias := none
  state := .running
  lastError := none
  createdAt := 0
  updatedAt := 0

def servedService : SessionService := empty.putSession servedSession .running

theorem servedService_gate : servedService.streamGate (ascii "sess_1") = .ok servedSession :=
  streamGate_eq_ok.mpr ⟨by decide, rfl, by decide⟩

def failingFetches (n : Nat) : Env FetchOutcome where
  now := 0
  runtime := if n < 3 then .unreachable else .streamNotFound

theorem only_connect_failures_retried_twice :
    servedService.streamGate (ascii "sess_1") = .ok servedSession ∧
      ∃ result calls t, (Call.fetchHttpStream (ascii "sess_1") (ascii "iq")).run.alone (HistorySystem fetchRuntime)
          failingFetches (servedService, []) [] = some (result, (servedService, calls), t) ∧
        RetriesConnectFailures (fetchOutcomes failingFetches) calls result := by
  refine ⟨servedService_gate, (only_connect_failures_retried servedService_gate).mpr ⟨fun i hi _ hmisread => ?_, ?_⟩⟩
  · have hids : ¬ (connectMarker <:+: cString (ascii "sess_1") ∨
        0 ∉ ascii "sess_1" ∧ connectMarker <:+: cString (ascii "iq")) := by decide
    unfold fetchOutcomes failingFetches at hmisread
    dsimp only at hmisread
    split at hmisread
    · exact hmisread
    · exact hids hmisread
  · intro hcut
    exact absurd hcut.1 (by decide)

theorem misread_failure_retried :
    servedService.streamGate (ascii "sess_1") = .ok servedSession ∧
      ¬ ∃ result calls t, (Call.fetchHttpStream (ascii "sess_1") connectMarker).run.alone (HistorySystem fetchRuntime)
          (fun _ => ⟨0, .streamNotFound⟩) (servedService, []) [] = some (result, (servedService, calls), t) ∧
        RetriesConnectFailures (fetchOutcomes fun _ => ⟨0, .streamNotFound⟩) calls result := by
  refine ⟨servedService_gate, ?_⟩
  rintro ⟨result, calls, t, hrun, hkept⟩
  have hcalls : ((Call.fetchHttpStream (ascii "sess_1") connectMarker).run.alone (HistorySystem fetchRuntime)
      (fun _ => ⟨0, .streamNotFound⟩) (servedService, []) []).map (fun ended => ended.2.1.2.length) = some 20 := by
    decide +kernel
  rw [hrun] at hcalls
  have hlength : calls.length = 20 := by simpa using hcalls
  have hsingle := hkept.single (.inr rfl)
  omega

end SessionService

end Gr4ControlPlane
