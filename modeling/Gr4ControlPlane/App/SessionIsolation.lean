import Gr4ControlPlane.App.SessionCalls
import Gr4ControlPlane.App.SessionSerialization
import Gr4ControlPlane.Interleaving.Isolation

open Gr4ControlPlane.Interleaving

namespace Gr4ControlPlane.SessionService

variable {E : Type} (H : HistoryRuntime E)

abbrev HistorySystem : System (callInterface outcomeInterface) :=
  callSystem outcomeRuntime H.streams fun call => (dispatch outcomeRuntime call).run

/-- One session: what the service keeps of it, and the calls the runtime manager has received for it. -/
structure CallView where
  slot : Slot
  received : List ReceivedCall

def callView (x : Bytes) (σ : SessionService × List ReceivedCall) : CallView :=
  ⟨σ.1.slot x, σ.2.filter (·.session = x)⟩

theorem callView_received {x : Bytes} {call : ReceivedCall} {service : SessionService} {received : List ReceivedCall}
    (h : call.session = x) : callView x (service, received ++ [call]) =
      ⟨service.slot x, received.filter (·.session = x) ++ [call]⟩ := by
  simp [callView, h]

theorem callView_received_of_ne {x : Bytes} {call : ReceivedCall} {service : SessionService}
    {received : List ReceivedCall} (h : call.session ≠ x) :
    callView x (service, received ++ [call]) = callView x (service, received) := by
  simp [callView, h]

theorem map_callView_received {γ : Type} {x : Bytes} {call : ReceivedCall} (h : call.session = x) (answer : Option γ)
    (σ : SessionService × List ReceivedCall) :
    ((answer.map fun r => (r, σ.2 ++ [call])).map fun p => (p.1, (σ.1, p.2))).map
        (fun p => (p.1, callView x p.2)) =
      answer.map fun r => (r, { callView x σ with received := (callView x σ).received ++ [call] }) := by
  rw [Option.map_map, Option.map_map]
  apply congrArg (Option.map · answer)
  funext r
  exact congrArg (Prod.mk r) (callView_received h)

def callAct : (c : (callInterface outcomeInterface).Cmd) → Env E → CallView →
    Option ((callInterface outcomeInterface).Ans c × CallView)
  | .inl (.inl c), _, v => c.session.map fun x => ((ofSlot x v.slot).read c, v)
  | .inl (.inr c), e, v => (H.answer v.received c e.runtime).map fun r =>
      (r, { v with received := v.received ++ [.stream c] })
  | .inr (.inl c), e, v => ((ofSlot c.session v.slot).exec e.now c).map fun p =>
      (p.1, { v with slot := p.2.slot c.session })
  | .inr (.inr c), e, v => (H.outcome v.received c.1 c.2 e.runtime).map fun r =>
      (r, { v with received := v.received ++ [.lifecycle c.1 c.2] })

def callAbout (x : Bytes) : (callInterface outcomeInterface).Cmd → Prop
  | .inl (.inl c) => c.session = some x
  | .inl (.inr c) => c.session.id = x
  | .inr c => aboutSession x c

def callAnswers : (c : (callInterface outcomeInterface).Cmd) → (callInterface outcomeInterface).Ans c → Prop
  | .inl (.inl c), r => readAnswers c r
  | .inl (.inr _), _ => True
  | .inr c, r => systemAnswers c r

variable {H}

theorem exec_callView {x : Bytes} {c : (callInterface outcomeInterface).Cmd} (hx : callAbout x c) (e : Env E)
    (σ : SessionService × List ReceivedCall) :
    ((HistorySystem H).exec c e σ).map (fun p => (p.1, callView x p.2)) = callAct H c e (callView x σ) := by
  have hslot := slot_ofSlot (v := σ.1.slot x) fun s => slot_id
  match c, hx with
  | .inl (.inl c), hx =>
    have hread : (ofSlot x (σ.1.slot x)).read c = σ.1.read c := read_congr hx hslot
    have hc : c.session = some x := hx
    simp only [callAct, hc, Option.map_some, callView, hread]
  | .inl (.inr c), hx =>
    obtain rfl : c.session.id = x := hx
    exact map_callView_received rfl (H.answer _ c e.runtime) σ
  | .inr (.inl c), hx =>
    obtain rfl : c.session = x := hx
    have hview := congrArg
      (Option.map fun q => (q.1, CallView.mk q.2 (σ.2.filter (·.session = c.session)))) (exec_congr c e.now hslot)
    rw [Option.map_map, Option.map_map] at hview
    exact (Option.map_map (fun p => (p.1, callView c.session p.2)) (fun p => (p.1, (p.2, σ.2)))
      (σ.1.exec e.now c)).trans hview.symm
  | .inr (.inr c), hx =>
    obtain rfl : c.2.id = x := hx
    exact map_callView_received rfl (H.outcome _ c.1 c.2 e.runtime) σ

theorem call_frame {x y : Bytes} {c : (callInterface outcomeInterface).Cmd} {e : Env E}
    {σ σ' : SessionService × List ReceivedCall} {r : (callInterface outcomeInterface).Ans c}
    (hx : callAbout x c) (h : (HistorySystem H).exec c e σ = some (r, σ')) (hy : y ≠ x) :
    callView y σ' = callView y σ := by
  match c, r, hx, h with
  | .inl (.inl c), r, hx, h =>
    cases h
    rfl
  | .inl (.inr c), r, hx, h =>
    obtain rfl : c.session.id = x := hx
    obtain ⟨p, hp, heq⟩ := Option.map_eq_some_iff.mp h
    obtain ⟨r', -, rfl⟩ := Option.map_eq_some_iff.mp hp
    cases heq
    exact callView_received_of_ne hy.symm
  | .inr (.inl c), r, hx, h =>
    obtain rfl : c.session = x := hx
    have hsection : (system outcomeRuntime H.machine).exec (.inl c) e σ = some (r, σ') := h
    obtain ⟨service', hc, rfl⟩ := exec_left hsection
    exact congrArg (CallView.mk · _) (exec_sameBut hc y hy)
  | .inr (.inr c), r, hx, h =>
    obtain rfl : c.2.id = x := hx
    have hcall : (system outcomeRuntime H.machine).exec (.inr c) e σ = some (r, σ') := h
    obtain ⟨runtime', hc, rfl⟩ := exec_right hcall
    obtain ⟨r', -, heq⟩ := Option.map_eq_some_iff.mp hc
    cases heq
    exact callView_received_of_ne hy.symm

theorem exec_callAnswers {c : (callInterface outcomeInterface).Cmd} {e : Env E}
    {σ σ' : SessionService × List ReceivedCall} {r : (callInterface outcomeInterface).Ans c}
    (h : (HistorySystem H).exec c e σ = some (r, σ')) : callAnswers c r := by
  match c, r, h with
  | .inl (.inl c), r, h =>
    cases h
    exact read_answers c
  | .inl (.inr c), r, h => trivial
  | .inr c, r, h =>
    have hsystem : (system outcomeRuntime H.machine).exec c e σ = some (r, σ') := h
    exact exec_systemAnswers hsystem

def CallAbout {α : Type} (x : Bytes) (a : Call outcomeInterface α) : Prop :=
  a.run.All (callAbout x) callAnswers

variable {x : Bytes} {α β : Type}

theorem CallAbout.bind {a : Call outcomeInterface α} {f : α → Call outcomeInterface β} (ha : CallAbout x a)
    (hf : ∀ r, CallAbout x (f r)) : CallAbout x (a >>= f) := Program.all_bind ha hf

theorem CallAbout.pure (r : α) : CallAbout x (Pure.pure r) := trivial

theorem CallAbout.throw (err : AppError) : CallAbout x (MonadExcept.throw err : Call outcomeInterface α) := trivial

theorem CallAbout.map {a : Call outcomeInterface α} (f : α → β) (ha : CallAbout x a) : CallAbout x (f <$> a) := by
  rw [map_eq_pure_bind]
  exact ha.bind fun r => .pure (f r)

theorem ask_about {c : StreamCall} (hid : c.session.id = x) : CallAbout x (Call.ask c) := ⟨hid, fun _ _ => trivial⟩

theorem fetchAttempts_about {session : Session} (hid : session.id = x) (id streamId : Bytes) (attempts : Nat) :
    CallAbout x (Call.fetchAttempts session id streamId attempts) := by
  induction attempts with
  | zero => exact .throw _
  | succ attempts ih =>
    apply (ask_about (c := .fetchHttpStream session streamId) hid).bind
    intro r
    rcases r with (what | ⟨⟩) | response
    · dsimp only
      split
      · exact .throw _
      · exact ih
    · exact .throw _
    · exact .pure _

theorem streamGate_about {f : Session → Call outcomeInterface α}
    (hf : ∀ session : Session, session.id = x → CallAbout x (f session)) : CallAbout x (Call.streamGate x >>= f) := by
  refine ⟨rfl, fun r hr => ?_⟩
  rcases r with err | session
  · trivial
  · exact hf session (hr session rfl)

theorem dispatch_about (call : SessionCall) : CallAbout call.session (dispatch outcomeRuntime call) := by
  cases call with
  | request request => exact .map _ (Program.All.inr (body_about request))
  | get id => exact .map _ ⟨rfl, fun _ _ => trivial⟩
  | activeStreamPlan id =>
    refine .map _ ⟨rfl, fun r hr => ?_⟩
    rcases r with err | (_ | session)
    · trivial
    · trivial
    · apply (ask_about (c := .activeStreamPlan session) (hr session rfl)).bind
      intro r
      cases r with
      | error thrown => exact .throw _
      | ok plan => exact .pure _
  | fetchHttpStream id streamId => exact .map _ (streamGate_about fun session hid => fetchAttempts_about hid id streamId _)
  | resolveWebsocketStream id streamId =>
    apply CallAbout.map
    apply streamGate_about
    intro session hid
    apply (ask_about (c := .resolveWebsocketStream session streamId) hid).bind
    intro r
    cases r with
    | error thrown => exact .throw _
    | ok route => exact .pure _

variable (H)

def callSessions : Keyed (HistorySystem H) Bytes CallView where
  key := SessionCall.session
  view := callView
  act := callAct H
  addressed := callAbout
  answers := callAnswers
  exec_view := exec_callView
  frame := call_frame
  possible := exec_callAnswers
  body := dispatch_about

variable {H}

/-- In `d` session `x` is what it is in `c`: the same calls with the same answers, the same record
and phase, and whatever a call on it does next it does in both. -/
structure Alike (x : Bytes) (c d : Config (HistorySystem H)) : Prop where
  calls : d.threads = c.threads.filter (·.op.session = x)
  record : d.shared.1.repository.get x = c.shared.1.repository.get x
  phase : d.shared.1.phases.lookup x = c.shared.1.phases.lookup x
  admits : ∀ call : SessionCall, call.session = x → ∀ e,
    ((Thread.start call).advance e d.shared).map Prod.fst = ((Thread.start call).advance e c.shared).map Prod.fst
  goesOn : ∀ th ∈ d.threads, ∀ e, (th.advance e d.shared).map Prod.fst = (th.advance e c.shared).map Prod.fst

theorem alike_of_projects {c d : Config (HistorySystem H)} (h : Projects (callSessions H) x c d)
    (ha : ∀ th ∈ c.threads, th.Addressed (callSessions H)) : Alike x c d where
  calls := h.threads
  record := congrArg (fun v => v.slot.record) h.view
  phase := congrArg (fun v => v.slot.phase) h.view
  admits call hx e := h.advance_fst (Thread.start_addressed (D := callSessions H) call) hx e
  goesOn th hth e := by
    rw [h.threads] at hth
    obtain ⟨hmem, hon⟩ := List.mem_filter.mp hth
    exact h.advance_fst (ha th hmem) (of_decide_eq_true hon) e

/-- Without the steps that concern other sessions a run is still one, and session `x` does not
notice: neither slow nor failing calls elsewhere change, refuse or block any call on it. -/
theorem sessions_isolated (H : HistoryRuntime E) (x : Bytes) {ls : List (Label (HistorySystem H))}
    {c : Config (HistorySystem H)} (h : Config.run ⟨(empty, []), []⟩ ls = some c) :
    ∃ d, Config.run ⟨(empty, []), []⟩ (labelsOn (callSessions H) x [] ls) = some d ∧ Alike x c d := by
  have hnone : ∀ th ∈ (⟨(empty, []), []⟩ : Config (HistorySystem H)).threads, th.Addressed (callSessions H) := nofun
  have hinit : Projects (callSessions H) x ⟨(empty, []), []⟩ ⟨(empty, []), []⟩ := ⟨rfl, rfl⟩
  obtain ⟨d, hd, hproj⟩ := hinit.run hnone h
  exact ⟨d, hd, alike_of_projects hproj (Config.run_addressed hnone h)⟩

def scriptedRuntime : HistoryRuntime (Option (Except Thrown Unit)) where
  outcome _ _ _ e := e
  answer _ c e := e.map fun r =>
    match c with
    | .activeStreamPlan _ => r.map fun _ => none
    | .fetchHttpStream _ streamId => r.map fun _ => ⟨200, streamId, ascii "text/plain"⟩
    | .resolveWebsocketStream .. => .error .unknown

def slowStopRun : List (Label (HistorySystem scriptedRuntime)) :=
  let done : Option (Except Thrown Unit) := some (.ok ())
  let slow := generateSessionId 7
  let quick := generateSessionId 8
  [.invoke (.request (.create 7 (ascii "rx") (ascii "blocks: []") none)) ⟨1, done⟩,
    .invoke (.request (.create 8 (ascii "tx") (ascii "blocks: []") none)) ⟨2, done⟩,
    .invoke (.request (.lifecycle .start slow)) ⟨3, done⟩,
    .run 2 ⟨4, some (.error (.exception (ascii "no device")))⟩,
    .invoke (.request (.lifecycle .start quick)) ⟨5, done⟩,
    .run 3 ⟨6, done⟩, .run 2 ⟨7, done⟩, .run 3 ⟨8, done⟩,
    .invoke (.request (.lifecycle .stop slow)) ⟨9, done⟩,
    .run 3 ⟨10, done⟩,
    .invoke (.fetchHttpStream quick (ascii "iq")) ⟨11, done⟩,
    .invoke (.get slow) ⟨12, done⟩,
    .run 5 ⟨13, done⟩]

def slowStop : Config (HistorySystem scriptedRuntime) :=
  (Config.run ⟨(empty, []), []⟩ slowStopRun).get (by decide +kernel)

theorem sessions_isolated_slowStop :
    ∃ d, Config.run ⟨(empty, []), []⟩ (labelsOn (callSessions scriptedRuntime) (generateSessionId 8) [] slowStopRun) =
      some d ∧ Alike (generateSessionId 8) slowStop d :=
  sessions_isolated scriptedRuntime (generateSessionId 8) (Option.some_get _).symm

end Gr4ControlPlane.SessionService
