import Gr4ControlPlane.Api.BridgeForwarding

open Gr4ControlPlane.Interleaving

namespace Gr4ControlPlane

def BridgeLabel.own : BridgeLabel → Bool
  | .close => false
  | .run | .forward .. | .closer _ => true

def ForwardPoint.work : ForwardPoint → Nat
  | .created => 10
  | .reading => 9
  | .marking _ => 8
  | .writing _ => 7
  | .closing _ => 0

def RunPoint.work : RunPoint → Nat
  | .created => 9
  | .started => 8
  | .joining .browser => 7
  | .joining .internal => 6
  | .closing _ => 0

namespace WebSocketBridge

variable {b b' : WebSocketBridge} {source side : Side} {l : BridgeLabel} {point : ForwardPoint}

def work (b : WebSocketBridge) : Nat :=
  b.browserToInternal.work + b.internalToBrowser.work + b.runPoint.work + b.closing.work 2

structure Placed (b : WebSocketBridge) : Prop where
  calls : ∀ side call, b.forwarder side = .closing call → call < b.closing.calls.length
  call : ∀ call, b.runPoint = .closing call → call < b.closing.calls.length
  browser : b.forwarder .browser = .created → b.runPoint = .created
  internal : b.forwarder .internal = .created → b.runPoint = .created ∨ b.runPoint = .started

theorem Placed.init : Placed .init where
  calls side call h := by cases side <;> cases h
  call call h := by cases h
  browser _ := rfl
  internal _ := .inl rfl

theorem Forwards.placed (h : Forwards b source b') (hp : Placed b) : Placed b' := by
  obtain ⟨hothers, hrun, -⟩ := h.frame
  obtain ⟨-, hcreated⟩ := h.active
  have hlength : b.closing.calls.length ≤ b'.closing.calls.length := by
    cases h <;> simp [endForward, OneShot.call]
  have hsource : (∀ call, b'.forwarder source = .closing call → call < b'.closing.calls.length) ∧
      b'.forwarder source ≠ .created := by
    cases h <;> simp [endForward, forwarder_setForwarder, OneShot.call]
  refine ⟨fun side call hcall => ?_, fun call hcall => ?_, fun hside => ?_, fun hside => ?_⟩
  · by_cases hs : side = source
    · exact hsource.1 call (hs ▸ hcall)
    · exact Nat.lt_of_lt_of_le (hp.calls side call (hothers side hs ▸ hcall)) hlength
  · exact Nat.lt_of_lt_of_le (hp.call call (hrun ▸ hcall)) hlength
  · have hs : Side.browser ≠ source := fun hs => hsource.2 (hs ▸ hside)
    rw [hrun]
    exact hp.browser (hothers _ hs ▸ hside)
  · have hs : Side.internal ≠ source := fun hs => hsource.2 (hs ▸ hside)
    rw [hrun]
    exact hp.internal (hothers _ hs ▸ hside)

theorem Runs.placed (h : Runs b b') (hp : Placed b) : Placed b' := by
  cases h with
  | spawn hpoint =>
    refine ⟨fun side call hcall => ?_, by simp, by simp [forwarder_setForwarder], fun _ => .inr rfl⟩
    cases side with
    | browser => simp [forwarder_setForwarder] at hcall
    | internal => exact hp.calls .internal call (by simpa [forwarder_setForwarder] using hcall)
  | spawnBack hpoint =>
    refine ⟨fun side call hcall => ?_, by simp, fun hside => ?_, by simp [forwarder_setForwarder]⟩
    · cases side with
      | browser => exact hp.calls .browser call (by simpa [forwarder_setForwarder] using hcall)
      | internal => simp [forwarder_setForwarder] at hcall
    · cases hpoint.symm.trans (hp.browser (by simpa [forwarder_setForwarder] using hside))
  | join hpoint =>
    refine ⟨fun side call hcall => hp.calls side call (by simpa using hcall), by simp, fun hside => ?_, fun hside => ?_⟩
    · cases hpoint.symm.trans (hp.browser (by simpa using hside))
    · rcases hp.internal (by simpa using hside) with h | h <;> cases hpoint.symm.trans h
  | close hpoint =>
    refine ⟨fun side call hcall => ?_, ?_, fun hside => ?_, fun hside => ?_⟩
    · have hlt := hp.calls side call (by simpa using hcall)
      simp only [closing_setClosing, OneShot.call, List.length_append, List.length_singleton]
      omega
    · simp [OneShot.call]
    · cases hpoint.symm.trans (hp.browser (by simpa using hside))
    · rcases hp.internal (by simpa using hside) with h | h <;> cases hpoint.symm.trans h

theorem Placed.setClosing {closing : OneShot} (hp : Placed b) (hlength : b.closing.calls.length ≤ closing.calls.length) :
    Placed (b.setClosing closing) where
  calls side call h := Nat.lt_of_lt_of_le (hp.calls side call (by simpa using h)) hlength
  call call h := Nat.lt_of_lt_of_le (hp.call call (by simpa using h)) hlength
  browser h := hp.browser (by simpa using h)
  internal h := hp.internal (by simpa using h)

theorem Placed.step (hp : Placed b) (h : b.step l = some b') : Placed b' := by
  cases l with
  | run => exact (runStep_cases h).placed hp
  | forward source io => exact (forwardStep_cases h).placed hp
  | close =>
    cases h
    exact hp.setClosing (by simp [OneShot.call])
  | closer call =>
    obtain ⟨closing, hc, rfl⟩ := Option.map_eq_some_iff.mp h
    exact hp.setClosing (Nat.le_of_eq (OneShot.length_step hc).symm)

theorem Placed.of_reachable (h : bridgeMachine.Reachable b) : Placed b := h.invariant .init fun hp hs => hp.step hs

theorem closed_step (h : b.step l = some b') (hc : b.closed side) : b'.closed side := by
  unfold closed at hc ⊢
  cases l with
  | run => cases runStep_cases h <;> simpa [OneShot.call] using hc
  | forward source io => cases forwardStep_cases h <;> simpa [endForward, OneShot.call] using hc
  | close =>
    cases h
    simpa [OneShot.call] using hc
  | closer call =>
    obtain ⟨closing, hs, rfl⟩ := Option.map_eq_some_iff.mp h
    obtain ⟨p, p', a, -, ha, rfl⟩ := OneShot.step_cases hs
    cases p with
    | lock =>
      rw [OneShot.advance] at ha
      split at ha
      · cases ha
      · cases ha
        exact hc
    | part k =>
      cases ha
      simp only [closing_setClosing, List.contains_iff_mem] at hc ⊢
      exact List.mem_append_left _ hc
    | test | unlock => cases ha; exact hc
    | returned => cases ha

theorem work_setForwarder (b : WebSocketBridge) (source : Side) (point : ForwardPoint) :
    (b.setForwarder point source).work + (b.forwarder source).work = b.work + point.work := by
  cases source <;> simp only [work, setForwarder, forwarder] <;> omega

@[simp] theorem work_setStream {stream : WebSocketStream} : (b.setStream stream source).work = b.work := by
  cases source <;> rfl

theorem work_setClosing (b : WebSocketBridge) (closing : OneShot) :
    (b.setClosing closing).work + b.closing.work 2 = b.work + closing.work 2 := by
  simp only [work, setClosing]
  omega

theorem work_setRunPoint (b : WebSocketBridge) (point : RunPoint) :
    (b.setRunPoint point).work + b.runPoint.work = b.work + point.work := by
  simp only [work, setRunPoint]
  omega

theorem work_call (b : WebSocketBridge) : (b.setClosing b.closing.call).work = b.work + 5 := by
  have hwork := work_setClosing b b.closing.call
  rw [OneShot.work_call] at hwork
  omega

theorem work_lt {stream : WebSocketStream} {point' : ForwardPoint} (hpoint : b.forwarder source = point)
    (hlt : point'.work < point.work) : ((b.setStream stream side).setForwarder point' source).work < b.work := by
  have hwork := work_setForwarder (b.setStream stream side) source point'
  rw [forwarder_setStream, work_setStream, hpoint] at hwork
  omega

theorem Forwards.work (h : Forwards b source b') (hc : ∀ side, b.closed side) : b'.work < b.work := by
  cases h with
  | read hpoint => exact work_lt hpoint (Nat.lt_succ_self 8)
  | mark hpoint => exact work_lt hpoint (Nat.lt_succ_self 7)
  | write hpoint hopen => simp [hc source.other] at hopen
  | fail hpoint =>
    have hwork := work_setForwarder b source (.closing b.closing.calls.length)
    have hcall := work_call (b.setForwarder (.closing b.closing.calls.length) source)
    rw [closing_setForwarder] at hcall
    have hleft : 7 ≤ (b.forwarder source).work := by
      rcases hpoint with hpoint | ⟨payload, hpoint⟩ <;> simp [hpoint, ForwardPoint.work]
    have hzero : (ForwardPoint.closing b.closing.calls.length).work = 0 := rfl
    unfold endForward
    omega

theorem Runs.work (h : Runs b b') (hi : Inv b) : b'.work < b.work := by
  cases h with
  | spawn hpoint =>
    have hforward := work_setForwarder b .browser .reading
    have hrun := work_setRunPoint (b.setForwarder .reading .browser) .started
    rw [hi.created hpoint] at hforward
    rw [runPoint_setForwarder, hpoint] at hrun
    simp only [ForwardPoint.work, RunPoint.work] at hforward hrun
    omega
  | spawnBack hpoint =>
    have hforward := work_setForwarder b .internal .reading
    have hrun := work_setRunPoint (b.setForwarder .reading .internal) (.joining .browser)
    rw [hi.started hpoint] at hforward
    rw [runPoint_setForwarder, hpoint] at hrun
    simp only [ForwardPoint.work, RunPoint.work] at hforward hrun
    omega
  | join hpoint hret =>
    have hrun := work_setRunPoint b (.joining .internal)
    rw [hpoint] at hrun
    simp only [RunPoint.work] at hrun
    omega
  | close hpoint hret =>
    have hrun := work_setRunPoint b (.closing b.closing.calls.length)
    have hcall := work_call (b.setRunPoint (.closing b.closing.calls.length))
    rw [hpoint] at hrun
    simp only [RunPoint.work, closing_setRunPoint] at hrun hcall
    omega

theorem work_step (hi : Inv b) (hc : ∀ side, b.closed side) (hl : l.own) (h : b.step l = some b') :
    b'.work < b.work := by
  cases l with
  | run => exact (runStep_cases h).work hi
  | forward source io => exact (forwardStep_cases h).work hc
  | close => cases hl
  | closer call =>
    obtain ⟨closing, hs, rfl⟩ := Option.map_eq_some_iff.mp h
    have hwork := work_setClosing b closing
    have hlt := hi.closing.work_step hs
    omega

theorem progress_call {call : Nat} (hi : Inv b) (hlt : call < b.closing.calls.length) (hret : b.callReturned call = false) :
    ∃ l, l.own ∧ (b.step l).isSome := by
  have hcall := List.getElem?_eq_getElem hlt
  obtain ⟨j, closing, hs⟩ := hi.closing.progress hcall fun heq => by
    simp [callReturned, hcall, heq] at hret
  exact ⟨.closer j, rfl, by simp [step, hs]⟩

theorem progress_forwarder (hi : Inv b) (hp : Placed b) (hcreated : b.forwarder source ≠ .created)
    (hret : b.forwarderReturned source = false) : ∃ l, l.own ∧ (b.step l).isSome := by
  cases hpoint : b.forwarder source with
  | created => exact absurd hpoint hcreated
  | reading => exact ⟨.forward source .throws, rfl, by simp [step, forwardStep, hpoint]⟩
  | marking payload => exact ⟨.forward source .throws, rfl, by simp [step, forwardStep, hpoint]⟩
  | writing payload => exact ⟨.forward source .throws, rfl, by simp [step, forwardStep, hpoint]⟩
  | closing call =>
    refine progress_call hi (hp.calls source call hpoint) ?_
    simpa [forwarderReturned, hpoint] using hret

theorem progress (hi : Inv b) (hp : Placed b) (hret : b.returned = false) : ∃ l, l.own ∧ (b.step l).isSome := by
  cases hpoint : b.runPoint with
  | created => exact ⟨.run, rfl, by simp [step, runStep, hpoint]⟩
  | started => exact ⟨.run, rfl, by simp [step, runStep, hpoint]⟩
  | joining side =>
    by_cases hj : b.forwarderReturned side
    · exact ⟨.run, rfl, by cases side <;> simp [step, runStep, hpoint, hj]⟩
    · have hbody : b.forwarder side ≠ .created → ∃ l, l.own ∧ (b.step l).isSome := fun hcreated =>
        progress_forwarder hi hp hcreated (by simpa using hj)
      refine hbody fun hcreated => ?_
      cases side with
      | browser => cases hpoint.symm.trans (hp.browser hcreated)
      | internal => rcases hp.internal hcreated with h | h <;> cases hpoint.symm.trans h
  | closing call =>
    refine progress_call hi (hp.call call hpoint) ?_
    simpa [returned, hpoint] using hret

theorem calls_returned (hi : Inv b) (hstuck : ∀ l, l.own → b.step l = none) : ∀ call ∈ b.closing.calls, call = .returned := by
  intro call hcall
  obtain ⟨i, hi'⟩ := List.mem_iff_getElem?.mp hcall
  by_contra hret
  obtain ⟨j, closing, hs⟩ := hi.closing.progress hi' hret
  have hnone := hstuck (.closer j) rfl
  simp [step, hs] at hnone

/-- Once the sockets are closed, the threads of a bridge stop after at most `work` steps in every
order, and when none of them can go on `run` and all calls of `close` have returned. -/
theorem closed_ends (h : bridgeMachine.Reachable b) (hc : ∀ side, b.closed side) {ls : List BridgeLabel}
    (hls : ∀ l ∈ ls, l.own) (hrun : bridgeMachine.run b ls = some b') :
    ls.length + b'.work ≤ b.work ∧
      ((∀ l, l.own → b'.step l = none) → b'.returned ∧ ∀ call ∈ b'.closing.calls, call = .returned) := by
  have hp := Placed.of_reachable h
  have hi := Inv.of_reachable h
  clear h
  induction ls generalizing b with
  | nil =>
    cases hrun
    refine ⟨by simp, fun hstuck => ⟨?_, calls_returned hi hstuck⟩⟩
    by_contra hret
    obtain ⟨l, hl, hs⟩ := progress hi hp (by simpa using hret)
    simp [hstuck l hl] at hs
  | cons l ls ih =>
    obtain ⟨b₁, hs, hrun⟩ := Option.bind_eq_some_iff.mp hrun
    have hlt := work_step hi hc (hls l List.mem_cons_self) hs
    obtain ⟨hle, hend⟩ := ih (fun side => closed_step hs (hc side)) (fun l hl => hls l (List.mem_cons_of_mem _ hl))
      hrun (hp.step hs) (hi.step hs)
    refine ⟨?_, hend⟩
    rw [List.length_cons]
    omega

def endingRun : List BridgeLabel :=
  [.closer 0, .forward .internal .throws, .forward .browser .throws] ++ List.replicate 3 (.closer 1) ++
    List.replicate 3 (.closer 2) ++ [.run, .run] ++ List.replicate 3 (.closer 3)

def ended : WebSocketBridge := (bridgeMachine.run relayed endingRun).get (by decide)

theorem closed_ends_relayed : ended.returned ∧ endingRun.length + ended.work ≤ relayed.work ∧
    ((∀ l, l.own → ended.step l = none) → ended.returned ∧ ∀ call ∈ ended.closing.calls, call = .returned) :=
  ⟨by decide, closed_ends reachable_relayed (fun side => by cases side <;> decide) (by decide) (Option.some_get _).symm⟩

end WebSocketBridge

end Gr4ControlPlane
