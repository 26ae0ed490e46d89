import Gr4ControlPlane.Api.WebSocketBridge

open Gr4ControlPlane.Interleaving

namespace Gr4ControlPlane

namespace WebSocketBridge

inductive Forwards (b : WebSocketBridge) (source : Side) : WebSocketBridge → Prop
  | read {m} : b.forwarder source = .reading →
      Forwards b source ((b.setStream { b.stream source with received := (b.stream source).received ++ [m] }
        source).setForwarder (.marking m.payload) source)
  | mark {payload} : b.forwarder source = .marking payload →
      Forwards b source ((b.setStream { b.stream source.other with textMode := (b.stream source).gotText }
        source.other).setForwarder (.writing payload) source)
  | write {payload} : b.forwarder source = .writing payload → b.closed source.other = false →
      Forwards b source ((b.setStream { b.stream source.other with
        sent := (b.stream source.other).sent ++ [⟨(b.stream source.other).textMode, payload⟩] }
        source.other).setForwarder .reading source)
  | fail : (b.forwarder source = .reading ∨ ∃ payload, b.forwarder source = .writing payload) →
      Forwards b source (b.endForward source)

def Passing (source destination : WebSocketStream) : ForwardPoint → Prop
  | .created | .reading => source.received = destination.sent
  | .marking payload => ∃ text, source.received = destination.sent ++ [⟨text, payload⟩]
  | .writing payload => source.received = destination.sent ++ [⟨destination.textMode, payload⟩]
  | .closing _ => ∃ rest, source.received = destination.sent ++ rest ∧ rest.length ≤ 1

variable {b b' : WebSocketBridge} {source side : Side} {io : StreamIo} {point : ForwardPoint} {stream : WebSocketStream}

theorem forwardStep_cases (h : b.forwardStep source io = some b') : Forwards b source b' := by
  unfold forwardStep at h
  split at h
  · next hpoint => exact Option.some.inj h ▸ .read hpoint
  · next hpoint => exact Option.some.inj h ▸ .mark hpoint
  · next hpoint =>
    split at h
    · cases h
    · next hopen => exact Option.some.inj h ▸ .write hpoint (by simpa using hopen)
  · next hpoint => exact Option.some.inj h ▸ .fail (.inl hpoint)
  · next hpoint => exact Option.some.inj h ▸ .fail (.inr ⟨_, hpoint⟩)
  · cases h

theorem Passing.congr {src src' dst dst' : WebSocketStream} (h : Passing src dst point)
    (hreceived : src'.received = src.received) (hsent : dst'.sent = dst.sent)
    (htext : dst'.textMode = dst.textMode) : Passing src' dst' point := by
  cases point <;> simpa only [Passing, hreceived, hsent, htext] using h

theorem Passing.stop {src dst : WebSocketStream} {call : Nat} (h : Passing src dst point)
    (hpoint : point = .reading ∨ ∃ payload, point = .writing payload) : Passing src dst (.closing call) := by
  rcases hpoint with rfl | ⟨payload, rfl⟩
  · exact ⟨[], by simpa [Passing] using h, by simp⟩
  · exact ⟨_, h, by simp⟩

theorem Forwards.passing (h : Forwards b source b')
    (hp : ∀ side, Passing (b.stream side) (b.stream side.other) (b.forwarder side)) :
    ∀ side, Passing (b'.stream side) (b'.stream side.other) (b'.forwarder side) := by
  intro side
  have hside := hp side
  by_cases hs : side = source
  · subst hs
    cases h with
    | @read m hpoint =>
      rw [hpoint] at hside
      have hsent : (b.stream side).received = (b.stream side.other).sent := hside
      obtain ⟨text, payload⟩ := m
      rw [forwarder_setForwarder, if_pos rfl]
      exact ⟨text, by simp [stream_setStream, hsent]⟩
    | @mark payload hpoint =>
      rw [hpoint] at hside
      obtain ⟨text, hsent⟩ := hside
      simp [stream_setStream, forwarder_setForwarder, Passing, WebSocketStream.gotText, hsent]
    | @write payload hpoint hopen =>
      rw [hpoint] at hside
      have hsent : (b.stream side).received = _ := hside
      simp [stream_setStream, forwarder_setForwarder, Passing, hsent]
    | fail hpoint =>
      simpa [endForward, forwarder_setForwarder] using hside.stop hpoint
  · -- the other direction reads what this thread neither reads nor writes
    obtain rfl := Side.eq_other hs
    have hpoint : b'.forwarder source.other = b.forwarder source.other := by
      cases h <;> simp [endForward, forwarder_setForwarder]
    rw [hpoint]
    refine hside.congr ?_ ?_ ?_ <;> cases h <;> simp [endForward, stream_setStream]

inductive Runs (b : WebSocketBridge) : WebSocketBridge → Prop
  | spawn : b.runPoint = .created → Runs b ((b.setForwarder .reading .browser).setRunPoint .started)
  | spawnBack : b.runPoint = .started → Runs b ((b.setForwarder .reading .internal).setRunPoint (.joining .browser))
  | join : b.runPoint = .joining .browser → b.forwarderReturned .browser →
      Runs b (b.setRunPoint (.joining .internal))
  | close : b.runPoint = .joining .internal → b.forwarderReturned .internal →
      Runs b ((b.setRunPoint (.closing b.closing.calls.length)).setClosing b.closing.call)

theorem runStep_cases (h : b.runStep = some b') : Runs b b' := by
  unfold runStep at h
  split at h
  · next hpoint => exact Option.some.inj h ▸ .spawn hpoint
  · next hpoint => exact Option.some.inj h ▸ .spawnBack hpoint
  · next hpoint =>
    split at h
    · next hret => exact Option.some.inj h ▸ .join hpoint hret
    · cases h
  · next hpoint =>
    split at h
    · next hret => exact Option.some.inj h ▸ .close hpoint hret
    · cases h
  · cases h

structure Inv (b : WebSocketBridge) : Prop where
  passing : ∀ side, Passing (b.stream side) (b.stream side.other) (b.forwarder side)
  closing : b.closing.Valid 2
  created : b.runPoint = .created → ∀ side, b.forwarder side = .created
  started : b.runPoint = .started → b.forwarder .internal = .created
  joined : ∀ side, (b.runPoint = .joining .internal ∧ side = .browser ∨ ∃ call, b.runPoint = .closing call) →
    b.forwarderReturned side

theorem forwarderReturned_iff : b.forwarderReturned side ↔
    ∃ call, b.forwarder side = .closing call ∧ b.closing.calls[call]? = some .returned := by
  unfold forwarderReturned callReturned
  cases b.forwarder side <;> simp

theorem forwarderReturned_of (h : b.forwarderReturned side) (hpoint : b'.forwarder side = b.forwarder side)
    (hcalls : ∀ call : Nat, b.closing.calls[call]? = some .returned → b'.closing.calls[call]? = some .returned) :
    b'.forwarderReturned side := by
  obtain ⟨call, hcall, hret⟩ := forwarderReturned_iff.mp h
  exact forwarderReturned_iff.mpr ⟨call, hpoint.trans hcall, hcalls call hret⟩

theorem Forwards.active (h : Forwards b source b') :
    (∀ call, b.forwarder source ≠ .closing call) ∧ b.forwarder source ≠ .created := by
  cases h with
  | read hpoint | mark hpoint | write hpoint => exact ⟨by simp [hpoint], by simp [hpoint]⟩
  | fail hpoint => rcases hpoint with hpoint | ⟨payload, hpoint⟩ <;> exact ⟨by simp [hpoint], by simp [hpoint]⟩

theorem Forwards.frame (h : Forwards b source b') :
    (∀ side, side ≠ source → b'.forwarder side = b.forwarder side) ∧ b'.runPoint = b.runPoint ∧
      ∀ call : Nat, b.closing.calls[call]? = some .returned → b'.closing.calls[call]? = some .returned := by
  cases h with
  | read | mark | write => simp +contextual [forwarder_setForwarder]
  | fail =>
    refine ⟨fun side hs => by simp [endForward, forwarder_setForwarder, hs], by simp [endForward], fun call hcall => ?_⟩
    simpa [endForward] using OneShot.returned_call hcall

theorem Forwards.closing (h : Forwards b source b') (hc : b.closing.Valid 2) : b'.closing.Valid 2 := by
  cases h with
  | read | mark | write => simpa using hc
  | fail => simpa [endForward] using hc.call

theorem Inv.forward (hi : Inv b) (h : Forwards b source b') : Inv b' := by
  obtain ⟨hothers, hrun, hcalls⟩ := h.frame
  obtain ⟨hactive, hcreated⟩ := h.active
  refine ⟨h.passing hi.passing, h.closing hi.closing, ?_, ?_, ?_⟩
  · intro hpoint
    exact absurd (hi.created (hrun ▸ hpoint) source) hcreated
  · intro hpoint
    have hinternal := hi.started (hrun ▸ hpoint)
    rw [hothers .internal (by rintro rfl; exact hcreated hinternal), hinternal]
  · intro side hpoint
    have hret := hi.joined side (hrun ▸ hpoint)
    refine forwarderReturned_of hret (hothers side ?_) hcalls
    rintro rfl
    obtain ⟨call, hcall, -⟩ := forwarderReturned_iff.mp hret
    exact hactive call hcall

theorem Inv.setClosing {closing : OneShot} (hi : Inv b) (hc : closing.Valid 2)
    (hcalls : ∀ call : Nat, b.closing.calls[call]? = some .returned → closing.calls[call]? = some .returned) :
    Inv (b.setClosing closing) where
  passing side := by simpa using hi.passing side
  closing := hc
  created hpoint side := by simpa using hi.created hpoint side
  started hpoint := by simpa using hi.started hpoint
  joined side hpoint := forwarderReturned_of (hi.joined side hpoint) (by simp) hcalls

theorem Inv.run (hi : Inv b) (h : Runs b b') : Inv b' := by
  cases h with
  | spawn hpoint =>
    have hcreated := hi.created hpoint
    refine ⟨fun side => ?_, by simpa using hi.closing, by simp, ?_, by simp⟩
    · have hside := hi.passing side
      rw [hcreated side] at hside
      have hread : Passing (b.stream side) (b.stream side.other) .reading := hside
      cases side with
      | browser => simpa [forwarder_setForwarder] using hread
      | internal => simpa [forwarder_setForwarder, hcreated] using hside
    · simp [forwarder_setForwarder, hcreated]
  | spawnBack hpoint =>
    have hcreated := hi.started hpoint
    refine ⟨fun side => ?_, by simpa using hi.closing, by simp, by simp, by simp⟩
    have hside := hi.passing side
    cases side with
    | browser => simpa [forwarder_setForwarder] using hside
    | internal =>
      rw [hcreated] at hside
      have hread : Passing (b.stream .internal) (b.stream Side.internal.other) .reading := hside
      simpa [forwarder_setForwarder] using hread
  | join hpoint hret =>
    refine ⟨fun side => by simpa using hi.passing side, hi.closing, by simp, by simp, ?_⟩
    rintro side (⟨-, rfl⟩ | ⟨call, hcall⟩)
    · exact forwarderReturned_of hret (by simp) fun _ h => h
    · cases hcall
  | close hpoint hret =>
    have hbrowser := hi.joined .browser (.inl ⟨hpoint, rfl⟩)
    refine ⟨fun side => by simpa using hi.passing side, hi.closing.call, by simp, by simp, ?_⟩
    intro side _
    cases side with
    | browser => exact forwarderReturned_of hbrowser (by simp) fun _ h => OneShot.returned_call h
    | internal => exact forwarderReturned_of hret (by simp) fun _ h => OneShot.returned_call h

theorem Inv.init : Inv .init where
  passing side := by cases side <;> rfl
  closing := .init
  created _ side := by cases side <;> rfl
  started h := by cases h
  joined side h := by
    rcases h with ⟨h, -⟩ | ⟨call, h⟩ <;> cases h

theorem Inv.step {l : BridgeLabel} (hi : Inv b) (h : b.step l = some b') : Inv b' := by
  cases l with
  | run => exact hi.run (runStep_cases h)
  | forward source io => exact hi.forward (forwardStep_cases h)
  | close =>
    cases h
    exact hi.setClosing hi.closing.call fun _ => OneShot.returned_call
  | closer call =>
    obtain ⟨closing, hc, rfl⟩ := Option.map_eq_some_iff.mp h
    exact hi.setClosing (hi.closing.step hc) fun _ => OneShot.returned_step hc

theorem Inv.of_reachable (h : bridgeMachine.Reachable b) : Inv b := h.invariant .init fun hi hs => hi.step hs

/-- What the two ends of a bridge see of each other, and of its end. -/
structure Faithful (b : WebSocketBridge) : Prop where
  inOrder : ∀ side, ∃ rest, (b.stream side).received = (b.stream side.other).sent ++ rest ∧ rest.length ≤ 1
  closedOnce : ∀ side : Side, b.closing.log.count side.part ≤ 1
  closedAfter : ∀ call : Nat, b.closing.calls[call]? = some .returned → ∀ side, b.closed side
  ended : b.returned → ∀ side, b.forwarderReturned side ∧ b.closed side

theorem Passing.rest {src dst : WebSocketStream} (h : Passing src dst point) :
    ∃ rest, src.received = dst.sent ++ rest ∧ rest.length ≤ 1 := by
  cases point with
  | created | reading => exact ⟨[], by simpa [Passing] using h, by simp⟩
  | marking payload =>
    obtain ⟨text, h⟩ := h
    exact ⟨_, h, by simp⟩
  | writing payload => exact ⟨_, h, by simp⟩
  | closing call => exact h

theorem Inv.faithful (hi : Inv b) : Faithful b := by
  have hclosed : ∀ call : Nat, b.closing.calls[call]? = some .returned → ∀ side, b.closed side := by
    intro call hcall side
    unfold closed
    rw [hi.closing.returned (List.mem_of_getElem? hcall)]
    cases side <;> decide
  refine ⟨fun side => (hi.passing side).rest, fun side => ?_, hclosed, fun hret side => ?_⟩
  · calc b.closing.log.count side.part ≤ (List.range 2).count side.part := hi.closing.log_prefix.sublist.count_le _
      _ ≤ 1 := by cases side <;> decide
  · unfold returned at hret
    split at hret
    · next call hpoint =>
      exact ⟨hi.joined side (.inr ⟨call, hpoint⟩), hclosed call (by simpa [callReturned] using hret) side⟩
    · cases hret

theorem faithful_of_reachable (h : bridgeMachine.Reachable b) : Faithful b := (Inv.of_reachable h).faithful

def relayRun : List BridgeLabel :=
  [.run, .run, .forward .browser (.message ⟨true, ascii "tune"⟩), .forward .browser .written,
    .forward .internal (.message ⟨false, [1, 2]⟩), .forward .browser .written, .forward .internal .written,
    .close, .closer 0, .closer 0, .closer 0, .closer 0]

def relayed : WebSocketBridge := (bridgeMachine.run .init relayRun).get (by decide)

theorem reachable_relayed : bridgeMachine.Reachable relayed := .of_run .init (Option.some_get _).symm

theorem faithful_relayed :
    relayed.internal.sent = [⟨true, ascii "tune"⟩] ∧ relayed.internal.received = [⟨false, [1, 2]⟩] ∧
      relayed.browser.sent = [] ∧ Faithful relayed :=
  ⟨by decide, by decide, by decide, faithful_of_reachable reachable_relayed⟩

end WebSocketBridge

end Gr4ControlPlane
