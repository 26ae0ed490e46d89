import Gr4ControlPlane.Domain.Bytes
import Gr4ControlPlane.Interleaving.Machine
import Gr4ControlPlane.Interleaving.OneShot

/-! `WebSocketBridge`, which passes the messages of a browser on to an internal stream and the
other way round.  Its two forwarding threads, the thread in `run` and whoever calls `close`
take their steps in any order. -/

open Gr4ControlPlane.Interleaving

namespace Gr4ControlPlane

inductive Side
  | browser | internal
  deriving DecidableEq

def Side.other : Side → Side
  | .browser => .internal
  | .internal => .browser

@[simp] theorem Side.other_ne (side : Side) : side.other ≠ side := by cases side <;> decide

@[simp] theorem Side.ne_other (side : Side) : side ≠ side.other := (Side.other_ne side).symm

@[simp] theorem Side.other_other (side : Side) : side.other.other = side := by cases side <;> rfl

theorem Side.eq_other {side source : Side} (h : side ≠ source) : side = source.other := by
  cases side <;> cases source <;> simp_all [Side.other]

def Side.part : Side → Nat
  | .browser => 0
  | .internal => 1

structure WebSocketMessage where
  text : Bool
  payload : Bytes
  deriving DecidableEq

structure WebSocketStream where
  /-- What `read` has returned. -/
  received : List WebSocketMessage
  /-- What `text` was last called with. -/
  textMode : Bool
  /-- What `write` has passed on. -/
  sent : List WebSocketMessage
  deriving DecidableEq

/-- `got_text`, which tells the kind of the message that was read last. -/
def WebSocketStream.gotText (stream : WebSocketStream) : Bool := stream.received.getLast?.any (·.text)

def WebSocketStream.fresh : WebSocketStream := ⟨[], true, []⟩

inductive ForwardPoint
  | created
  | reading
  | marking (payload : Bytes)
  | writing (payload : Bytes)
  | closing (call : Nat)
  deriving DecidableEq

inductive RunPoint
  | created
  | started
  | joining (source : Side)
  | closing (call : Nat)
  deriving DecidableEq

structure WebSocketBridge where
  browser : WebSocketStream
  internal : WebSocketStream
  browserToInternal : ForwardPoint
  internalToBrowser : ForwardPoint
  runPoint : RunPoint
  /-- `close`, with `closed_`, `close_mutex_` and the sockets closed so far. -/
  closing : OneShot
  deriving DecidableEq

inductive StreamIo
  | message (m : WebSocketMessage)
  | written
  | throws
  deriving DecidableEq

inductive BridgeLabel
  | run
  | forward (source : Side) (io : StreamIo)
  /-- Another thread calls `close`. -/
  | close
  /-- The next step of a call of `close`. -/
  | closer (call : Nat)
  deriving DecidableEq

namespace WebSocketBridge

def init : WebSocketBridge := ⟨.fresh, .fresh, .created, .created, .created, .init⟩

variable (b : WebSocketBridge)

def stream : Side → WebSocketStream
  | .browser => b.browser
  | .internal => b.internal

def setStream (stream : WebSocketStream) : Side → WebSocketBridge
  | .browser => { b with browser := stream }
  | .internal => { b with internal := stream }

def forwarder : Side → ForwardPoint
  | .browser => b.browserToInternal
  | .internal => b.internalToBrowser

def setForwarder (point : ForwardPoint) : Side → WebSocketBridge
  | .browser => { b with browserToInternal := point }
  | .internal => { b with internalToBrowser := point }

def setClosing (closing : OneShot) : WebSocketBridge := { b with closing := closing }

def setRunPoint (point : RunPoint) : WebSocketBridge := { b with runPoint := point }

def closed (side : Side) : Bool := b.closing.log.contains side.part

def callReturned (call : Nat) : Bool := b.closing.calls[call]? = some .returned

def forwarderReturned (source : Side) : Bool :=
  match b.forwarder source with
  | .closing call => b.callReturned call
  | _ => false

def returned : Bool :=
  match b.runPoint with
  | .closing call => b.callReturned call
  | _ => false

def endForward (source : Side) : WebSocketBridge :=
  (b.setForwarder (.closing b.closing.calls.length) source).setClosing b.closing.call

def forwardStep (source : Side) (io : StreamIo) : Option WebSocketBridge :=
  match b.forwarder source, io with
  | .reading, .message m =>
    let stream := { b.stream source with received := (b.stream source).received ++ [m] }
    some ((b.setStream stream source).setForwarder (.marking m.payload) source)
  | .marking payload, _ =>
    let stream := { b.stream source.other with textMode := (b.stream source).gotText }
    some ((b.setStream stream source.other).setForwarder (.writing payload) source)
  | .writing payload, .written =>
    let destination := b.stream source.other
    if b.closed source.other then none
    else
      let stream := { destination with sent := destination.sent ++ [⟨destination.textMode, payload⟩] }
      some ((b.setStream stream source.other).setForwarder .reading source)
  | .reading, .throws | .writing _, .throws => some (b.endForward source)
  | _, _ => none

def runStep : Option WebSocketBridge :=
  match b.runPoint with
  | .created => some ((b.setForwarder .reading .browser).setRunPoint .started)
  | .started => some ((b.setForwarder .reading .internal).setRunPoint (.joining .browser))
  | .joining .browser => if b.forwarderReturned .browser then some (b.setRunPoint (.joining .internal)) else none
  | .joining .internal =>
    if b.forwarderReturned .internal then
      some ((b.setRunPoint (.closing b.closing.calls.length)).setClosing b.closing.call)
    else none
  | .closing _ => none

def step : BridgeLabel → Option WebSocketBridge
  | .run => b.runStep
  | .forward source io => b.forwardStep source io
  | .close => some (b.setClosing b.closing.call)
  | .closer call => (b.closing.step 2 call).map b.setClosing

section

variable {b} {source side : Side} {stream : WebSocketStream} {point : ForwardPoint} {runPoint : RunPoint}
  {closing : OneShot}

theorem stream_setStream : (b.setStream stream source).stream side = if side = source then stream else b.stream side := by
  cases source <;> cases side <;> rfl

theorem forwarder_setForwarder :
    (b.setForwarder point source).forwarder side = if side = source then point else b.forwarder side := by
  cases source <;> cases side <;> rfl

@[simp] theorem stream_setForwarder : (b.setForwarder point source).stream side = b.stream side := by
  cases source <;> cases side <;> rfl

@[simp] theorem stream_setClosing : (b.setClosing closing).stream side = b.stream side := by cases side <;> rfl

@[simp] theorem stream_setRunPoint : (b.setRunPoint runPoint).stream side = b.stream side := by cases side <;> rfl

@[simp] theorem forwarder_setStream : (b.setStream stream source).forwarder side = b.forwarder side := by
  cases source <;> cases side <;> rfl

@[simp] theorem forwarder_setClosing : (b.setClosing closing).forwarder side = b.forwarder side := by
  cases side <;> rfl

@[simp] theorem forwarder_setRunPoint : (b.setRunPoint runPoint).forwarder side = b.forwarder side := by
  cases side <;> rfl

@[simp] theorem closing_setStream : (b.setStream stream source).closing = b.closing := by cases source <;> rfl

@[simp] theorem closing_setForwarder : (b.setForwarder point source).closing = b.closing := by cases source <;> rfl

@[simp] theorem closing_setClosing : (b.setClosing closing).closing = closing := rfl

@[simp] theorem closing_setRunPoint : (b.setRunPoint runPoint).closing = b.closing := rfl

@[simp] theorem runPoint_setStream : (b.setStream stream source).runPoint = b.runPoint := by cases source <;> rfl

@[simp] theorem runPoint_setForwarder : (b.setForwarder point source).runPoint = b.runPoint := by cases source <;> rfl

@[simp] theorem runPoint_setClosing : (b.setClosing closing).runPoint = b.runPoint := rfl

@[simp] theorem runPoint_setRunPoint : (b.setRunPoint runPoint).runPoint = runPoint := rfl

end

end WebSocketBridge

abbrev bridgeMachine : Machine WebSocketBridge BridgeLabel := ⟨.init, WebSocketBridge.step⟩

end Gr4ControlPlane
