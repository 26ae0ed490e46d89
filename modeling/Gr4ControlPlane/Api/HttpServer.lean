import Gr4ControlPlane.Api.BridgeClosing

/-! The threads of `HttpServer`: the one in `listen_after_bind`, one for each connection, the
threads of the websocket bridges, and whoever calls `stop`. -/

open Gr4ControlPlane.Interleaving

namespace Gr4ControlPlane

inductive ListenPoint
  | idle
  | starting
  | enabling
  | checking
  | accepting
  | spawning
  | collecting
  | joining (threads : List Nat)
  | finishing
  | joiningInternal
  | returned
  | threw
  deriving DecidableEq

inductive StopPoint
  | exchanging
  | stoppingInternal
  | closingAcceptor
  | snapshotting
  | closing (bridges : List Nat)
  | inClose (bridge call : Nat) (bridges : List Nat)
  | collecting
  | joining (threads : List Nat)
  | finishing
  | joiningInternal
  | returned
  | threw
  deriving DecidableEq

/-- Where `handle_connection` stands, most of it in `handle_websocket_upgrade`. -/
inductive ConnectionPoint
  | reading
  | proxying
  | resolving
  | attaching
  | accepting
  | registering
  | bridging
  | erasing
  | returned
  deriving DecidableEq

structure Connection where
  point : ConnectionPoint
  bridge : WebSocketBridge
  deriving DecidableEq

def Connection.registered (c : Connection) : Bool :=
  c.point = .bridging || c.point = .erasing || (c.point = .returned && c.bridge.returned)

inductive AcceptIo
  | accepted | retry | aborted | failed
  deriving DecidableEq

inductive ConnectionIo
  | plain | upgrade | succeeds | fails
  deriving DecidableEq

structure HttpServer where
  stopping : Bool
  acceptorOpen : Bool
  /-- Whether `internal_thread_` can be joined. -/
  internalThread : Bool
  /-- Whether the internal server is listening. -/
  internalServing : Bool
  listener : ListenPoint
  stops : List StopPoint
  connectionThreads : List Nat
  /-- Every connection thread that was ever started. -/
  connections : List Connection
  activeBridges : List Nat
  deriving DecidableEq

inductive ServerLabel
  | callListen
  | callStop
  | listen (io : AcceptIo)
  /-- `order` is how `active_bridges_` happens to be sorted. -/
  | stop (i : Nat) (order : List Nat)
  | connection (k : Nat) (io : ConnectionIo)
  | bridge (k : Nat) (l : BridgeLabel)
  deriving DecidableEq

namespace HttpServer

def init : HttpServer := ⟨true, true, false, false, .idle, [], [], [], []⟩

variable (s : HttpServer)

def connectionReturned (k : Nat) : Bool := (s.connections[k]?).any fun c => c.point = .returned

def setListener (point : ListenPoint) : HttpServer := { s with listener := point }

def setStop (i : Nat) (point : StopPoint) : HttpServer := { s with stops := s.stops.set i point }

def setConnection (k : Nat) (c : Connection) : HttpServer := { s with connections := s.connections.set k c }

/-- `internal_thread_.join()`, which waits for the internal server and throws when somebody else
has joined the thread since `joinable` was called; tells whether it returned. -/
def joinInternal : Option (Bool × HttpServer) :=
  if s.internalThread && s.internalServing then none
  else some (s.internalThread, { s with internalThread := false })

def listenStep (io : AcceptIo) : Option HttpServer :=
  match s.listener with
  | .idle | .returned | .threw => none
  | .starting =>
    some { s with internalThread := true, internalServing := s.internalServing || !s.internalThread, listener := .enabling }
  | .enabling => some { s with stopping := false, listener := .checking }
  | .checking => some (s.setListener (if s.stopping then .collecting else .accepting))
  | .accepting =>
    match io with
    | .accepted => if s.acceptorOpen then some (s.setListener .spawning) else none
    | .retry => some (s.setListener .checking)
    | .aborted => some (s.setListener .collecting)
    | .failed => some (s.setListener (if s.stopping then .collecting else .checking))
  | .spawning =>
    some { s with
      connectionThreads := s.connectionThreads ++ [s.connections.length]
      connections := s.connections ++ [⟨.reading, .init⟩]
      listener := .checking }
  | .collecting => some { s with connectionThreads := [], listener := .joining s.connectionThreads }
  | .joining [] => some (s.setListener .finishing)
  | .joining (k :: threads) => if s.connectionReturned k then some (s.setListener (.joining threads)) else none
  | .finishing => some (s.setListener (if s.internalThread then .joiningInternal else .returned))
  | .joiningInternal =>
    s.joinInternal.map fun (joined, s) => s.setListener (if joined then .returned else .threw)

def stopStep (i : Nat) (order : List Nat) : Option HttpServer :=
  s.stops[i]?.bind fun
    | .exchanging =>
      some (if s.stopping then s.setStop i .returned else { s with stopping := true }.setStop i .stoppingInternal)
    | .stoppingInternal => some ({ s with internalServing := false }.setStop i .closingAcceptor)
    | .closingAcceptor => some ({ s with acceptorOpen := false }.setStop i .snapshotting)
    | .snapshotting => if order.Perm s.activeBridges then some (s.setStop i (.closing order)) else none
    | .closing [] => some (s.setStop i .collecting)
    | .closing (k :: bridges) =>
      s.connections[k]?.map fun c =>
        (s.setConnection k ⟨c.point, c.bridge.setClosing c.bridge.closing.call⟩).setStop i
          (.inClose k c.bridge.closing.calls.length bridges)
    | .inClose k call bridges =>
      if (s.connections[k]?).any (·.bridge.callReturned call) then some (s.setStop i (.closing bridges)) else none
    | .collecting => some ({ s with connectionThreads := [] }.setStop i (.joining s.connectionThreads))
    | .joining [] => some (s.setStop i .finishing)
    | .joining (k :: threads) => if s.connectionReturned k then some (s.setStop i (.joining threads)) else none
    | .finishing => some (s.setStop i (if s.internalThread then .joiningInternal else .returned))
    | .joiningInternal =>
      s.joinInternal.map fun (joined, s) => s.setStop i (if joined then .returned else .threw)
    | .returned | .threw => none

def connectionStep (k : Nat) (io : ConnectionIo) : Option HttpServer :=
  s.connections[k]?.bind fun c =>
    let goto (point : ConnectionPoint) := s.setConnection k { c with point := point }
    match c.point, io with
    | .reading, .plain => some (goto .proxying)
    | .reading, .upgrade => some (goto .resolving)
    | .resolving, .succeeds => some (goto .attaching)
    | .attaching, .succeeds => some (goto .accepting)
    | .accepting, .succeeds => some (goto .registering)
    | .reading, .fails | .resolving, .fails | .attaching, .fails | .accepting, .fails => some (goto .returned)
    | .proxying, _ => some (goto .returned)
    | .registering, _ => some { goto .bridging with activeBridges := s.activeBridges ++ [k] }
    | .bridging, _ => if c.bridge.returned then some (goto .erasing) else none
    | .erasing, _ => some { goto .returned with activeBridges := s.activeBridges.erase k }
    | _, _ => none

def bridgeStep (k : Nat) (l : BridgeLabel) : Option HttpServer :=
  s.connections[k]?.bind fun c =>
    if l.own && c.registered then
      (c.bridge.step l).map fun bridge => s.setConnection k ⟨c.point, bridge⟩
    else none

def step : ServerLabel → Option HttpServer
  | .callListen => if s.listener = .idle then some (s.setListener .starting) else none
  | .callStop => some { s with stops := s.stops ++ [.exchanging] }
  | .listen io => s.listenStep io
  | .stop i order => s.stopStep i order
  | .connection k io => s.connectionStep k io
  | .bridge k l => s.bridgeStep k l

end HttpServer

abbrev serverMachine : Machine HttpServer ServerLabel := ⟨.init, HttpServer.step⟩

end Gr4ControlPlane
