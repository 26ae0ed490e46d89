import Gr4ControlPlane.Interleaving.System
import Gr4ControlPlane.Domain.SessionStream

open Gr4ControlPlane.Interleaving

namespace Gr4ControlPlane

/-- What a C++ call may throw: a `std::exception` with its text, or anything else. -/
inductive Thrown
  | exception (what : Bytes)
  | unknown
  deriving DecidableEq

/-- The lifecycle part of the `RuntimeManager` interface, as programs over the commands
of an implementation. -/
structure RuntimeManager (R : Interface) where
  prepare : Session → Action R Thrown Unit
  start : Session → Action R Thrown Unit
  stop : Session → Action R Thrown Unit
  destroy : Session → Action R Thrown Unit

/-- The state an implementation keeps and what its commands do to it. -/
structure RuntimeMachine (R : Interface) where
  State : Type
  Env : Type
  init : State
  exec : (c : R.Cmd) → Env → State → Option (R.Ans c × State)

inductive RuntimeCall
  | prepare | start | stop | destroy
  deriving DecidableEq

def RuntimeManager.call {R : Interface} (rm : RuntimeManager R) :
    RuntimeCall → Session → Action R Thrown Unit
  | .prepare => rm.prepare
  | .start => rm.start
  | .stop => rm.stop
  | .destroy => rm.destroy

structure HttpStreamResponse where
  status : Int
  body : Bytes
  contentType : Bytes
  deriving DecidableEq

structure WebSocketStreamRoute where
  internal : InternalStreamBinding
  deriving DecidableEq

/-- The stream part of the `RuntimeManager` interface, each call one command. -/
inductive StreamCall
  | activeStreamPlan (session : Session)
  | fetchHttpStream (session : Session) (streamId : Bytes)
  | resolveWebsocketStream (session : Session) (streamId : Bytes)
  deriving DecidableEq

def StreamCall.session : StreamCall → Session
  | .activeStreamPlan session | .fetchHttpStream session _ | .resolveWebsocketStream session _ => session

abbrev streamInterface : Interface where
  Cmd := StreamCall
  Ans
    | .activeStreamPlan _ => Except Thrown (Option StreamRuntimePlan)
    | .fetchHttpStream .. => Except Thrown HttpStreamResponse
    | .resolveWebsocketStream .. => Except Thrown WebSocketStreamRoute

structure StreamMachine {R : Interface} (M : RuntimeMachine R) where
  exec : (c : StreamCall) → M.Env → M.State → Option (streamInterface.Ans c × M.State)

end Gr4ControlPlane
