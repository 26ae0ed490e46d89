import Gr4ControlPlane.Runtime.RuntimeManager

open Gr4ControlPlane.Interleaving

namespace Gr4ControlPlane

structure RuntimeEvent where
  call : RuntimeCall
  session : Bytes
  outcome : Except Thrown Unit
  deriving DecidableEq

abbrev outcomeInterface : Interface where
  Cmd := RuntimeCall × Session
  Ans _ := Except Thrown Unit

def outcomeRuntime : RuntimeManager outcomeInterface where
  prepare session := Action.perform (.prepare, session) fun r => r
  start session := Action.perform (.start, session) fun r => r
  stop session := Action.perform (.stop, session) fun r => r
  destroy session := Action.perform (.destroy, session) fun r => r

abbrev outcomeMachine : RuntimeMachine outcomeInterface where
  State := List RuntimeEvent
  Env := Except Thrown Unit
  init := []
  exec c outcome seen := some (outcome, seen ++ [⟨c.1, c.2.id, outcome⟩])

theorem outcomeRuntime_call (call : RuntimeCall) (session : Session) :
    outcomeRuntime.call call session = Action.perform (call, session) fun r => r := by
  cases call <;> rfl

inductive ReceivedCall
  | lifecycle (call : RuntimeCall) (session : Session)
  | stream (call : StreamCall)
  deriving DecidableEq

def ReceivedCall.session : ReceivedCall → Bytes
  | .lifecycle _ s => s.id
  | .stream c => c.session.id

/-- A runtime manager whose answer for a session depends on the calls it has received for that
session, and on what its environment does; `none` while the call is not done. -/
structure HistoryRuntime (E : Type) where
  outcome : List ReceivedCall → RuntimeCall → Session → E → Option (Except Thrown Unit)
  answer : List ReceivedCall → (c : StreamCall) → E → Option (streamInterface.Ans c)

namespace HistoryRuntime

variable {E : Type} (H : HistoryRuntime E)

abbrev machine : RuntimeMachine outcomeInterface where
  State := List ReceivedCall
  Env := E
  init := []
  exec c e seen := (H.outcome (seen.filter (·.session = c.2.id)) c.1 c.2 e).map
    fun r => (r, seen ++ [.lifecycle c.1 c.2])

abbrev streams : StreamMachine H.machine where
  exec c e seen := (H.answer (seen.filter (·.session = c.session.id)) c e).map
    fun r => (r, seen ++ [.stream c])

end HistoryRuntime

end Gr4ControlPlane
