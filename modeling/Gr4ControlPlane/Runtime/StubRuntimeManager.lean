import Gr4ControlPlane.Domain.SessionStreamLaws
import Gr4ControlPlane.Runtime.RuntimeOwnership
import Gr4ControlPlane.Runtime.StreamBindingAllocator
import Mathlib.Data.Finmap

open Gr4ControlPlane.Interleaving

namespace Gr4ControlPlane

structure StubState where
  streamAllocator : StreamBindingAllocator
  streamBindings : Finmap fun _ : Bytes => List RuntimeStreamBinding
  settings : Finmap fun _ : Bytes => Finmap fun _ : Bytes => PropertyMap

inductive StubCmd
  | findBindings (id : Bytes)
  | openBindings (id : Bytes)
  | pushBinding (id : Bytes) (binding : RuntimeStreamBinding)
  | eraseBindings (id : Bytes)
  | eraseSettings (id : Bytes)
  | allocate (transport : Bytes)
  | release (binding : InternalStreamBinding)

abbrev stubInterface : Interface where
  Cmd := StubCmd
  Ans
    | .findBindings _ => Option (List RuntimeStreamBinding)
    | .openBindings _ | .pushBinding .. | .eraseBindings _ | .eraseSettings _ | .release _ => Unit
    | .allocate _ => Except Bytes InternalStreamBinding

namespace StubState

def init : StubState := ⟨⟨∅⟩, ∅, ∅⟩

variable (σ : StubState)

/-- `stream_bindings_[id]` -/
def bindings (id : Bytes) : List RuntimeStreamBinding := (σ.streamBindings.lookup id).getD []

def exec (reserve : Reservations) (σ : StubState) : (c : StubCmd) → Option (stubInterface.Ans c × StubState)
  | .findBindings id => some (σ.streamBindings.lookup id, σ)
  | .openBindings id => some ((), { σ with streamBindings := σ.streamBindings.insert id (σ.bindings id) })
  | .pushBinding id binding =>
    some ((), { σ with streamBindings := σ.streamBindings.insert id (σ.bindings id ++ [binding]) })
  | .eraseBindings id => some ((), { σ with streamBindings := σ.streamBindings.erase id })
  | .eraseSettings id => some ((), { σ with settings := σ.settings.erase id })
  | .allocate transport =>
    let (binding, streamAllocator) := σ.streamAllocator.allocate reserve transport
    some (binding, { σ with streamAllocator := streamAllocator })
  | .release binding => some ((), { σ with streamAllocator := σ.streamAllocator.release binding })

def activeStreamPlan (session : Session) : Option StreamRuntimePlan :=
  match σ.streamBindings.lookup session.id with
  | none | some [] => none
  | some bindings => some ⟨bindings.map (·.plan)⟩

end StubState

abbrev stubMachine : RuntimeMachine stubInterface where
  State := StubState
  Env := Reservations
  init := .init
  exec c reserve σ := σ.exec reserve c

namespace StubRuntimeManager

abbrev StubAction (α : Type) := Action stubInterface Thrown α

def call (c : StubCmd) : StubAction (stubInterface.Ans c) := Action.call (I := stubInterface) c

def allocate (transport : Bytes) : StubAction InternalStreamBinding :=
  Action.perform (I := stubInterface) (.allocate transport) fun r => r.mapError .exception

def releaseAll : List RuntimeStreamBinding → StubAction Unit
  | [] => pure ()
  | binding :: bindings => do
    call (.release binding.internal)
    releaseAll bindings

def releaseStreams (sessionId : Bytes) : StubAction Unit := do
  match ← call (.findBindings sessionId) with
  | none => return ()
  | some bindings =>
    releaseAll bindings
    call (.eraseBindings sessionId)

def pushStreams (sessionId : Bytes) : List RuntimeStreamBindingPlan → StubAction Unit
  | [] => pure ()
  | streamPlan :: streamPlans => do
    let internal ← allocate streamPlan.transport
    call (.pushBinding sessionId (streamBinding streamPlan internal))
    pushStreams sessionId streamPlans

variable (yaml : YamlPmt)

def prepare (session : Session) : StubAction Unit := do
  releaseStreams session.id
  match validateStreamRuntimeContract yaml session with
  | some contractError => throw (.exception contractError)
  | none =>
    match deriveStreamRuntimePlan yaml session with
    | none => return ()
    | some plan =>
      call (.openBindings session.id)
      pushStreams session.id plan.streams

def start (_ : Session) : StubAction Unit := return ()

def stop (session : Session) : StubAction Unit := releaseStreams session.id

def destroy (session : Session) : StubAction Unit := do
  releaseStreams session.id
  call (.eraseSettings session.id)

end StubRuntimeManager

def stubRuntimeManager (yaml : YamlPmt) : RuntimeManager stubInterface where
  prepare := StubRuntimeManager.prepare yaml
  start := StubRuntimeManager.start
  stop := StubRuntimeManager.stop
  destroy := StubRuntimeManager.destroy

abbrev StubView := Option (List RuntimeStreamBinding)

def StubCmd.session : StubCmd → Option Bytes
  | .findBindings id | .openBindings id | .pushBinding id _ | .eraseBindings id | .eraseSettings id => some id
  | .allocate _ | .release _ => none

def StubCmd.after : (c : StubCmd) → StubView → StubView
  | .openBindings _, v => some (v.getD [])
  | .pushBinding _ binding, v => some (v.getD [] ++ [binding])
  | .eraseBindings _, _ => none
  | .findBindings _, v | .eraseSettings _, v | .allocate _, v | .release _, v => v

def stubLocal (x : Bytes) : Local stubInterface StubView where
  pre c _ _ := ∀ id, c.session = some id → id = x
  post c v r v' := v' = c.after v ∧ match c, r with
    | .findBindings _, r => r = v
    | _, _ => True
  admits _ _ := True

namespace StubState

theorem exec_post {reserve : Reservations} {σ σ' : StubState} {c : StubCmd} {r : stubInterface.Ans c} {x : Bytes}
    (hpre : ∀ id, c.session = some id → id = x) (h : σ.exec reserve c = some (r, σ')) :
    (stubLocal x).post c (σ.streamBindings.lookup x) r (σ'.streamBindings.lookup x) ∧
      ∀ y, y ≠ x → σ'.streamBindings.lookup y = σ.streamBindings.lookup y := by
  cases c with
  | findBindings id =>
    obtain rfl := hpre id rfl
    cases h
    exact ⟨⟨rfl, rfl⟩, fun _ _ => rfl⟩
  | openBindings id =>
    obtain rfl := hpre id rfl
    cases h
    exact ⟨⟨Finmap.lookup_insert _, trivial⟩, fun y hy => Finmap.lookup_insert_of_ne _ hy⟩
  | pushBinding id binding =>
    obtain rfl := hpre id rfl
    cases h
    exact ⟨⟨Finmap.lookup_insert _, trivial⟩, fun y hy => Finmap.lookup_insert_of_ne _ hy⟩
  | eraseBindings id =>
    obtain rfl := hpre id rfl
    cases h
    exact ⟨⟨Finmap.lookup_erase _ _, trivial⟩, fun y hy => Finmap.lookup_erase_ne hy⟩
  | eraseSettings | allocate | release =>
    cases h
    exact ⟨⟨rfl, trivial⟩, fun _ _ => rfl⟩

end StubState

def stubOwnership : RuntimeOwnership stubMachine StubView Unit where
  view x σ _ := σ.streamBindings.lookup x
  good _ _ := True
  loc := stubLocal
  sound _ hpre hexec := ⟨(), trivial, StubState.exec_post hpre hexec⟩

namespace StubRuntimeManager

variable {α : Type} {x : Bytes} {v : StubView} {t : Trace stubInterface} {session : Session} {yaml : YamlPmt}
  {Q : Except Thrown Unit → StubView → Trace stubInterface → Prop}

theorem call_wp {c : StubCmd} {Q : Except Thrown (stubInterface.Ans c) → StubView → Trace stubInterface → Prop}
    (hpre : ∀ id, c.session = some id → id = x)
    (hQ : ∀ r t, (stubLocal x).post c v r (c.after v) → Q (.ok r) (c.after v) t) :
    (call c).wp (stubLocal x) Q v t := by
  refine Action.wp_call.mpr ⟨hpre, ?_⟩
  rintro r v' hpost -
  obtain rfl : v' = c.after v := hpost.1
  exact hQ r _ hpost

theorem releaseAll_wp {bindings : List RuntimeStreamBinding} (hQ : ∀ t, Q (.ok ()) v t) :
    (releaseAll bindings).wp (stubLocal x) Q v t := by
  induction bindings generalizing t with
  | nil => exact hQ t
  | cons binding bindings ih =>
    refine Action.wp_seq (call_wp nofun ?_)
    intro r t _
    exact ih

theorem releaseStreams_wp (hQ : ∀ t, Q (.ok ()) none t) : (releaseStreams x).wp (stubLocal x) Q v t := by
  refine Action.wp_seq (call_wp (fun _ h => (Option.some.inj h).symm) ?_)
  rintro r t ⟨-, rfl⟩
  cases r with
  | none => exact hQ t
  | some bindings =>
    apply Action.wp_seq
    apply releaseAll_wp
    intro t
    exact call_wp (fun _ h => (Option.some.inj h).symm) fun _ t _ => hQ t

theorem pushStreams_wp {streamPlans : List RuntimeStreamBindingPlan} :
    (pushStreams x streamPlans).wp (stubLocal x) (fun r v' _ => r = .ok () →
      (v'.getD []).map (·.plan) = (v.getD []).map (·.plan) ++ streamPlans.map ({ · with ready := true })) v t := by
  induction streamPlans generalizing v t with
  | nil => exact fun _ => (List.append_nil _).symm
  | cons streamPlan streamPlans ih =>
    refine Action.wp_seq (Action.wp_perform.mpr ⟨nofun, ?_⟩)
    rintro (what | internal) v' ⟨rfl, -⟩ -
    · exact fun h => by cases h
    · refine Action.wp_seq (call_wp (fun _ h => (Option.some.inj h).symm) fun _ t _ => ?_)
      refine Action.wp_mono ?_ ih
      intro r v' t h hok
      rw [h hok]
      simp [StubCmd.after, streamBinding]

theorem prepare_wp : (prepare yaml session).wp (stubLocal session.id)
    (fun r v' _ => r = .ok () → (v'.getD []).map (·.plan) = derivedStreams yaml session) v t := by
  apply Action.wp_seq
  apply releaseStreams_wp
  intro t
  dsimp only
  split
  · exact fun h => by cases h
  · split
    · next hplan => exact fun _ => by simp [derivedStreams, hplan]
    · next plan hplan =>
      have hstreams : derivedStreams yaml session = plan.streams := by simp [derivedStreams, hplan]
      refine Action.wp_seq (call_wp (fun _ h => (Option.some.inj h).symm) fun _ t _ => ?_)
      refine Action.wp_mono ?_ pushStreams_wp
      intro r v' t h hok
      rw [h hok, ← hstreams, derivedStreams_ready]
      rfl

end StubRuntimeManager

theorem StubState.activeStreamPlan_eq {σ : StubState} {session : Session} :
    σ.activeStreamPlan session =
      if (σ.bindings session.id).isEmpty then none else some ⟨(σ.bindings session.id).map (·.plan)⟩ := by
  unfold activeStreamPlan bindings
  cases σ.streamBindings.lookup session.id with
  | none => rfl
  | some bindings => cases bindings <;> rfl

end Gr4ControlPlane
