import Gr4ControlPlane.App.Gr4Streams
import Gr4ControlPlane.Runtime.StubRuntimeManager

open Gr4ControlPlane.Interleaving

namespace Gr4ControlPlane

variable {yaml : YamlPmt} {s : Session} {v : StubView}

def StubRest (yaml : YamlPmt) (record : Option Session) (v : StubView) : Prop :=
  ∀ s, record = some s → s.state = .running → (v.getD []).map (·.plan) = derivedStreams yaml s

namespace StubRuntimeManager

variable {t : Trace stubInterface} {Q : Except Thrown Unit → StubView → Trace stubInterface → Prop}

theorem startCalls_wp {session : Session} (hs : session.SameOrigin s) :
    (SessionService.startCalls (stubRuntimeManager yaml) session).wp (stubLocal session.id)
      (fun r v' _ => r = .ok () → (v'.getD []).map (·.plan) = derivedStreams yaml s) v t := by
  refine Action.wp_seq (Action.wp_mono ?_ prepare_wp)
  rintro (thrown | ⟨⟩) v t h
  · exact fun hok => by cases hok
  · exact fun _ => (h rfl).trans hs.derivedStreams.symm

theorem destroy_wp {session : Session} (hQ : ∀ t, Q (.ok ()) none t) :
    ((stubRuntimeManager yaml).destroy session).wp (stubLocal session.id) Q v t := by
  apply Action.wp_seq
  apply releaseStreams_wp
  intro t
  exact call_wp (fun _ h => (Option.some.inj h).symm) fun _ t _ => hQ t

theorem stopIfRunning_wp {Q : Except Thrown Session → StubView → Trace stubInterface → Prop}
    (hQ : ∀ session v t, session.id = s.id → session.SameOrigin s → Q (.ok session) v t) :
    (SessionService.stopIfRunning (stubRuntimeManager yaml) s).wp (stubLocal s.id) Q v t := by
  unfold SessionService.stopIfRunning
  split
  · exact Action.wp_seq (releaseStreams_wp fun t => hQ _ _ t rfl ⟨rfl, rfl, rfl, rfl, rfl⟩)
  · exact hQ s v t rfl (.refl s)

theorem runtimeCalls_wp (op : Operation) :
    (SessionService.runtimeCalls (stubRuntimeManager yaml) op s).wp (stubLocal s.id)
      (fun r v' _ => r = .ok () → StubRest yaml (op.outcome s) v') v t := by
  cases op with
  | start =>
    refine Action.wp_mono ?_ (startCalls_wp (.refl s))
    rintro r v t h hok _ ⟨⟩ _
    exact h hok
  | stop =>
    refine releaseStreams_wp fun t _ => ?_
    rintro _ ⟨⟩ hrun
    cases hrun
  | restart =>
    apply Action.wp_seq
    apply stopIfRunning_wp
    intro session v t hid hs
    refine Action.wp_seq (hid ▸ destroy_wp fun t => ?_)
    refine Action.wp_mono ?_ (startCalls_wp hs)
    rintro r v t h hok _ ⟨⟩ _
    exact h hok
  | remove =>
    apply Action.wp_seq
    apply stopIfRunning_wp
    intro session v t hid hs
    refine hid ▸ destroy_wp fun t _ => ?_
    rintro _ ⟨⟩

end StubRuntimeManager

def stubContract (yaml : YamlPmt) : RuntimeContract (stubRuntimeManager yaml) stubOwnership where
  rest := StubRest yaml
  begins _ _ _ := True
  failed _ _ _ := True
  congr hs hstate h := by
    rintro _ ⟨⟩ hrun
    rw [h _ rfl (hstate ▸ hrun), hs.derivedStreams]
  created hstate _ := by
    rintro _ ⟨⟩ hrun
    cases hstate.symm.trans hrun
  initial := ⟨(), trivial, fun _ _ h => by cases h⟩
  calls op s v _ _ _ := by
    refine Action.wp_mono ?_ (StubRuntimeManager.runtimeCalls_wp op)
    rintro (thrown | ⟨⟩) v t h
    · refine ⟨?_, trivial⟩
      rintro _ ⟨⟩ hrun
      cases hrun
    · exact h rfl

namespace SessionService

abbrev stubService (yaml : YamlPmt) : System (serviceInterface.sum stubInterface) :=
  system (stubRuntimeManager yaml) stubMachine

variable {c : Config (gr4Service yaml)} {d : Config (stubService yaml)} {x : Bytes}

theorem reach_stubOwned (h : Reachable (stubRuntimeManager yaml) stubMachine d) :
    ∃ g, Owned (ownership (stubRuntimeManager yaml) stubOwnership) (discipline (stubContract yaml)) d g := by
  refine reach_owned (fun _ th hth ev t _ => ?_) (fun _ _ _ _ => sessionBegins_of _ (fun _ _ _ => trivial) _ _) h
  obtain ⟨cmd | cmd, r⟩ := ev <;> trivial

theorem stubActiveStreamPlan_idle (h : Reachable (stubRuntimeManager yaml) stubMachine d)
    (hidle : ¬ ∃ i, UnderWay d x i) (hs : d.shared.1.repository.get x = some s) :
    d.shared.1.activeStreamPlan d.shared.2.activeStreamPlan x =
      .ok (if s.state = .running then deriveStreamRuntimePlan yaml s else none) := by
  obtain ⟨g, hown⟩ := reach_stubOwned h
  obtain ⟨hslot, hrest⟩ := hown.idle x fun hbusy => hidle ((busy_iff_underWay h).mp hbusy)
  have hid : s.id = x := InMemorySessionRepository.id_of_get hs
  rw [activeStreamPlan_atRest hslot hs]
  by_cases hrun : s.state = .running
  · have hplans : (d.shared.2.bindings x).map (·.plan) = derivedStreams yaml s := hrest s hs hrun
    rw [if_pos hrun, if_pos hrun, StubState.activeStreamPlan_eq, deriveStreamRuntimePlan_eq, hid, ← hplans]
    simp
  · rw [if_neg hrun, if_neg hrun]

/-- Over either manager a service at rest reports the plan of its stored record, for a running
session only; so the managers cannot be told apart by it. -/
theorem activeStreamPlan_derived (hc : Reachable (gr4RuntimeManager yaml) gr4Machine c)
    (hd : Reachable (stubRuntimeManager yaml) stubMachine d) :
    (∀ x s, (¬ ∃ i, UnderWay c x i) → c.shared.1.repository.get x = some s →
      c.shared.1.activeStreamPlan c.shared.2.activeStreamPlan x =
        .ok (if s.state = .running then deriveStreamRuntimePlan yaml s else none)) ∧
    (∀ x s, (¬ ∃ i, UnderWay d x i) → d.shared.1.repository.get x = some s →
      d.shared.1.activeStreamPlan d.shared.2.activeStreamPlan x =
        .ok (if s.state = .running then deriveStreamRuntimePlan yaml s else none)) ∧
    ∀ x s s', (¬ ∃ i, UnderWay c x i) → (¬ ∃ i, UnderWay d x i) →
      c.shared.1.repository.get x = some s → d.shared.1.repository.get x = some s' →
      s.grcContent = s'.grcContent → s.state = s'.state →
      c.shared.1.activeStreamPlan c.shared.2.activeStreamPlan x =
        d.shared.1.activeStreamPlan d.shared.2.activeStreamPlan x := by
  refine ⟨fun x s hidle hs => activeStreamPlan_idle hc hidle hs,
    fun x s hidle hs => stubActiveStreamPlan_idle hd hidle hs, ?_⟩
  intro x s s' hcidle hdidle hs hs' hgrc hstate
  have hid : s.id = s'.id :=
    (InMemorySessionRepository.id_of_get hs).trans (InMemorySessionRepository.id_of_get hs').symm
  rw [activeStreamPlan_idle hc hcidle hs, stubActiveStreamPlan_idle hd hdidle hs', hstate,
    deriveStreamRuntimePlan_congr hid hgrc]

open Gr4RuntimeManager in
def stubRun : List (Label (stubService demoYaml)) :=
  [.invoke (.create 7 (ascii "demo") demoGraph none) ⟨1, fun _ => .ok 0⟩,
    .invoke (.lifecycle .start (generateSessionId 7)) ⟨2, fun _ => .ok 0⟩,
    .run 1 ⟨3, fun _ => .ok 0⟩, .run 1 ⟨3, fun _ => .ok 0⟩,
    .run 1 ⟨3, fun _ => .ok 40001⟩, .run 1 ⟨3, fun _ => .ok 0⟩,
    .run 1 ⟨3, fun _ => .ok 40002⟩, .run 1 ⟨3, fun _ => .ok 0⟩, .run 1 ⟨4, fun _ => .ok 0⟩]

def stubConfig : Config (stubService Gr4RuntimeManager.demoYaml) :=
  (Config.run ⟨(empty, .init), []⟩ stubRun).get (by decide +kernel)

theorem reachable_stubConfig :
    Reachable (stubRuntimeManager Gr4RuntimeManager.demoYaml) stubMachine stubConfig :=
  .of_run .init (Option.some_get _).symm

attribute [irreducible] stubConfig

theorem stubConfig_idle : ∀ th ∈ stubConfig.threads, th.active = false := by decide +kernel

def stubSession : Session :=
  (stubConfig.shared.1.repository.get (generateSessionId 7)).get (by decide +kernel)

theorem stubSession_running : stubSession.state = .running := by decide +kernel

theorem stubSession_stored : stubConfig.shared.1.repository.get (generateSessionId 7) = some stubSession :=
  (Option.some_get _).symm

theorem stubSession_grcContent : runningSession.grcContent = stubSession.grcContent := by decide +kernel

attribute [irreducible] stubSession

theorem activeStreamPlan_derived_running :
    runningConfig.shared.1.activeStreamPlan runningConfig.shared.2.activeStreamPlan (generateSessionId 7) =
      stubConfig.shared.1.activeStreamPlan stubConfig.shared.2.activeStreamPlan (generateSessionId 7) :=
  (activeStreamPlan_derived reachable_runningConfig reachable_stubConfig).2.2 _ _ _
    (not_underWay runningConfig_idle) (not_underWay stubConfig_idle) runningSession_stored stubSession_stored
    stubSession_grcContent (runningSession_running.trans stubSession_running.symm)

end SessionService

end Gr4ControlPlane
