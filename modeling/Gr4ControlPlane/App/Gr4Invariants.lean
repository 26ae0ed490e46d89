import Gr4ControlPlane.App.Gr4Contract
import Gr4ControlPlane.App.SessionInvariants
import Gr4ControlPlane.Runtime.Gr4Ports

open Gr4ControlPlane.Interleaving

namespace Gr4ControlPlane

namespace SessionService

variable {yaml : YamlPmt} {P : Gr4Policy} {x : Bytes}

abbrev gr4Service (yaml : YamlPmt) : System (serviceInterface.sum gr4Interface) :=
  system (gr4RuntimeManager yaml) gr4Machine

variable {c c' : Config (gr4Service yaml)} {owners : PortOwners}

abbrev Gr4Owned (P : Gr4Policy) (c : Config (gr4Service yaml)) (owners : PortOwners) : Prop :=
  Owned (ownership (gr4RuntimeManager yaml) (gr4Ownership P (sessionGraphs yaml))) (discipline (gr4Contract P yaml)) c owners

abbrev anyRun : Gr4Policy := ⟨False, False, False, False⟩

theorem reach_gr4Owned (h : Reachable (gr4RuntimeManager yaml) gr4Machine c) :
    ∃ owners, Gr4Owned anyRun c owners := by
  refine reach_owned (fun _ th hth ev t _ => ?_) (fun _ _ _ _ => sessionBegins_of _ (fun _ _ _ _ => False.elim) _ _) h
  obtain ⟨cmd | cmd, r⟩ := ev
  · trivial
  · exact ⟨False.elim, False.elim, False.elim⟩

theorem Gr4Owned.idle_rest (hown : Gr4Owned P c owners) (hidle : ¬ ∃ i, UnderWay c x i)
    (h : Reachable (gr4RuntimeManager yaml) gr4Machine c) :
    Gr4Rest P yaml (c.shared.1.repository.get x) (c.shared.2.view x owners) :=
  (hown.idle x fun hbusy => hidle ((busy_iff_underWay h).mp hbusy)).2

theorem Gr4Owned.idle_tidy (hown : Gr4Owned P c owners) (hidle : ¬ ∃ i, UnderWay c x i)
    (h : Reachable (gr4RuntimeManager yaml) gr4Machine c) {a : Nat} {r : SessionRuntimeResources}
    (hr : c.shared.2.entry x = some (a, r)) :
    r.Tidy P (graphsOf yaml (c.shared.1.repository.get x)) (owners x) false := by
  have hrest := (hown.idle_rest hidle h).rest
  rw [show c.shared.2.view x owners = ⟨some (a, r), owners x⟩ from Gr4View.ext hr rfl] at hrest
  cases hrest with
  | present ht => exact ht

/-- What the manager keeps of a session that is not being worked on, in terms of what the
service has stored about it. -/
structure Agrees (c : Config (gr4Service yaml)) (x : Bytes) : Prop where
  stopped : ∀ s, c.shared.1.repository.get x = some s → s.state = .stopped →
    ∀ a r, c.shared.2.entry x = some (a, r) → r.execution = none ∧ r.streamBindings = []
  running : ∀ s, c.shared.1.repository.get x = some s → s.state = .running →
    ∃ a r execution, c.shared.2.entry x = some (a, r) ∧ r.execution = some execution ∧
      execution.running = true ∧ r.lifecyclePhase = .running
  removed : c.shared.1.repository.get x = none → c.shared.2.resources.lookup x = none

theorem state_agrees (h : Reachable (gr4RuntimeManager yaml) gr4Machine c) :
    (∀ x, (¬ ∃ i, UnderWay c x i) → Agrees c x) ∧
      ∀ a r, c.shared.2.heap[a]? = some r → r.execution ≠ none ∨ r.streamBindings ≠ [] →
        ∃ x, c.shared.2.entry x = some (a, r) := by
  obtain ⟨owners, hown⟩ := reach_gr4Owned h
  have hgood : c.shared.2.Good owners := hown.good
  constructor
  · intro x hidle
    have hrest := hown.idle_rest hidle h
    constructor
    · intro s hs hstate a r hr
      have hshows := hrest.shows s hs
      rw [hstate] at hshows
      exact ⟨(hshows a r hr).execution, (hshows a r hr).streamBindings⟩
    · intro s hs hstate
      have hshows := hrest.shows s hs
      rw [hstate] at hshows
      obtain ⟨a, r, hr, hphase, execution, hx, hrun⟩ := hshows
      exact ⟨a, r, execution, hr, hx, hrun, hphase⟩
    · exact fun hnone => (Gr4State.entry_eq_none hgood).mp (hrest.absent hnone)
  · intro a r hr hkept
    refine ⟨r.sessionId, Gr4State.entry_iff.mpr ⟨?_, hr⟩⟩
    by_contra horphan
    have hvacant := hgood.orphans a r hr horphan
    exact hkept.elim (· hvacant.execution) (· hvacant.streamBindings)

open Gr4RuntimeManager in
def runningRun : List (Label (gr4Service demoYaml)) :=
  [.invoke (.create 7 (ascii "demo") demoGraph none) ⟨1, demoEnv 0⟩,
    .invoke (.lifecycle .start (generateSessionId 7)) ⟨2, demoEnv 0⟩] ++
    List.replicate 6 (.run 1 ⟨3, demoEnv 0⟩) ++
    [.run 1 ⟨3, demoEnv 40001⟩, .run 1 ⟨3, demoEnv 40002⟩] ++
    List.replicate 15 (.run 1 ⟨4, demoEnv 0⟩)

def runningConfig : Config (gr4Service Gr4RuntimeManager.demoYaml) :=
  (Config.run ⟨(empty, .init), []⟩ runningRun).get (by decide +kernel)

theorem reachable_runningConfig : Reachable (gr4RuntimeManager Gr4RuntimeManager.demoYaml) gr4Machine runningConfig :=
  .of_run .init (Option.some_get _).symm

attribute [irreducible] runningConfig

theorem runningConfig_idle : ∀ th ∈ runningConfig.threads, th.active = false := by decide +kernel

theorem state_agrees_running :
    (runningConfig.shared.1.repository.get (generateSessionId 7)).map (·.state) = some .running ∧
      Agrees runningConfig (generateSessionId 7) :=
  ⟨by decide +kernel, (state_agrees reachable_runningConfig).1 _ (not_underWay runningConfig_idle)⟩

end SessionService

end Gr4ControlPlane
