import Gr4ControlPlane.App.StreamPlans
import Gr4ControlPlane.Interleaving.Progress

open Gr4ControlPlane.Interleaving

namespace Gr4ControlPlane.SessionService

variable {R : Interface} {W G : Type} {rm : RuntimeManager R} {M : RuntimeMachine R} {O : RuntimeOwnership M W G}
  {c : Config (system rm M)} {yaml : YamlPmt}

theorem ownership_ready (hready : O.Ready) : (ownership rm O).Ready := ⟨exec_isSome hready⟩

/-- The calls under way can go on, and do not go on for ever. -/
structure Progresses (c : Config (system rm M)) : Prop where
  unblocked : c.Unblocked
  finite : ¬ ∃ f : Nat → Config (system rm M), f 0 = c ∧ ∀ n, (f n).Continues (f (n + 1))
  drains : ∀ answer : Config (system rm M) → Nat → Env M.Env, ∃ ls d,
    (∀ l ∈ ls, ∃ c' i, l = .run i (answer c' i)) ∧ c.run ls = some d ∧ Reachable rm M d ∧
    d.threads.map (·.op) = c.threads.map (·.op) ∧ ∀ th ∈ d.threads, th.active = false

theorem progresses_of (hfree : ∀ c : Config (system rm M), Reachable rm M c → c.Unblocked) (h : Reachable rm M c) :
    Progresses c where
  unblocked := hfree c h
  finite := c.continues_finite
  drains answer := by
    obtain ⟨ls, d, hls, hrun, hd, hend⟩ :=
      Config.drains (fun hc ⟨_, _, hs⟩ => hc.step hs trivial) hfree answer h
    refine ⟨ls, d, hls, hrun, hd, Config.run_ops (fun l hl => ?_) hrun, hend⟩
    obtain ⟨c', i, rfl⟩ := hls l hl
    exact ⟨i, _, rfl⟩

theorem stubOwnership_ready : stubOwnership.Ready := by
  intro x c e σ g t _ _
  cases c <;> rfl

/-- No interleaving of lifecycle calls deadlocks. -/
theorem lifecycle_progresses :
    (∀ c : Config (gr4Service yaml), Reachable (gr4RuntimeManager yaml) gr4Machine c → Progresses c) ∧
    ∀ d : Config (stubService yaml), Reachable (stubRuntimeManager yaml) stubMachine d → Progresses d := by
  constructor
  · refine fun c h => progresses_of (fun c h => ?_) h
    obtain ⟨owners, hown⟩ := reach_gr4Owned h
    exact hown.unblocked (ownership_ready (gr4Ownership_ready anyRun _))
  · refine fun d h => progresses_of (fun d h => ?_) h
    obtain ⟨g, hown⟩ := reach_stubOwned h
    exact hown.unblocked (ownership_ready stubOwnership_ready)

open Gr4RuntimeManager in
def twoStartsRun : List (Label (gr4Service demoYaml)) :=
  [.invoke (.create 7 (ascii "left") demoGraph none) ⟨1, demoEnv 0⟩,
    .invoke (.create 8 (ascii "right") demoGraph none) ⟨1, demoEnv 0⟩,
    .invoke (.lifecycle .start (generateSessionId 7)) ⟨2, demoEnv 0⟩,
    .invoke (.lifecycle .start (generateSessionId 8)) ⟨2, demoEnv 0⟩] ++
    [2, 3, 3, 2, 2, 3].map fun i => .run i ⟨3, demoEnv 0⟩

def twoStarts : Config (gr4Service Gr4RuntimeManager.demoYaml) :=
  (Config.run ⟨(empty, .init), []⟩ twoStartsRun).get (by decide +kernel)

theorem reachable_twoStarts : Reachable (gr4RuntimeManager Gr4RuntimeManager.demoYaml) gr4Machine twoStarts :=
  .of_run .init (Option.some_get _).symm

attribute [irreducible] twoStarts

theorem lifecycle_progresses_twoStarts :
    twoStarts.threads.map (·.active) = [false, false, true, true] ∧ Progresses twoStarts :=
  ⟨by decide +kernel, lifecycle_progresses.1 twoStarts reachable_twoStarts⟩

end Gr4ControlPlane.SessionService
