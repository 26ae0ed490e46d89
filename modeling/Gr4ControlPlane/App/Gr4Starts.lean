import Gr4ControlPlane.App.Gr4Invariants

open Gr4ControlPlane.Interleaving

namespace Gr4ControlPlane

/-- The session's scheduler threw when it was last told to stop, and still runs. -/
def Gr4State.halfStopped (σ : Gr4State) (x : Bytes) : Bool :=
  (σ.entry x).any fun e => decide (e.2.lifecyclePhase = .failed) && e.2.execution.any (·.running)

namespace SessionService

variable {yaml : YamlPmt} {c c' : Config (gr4Service yaml)} {owners : PortOwners} {x : Bytes}

theorem mayStart_of_halfStopped (h : c.shared.2.halfStopped x = false) :
    (c.shared.2.view x owners).MayStart := by
  intro a r hr hfailed execution hx
  have hr : c.shared.2.entry x = some (a, r) := hr
  simpa [Gr4State.halfStopped, hr, hfailed, hx] using h

theorem mayStart_of_live {v : Gr4View} (h : v.Live) : v.MayStart := by
  obtain ⟨a, r, hr, hphase, -⟩ := h
  intro a' r' hr' hfailed
  cases hr.symm.trans hr'
  cases hphase.symm.trans hfailed

/-- No `start` is admitted on a session that is half stopped. -/
def StartsSafely (c : Config (gr4Service yaml)) : Label (gr4Service yaml) → Config (gr4Service yaml) → Prop
  | .invoke (.lifecycle .start x) _, _ =>
    (c.shared.1.admitStart x).isOk = true → c.shared.2.halfStopped x = false
  | _, _ => True

def startsScheduler (th : Thread (gr4Service yaml)) : Option Nat :=
  match th.prog with
  | .step (.inr (.schedulerStart a)) _ => some a
  | _ => none

theorem startsScheduler_eq {th : Thread (gr4Service yaml)} {a : Nat} (h : startsScheduler th = some a) :
    ∃ k, th.prog = .step (.inr (.schedulerStart a)) k := by
  unfold startsScheduler at h
  split at h
  · next k hp =>
    cases h
    exact ⟨k, hp⟩
  · cases h

abbrev safeStarts : Gr4Policy := ⟨False, False, True, False⟩

theorem begins_safely (hown : Gr4Owned safeStarts c owners) {request : Request} {e : Env Gr4Env}
    (hok : StartsSafely c (.invoke request e) c')
    (hfree : ¬ (ownership (gr4RuntimeManager yaml) (gr4Ownership safeStarts (sessionGraphs yaml))).Busy c request.session) :
    sessionBegins (gr4Contract safeStarts yaml) request
      ((ownership (gr4RuntimeManager yaml) (gr4Ownership safeStarts (sessionGraphs yaml))).view request.session c.shared owners) := by
  cases request with
  | create => trivial
  | lifecycle op id =>
    rintro s hs rfl -
    obtain ⟨hslot, hrest⟩ := hown.idle id hfree
    by_cases hrunning : s.state = .running
    · have hshows := hrest.shows s hs
      rw [hrunning] at hshows
      exact mayStart_of_live hshows
    · have hadm : c.shared.1.admitStart id = _ := admission_proceeds .start hslot hs (by decide) fun _ => hrunning
      refine mayStart_of_halfStopped (hok ?_)
      rw [hadm]
      rfl

theorem reach_safely (h : Reach StartsSafely ⟨(empty, .init), []⟩ c) :
    ∃ owners, Gr4Owned safeStarts c owners := by
  refine reach_owned (fun _ th hth ev t _ => ?_) (fun hown _ hok hfree => begins_safely hown hok hfree) h
  obtain ⟨cmd | cmd, r⟩ := ev
  · trivial
  · exact ⟨False.elim, False.elim, False.elim⟩

/-- A scheduler that is started is not running, and none of its stops has failed; it and the bindings have been made for
one another. -/
theorem starts_startable (h : Reach StartsSafely ⟨(empty, .init), []⟩ c) :
    (∀ th ∈ c.threads, ∀ a, startsScheduler th = some a → ∃ r execution,
        c.shared.2.heap[a]? = some r ∧ r.execution = some execution ∧ execution.running = false ∧
        (∀ call ∈ execution.calls, call.failedStop = false) ∧
        ∃ s, s.id = r.sessionId ∧ Built yaml s execution.graph r.streamBindings) ∧
      ∀ x, (¬ ∃ i, UnderWay c x i) → ∀ a r execution, c.shared.2.entry x = some (a, r) →
        r.execution = some execution →
        (∃ s, c.shared.1.repository.get x = some s ∧ Built yaml s execution.graph r.streamBindings) ∧
        (r.lifecyclePhase = .running → ∀ call ∈ execution.calls, call.failedStop = false) := by
  obtain ⟨owners, hown⟩ := reach_safely h
  have hgood : c.shared.2.Good owners := hown.good
  constructor
  · intro th hth a hstarts
    obtain ⟨k, hp⟩ := startsScheduler_eq hstarts
    have hwp := (hown.active th hth (Thread.active_iff.mpr ⟨_, k, hp⟩)).2
    rw [hp] at hwp
    obtain ⟨-, -, r, hr, execution, hx, hstart, s, hid, hbuilt⟩ := hwp.1
    exact ⟨r, execution, (Gr4State.entry_iff.mp hr).2, hx, (hstart trivial).running, (hstart trivial).calls, s,
      hid.trans (hgood.named hr).symm, hbuilt⟩
  · intro x hidle a r execution hr hx
    have htidy := hown.idle_tidy hidle (h.mono fun _ _ _ _ => trivial) hr
    have hbuilt := htidy.built execution hx
    refine ⟨?_, fun hphase => htidy.clean trivial hphase execution hx⟩
    cases hs : c.shared.1.repository.get x with
    | none =>
      rw [hs] at hbuilt
      cases hbuilt
    | some s =>
      rw [hs] at hbuilt
      exact ⟨s, rfl, hbuilt⟩

instance (c : Config (gr4Service yaml)) (l : Label (gr4Service yaml)) (c' : Config (gr4Service yaml)) :
    Decidable (StartsSafely c l c') := by
  unfold StartsSafely
  split <;> infer_instance

section

open Gr4RuntimeManager

def firstStartConfig : Config (gr4Service demoYaml) :=
  (Config.runOk StartsSafely ⟨(empty, .init), []⟩ (runningRun.take 21)).get (by decide +kernel)

theorem reach_firstStartConfig : Reach StartsSafely ⟨(empty, .init), []⟩ firstStartConfig :=
  .of_runOk .init (Option.some_get _).symm

attribute [irreducible] firstStartConfig

theorem firstStartConfig_starts : ∃ th ∈ firstStartConfig.threads, startsScheduler th = some 0 := by decide +kernel

theorem starts_startable_first : ∃ r execution, firstStartConfig.shared.2.heap[0]? = some r ∧
    r.execution = some execution ∧ execution.running = false ∧
    (∀ call ∈ execution.calls, call.failedStop = false) ∧
    ∃ s, s.id = r.sessionId ∧ Built demoYaml s execution.graph r.streamBindings := by
  obtain ⟨th, hth, hstarts⟩ := firstStartConfig_starts
  exact (starts_startable reach_firstStartConfig).1 th hth 0 hstarts

def startedTwiceRun : List (Label (gr4Service demoYaml)) :=
  runningRun ++ .invoke (.lifecycle .stop (generateSessionId 7)) ⟨5, demoEnv 0⟩ ::
    List.replicate 4 (.run 2 ⟨6, demoEnv 0⟩) ++
    .run 2 ⟨6, { demoEnv 0 with outcome := .error (.exception (ascii "worker did not join")) }⟩ ::
    List.replicate 3 (.run 2 ⟨7, demoEnv 0⟩) ++
    .invoke (.lifecycle .start (generateSessionId 7)) ⟨8, demoEnv 0⟩ ::
    List.replicate 9 (.run 3 ⟨9, demoEnv 0⟩)

def startedTwiceConfig : Config (gr4Service demoYaml) :=
  (Config.run ⟨(empty, .init), []⟩ startedTwiceRun).get (by decide +kernel)

theorem reachable_startedTwiceConfig : Reachable (gr4RuntimeManager demoYaml) gr4Machine startedTwiceConfig :=
  .of_run .init (Option.some_get _).symm

attribute [irreducible] startedTwiceConfig

theorem startedTwiceConfig_starts : ∃ th ∈ startedTwiceConfig.threads, startsScheduler th = some 0 := by
  decide +kernel

theorem startedTwiceConfig_runs : ∃ r ∈ startedTwiceConfig.shared.2.heap[0]?, ∃ execution ∈ r.execution,
    execution.running = true := by
  decide +kernel

theorem starts_running : ¬ ∀ (yaml : YamlPmt) (c : Config (gr4Service yaml)),
    Reachable (gr4RuntimeManager yaml) gr4Machine c →
    ∀ th ∈ c.threads, ∀ a, startsScheduler th = some a → ∀ r execution, c.shared.2.heap[a]? = some r →
      r.execution = some execution → execution.running = false := by
  intro h
  obtain ⟨th, hth, hstarts⟩ := startedTwiceConfig_starts
  obtain ⟨r, hr, execution, hx, hrun⟩ := startedTwiceConfig_runs
  have hstopped := h demoYaml startedTwiceConfig reachable_startedTwiceConfig th hth 0 hstarts r execution hr hx
  cases hrun.symm.trans hstopped

end

end SessionService

end Gr4ControlPlane
