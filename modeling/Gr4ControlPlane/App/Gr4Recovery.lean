import Gr4ControlPlane.App.Gr4Starts
import Gr4ControlPlane.Interleaving.Alone

/-! No session gets stuck in its teardown, as long as a scheduler that cannot be stopped says
so by a `std::exception`. -/

open Gr4ControlPlane.Interleaving

namespace Gr4ControlPlane

structure Gr4Policy.Weaker (P P' : Gr4Policy) : Prop where
  stops : P.stops → P'.stops
  keeps : P.keeps → P'.keeps
  starts : P.starts → P'.starts

variable {P P' : Gr4Policy} {yaml : YamlPmt} {B : Bytes → List RuntimeStreamBinding → Prop} {v : Gr4View}

theorem Gr4View.Rest.weaken (h : v.Rest P' B) (hP : P.Weaker P') : v.Rest P B := by
  cases h with
  | absent hown => exact .absent fun hkeeps => hown (hP.keeps hkeeps)
  | present ht =>
    exact .present
      { ht with
        live := fun hstarts => ht.live (hP.starts hstarts)
        clean := fun hstarts => ht.clean (hP.starts hstarts)
        keeps := fun hkeeps => ht.keeps (hP.keeps hkeeps)
        stopping := fun hstops => ht.stopping (hP.stops hstops) }

theorem Gr4Rest.weaken {record : Option Session} (h : Gr4Rest P' yaml record v) (hP : P.Weaker P') :
    Gr4Rest P yaml record v :=
  { h with rest := h.rest.weaken hP }

/-- No scheduler's `stop` throws anything but a `std::exception`. -/
abbrev stopsHandled : Gr4Policy := ⟨True, False, False, False⟩

abbrev allSucceeds : Gr4Policy := ⟨True, False, False, True⟩

theorem foreignStop_of_succeeds {ev : Event gr4Interface} (h : Succeeds ev) : foreignStop ev = false := by
  obtain ⟨c, r⟩ := ev
  cases c with
  | schedulerStop a =>
    obtain rfl : r = .ok () := h
    rfl
  | _ => rfl

namespace Gr4RuntimeManager

variable {c : Config (gr4System yaml)} {x : Bytes} {a : Nat} {r : SessionRuntimeResources}

abbrev Handled (c : Config (gr4System yaml)) (l : Label (gr4System yaml)) (c' : Config (gr4System yaml)) : Prop :=
  PerSession c l ∧ ∀ th ∈ c'.threads, ∀ ev ∈ th.trace, foreignStop ev = false

theorem not_stopping (h : Reach Handled ⟨.init, []⟩ c) (hr : c.shared.entry x = some (a, r))
    (hlocked : r.locked = false) : r.lifecyclePhase ≠ .stopping := by
  have hadm : ∀ {c l c'}, Handled c l c' →
      ((gr4Ownership stopsHandled fun _ => AnyGraph).ownership (gr4RuntimeManager yaml)).Admitted c' := by
    intro c l c' hok th hth ev t htrace
    refine ⟨fun _ => hok.2 th hth ev ?_, False.elim, False.elim⟩
    rw [htrace]
    exact List.mem_cons_self
  obtain ⟨owners, hown⟩ := reach_owned id (fun hok => hok.1) hadm h
  obtain ⟨t, hkept, -⟩ := hown.kept x
  exact (hkept a r hr).stopping trivial hlocked

end Gr4RuntimeManager

namespace SessionService

variable {c : Config (gr4Service yaml)} {owners : PortOwners} {x : Bytes} {s : Session} {op : Operation}

abbrev Handled (_ : Config (gr4Service yaml)) (_ : Label (gr4Service yaml)) (c' : Config (gr4Service yaml)) : Prop :=
  ∀ th ∈ c'.threads, ∀ ev ∈ Trace.right th.trace, foreignStop ev = false

theorem reach_handledOwned (h : Reach Handled ⟨(empty, .init), []⟩ c) :
    ∃ owners, Gr4Owned stopsHandled c owners := by
  refine reach_owned (fun hok th hth ev t htrace => ?_)
    (fun _ _ _ _ => sessionBegins_of _ (fun _ _ _ _ => False.elim) _ _) h
  obtain ⟨cmd | cmd, r⟩ := ev
  · trivial
  · refine ⟨fun _ => hok th hth ⟨cmd, r⟩ ?_, False.elim, False.elim⟩
    rw [htrace]
    exact List.mem_cons_self

def Completes (c : Config (gr4Service yaml)) (op : Operation) (x : Bytes) (s : Session)
    (envs : Nat → Env Gr4Env) : Prop :=
  ∃ n d th r, c.run (Config.aloneRun (.lifecycle op x) c.threads.length envs n) = some d ∧
    d.threads[c.threads.length]? = some th ∧ th.result = some r ∧
    ((∀ ev ∈ Trace.right th.trace, Succeeds ev) → (op = .restart → Preparable yaml s) → ∃ a, r = .ok a)

theorem proceed_recovers (hP : P.Weaker stopsHandled) {w : Gr4View} {slot : Slot}
    {t : Trace (serviceInterface.sum gr4Interface)} (hflight : slot.InFlight x s) (ht : Trace.right t = [])
    (hrest : Gr4Rest stopsHandled yaml (some s) w) (hop : op = .restart ∨ op = .remove) :
    (afterAdmission (gr4RuntimeManager yaml) op x (.ok (.proceed s))).wp (sessionLocal (gr4Ownership P (sessionGraphs yaml)) x)
      (fun r _ _ => P.smooth → P.stops → (op = .restart → Preparable yaml s) → ∃ a, r = .ok a) (slot, w) t := by
  have hne : op ≠ .start := by
    rintro rfl
    simp at hop
  refine proceed_wp (gr4Contract P yaml) hflight ht (hrest.weaken hP) (fun h => absurd h hne)
    (fun h => absurd h hne) (fun a _ _ _ _ _ _ _ => ⟨a, rfl⟩) ?_
  intro message now w' t' _ hfailed hsmooth hstops hprepare
  exact absurd ⟨hsmooth, hstops, fun h => hprepare (h.resolve_left hne)⟩ hfailed

theorem admits_any {t : Trace (serviceInterface.sum gr4Interface)} {ev : Event (serviceInterface.sum gr4Interface)} :
    (sessionLocal (gr4Ownership anyRun (sessionGraphs yaml)) x).admits t ev := by
  obtain ⟨cmd | cmd, r⟩ := ev
  · trivial
  · exact ⟨False.elim, False.elim, False.elim⟩

theorem admits_succeeding {t : Trace (serviceInterface.sum gr4Interface)}
    (h : ∀ ev ∈ Trace.right t, Succeeds ev) : ∀ ev ∈ t, ∀ u, (sessionLocal (gr4Ownership allSucceeds (sessionGraphs yaml)) x).admits u ev := by
  rintro ⟨cmd | cmd, r⟩ hev u
  · trivial
  · have hsucceeds := h _ (Trace.mem_right hev)
    exact ⟨fun _ => foreignStop_of_succeeds hsucceeds, False.elim, fun _ => hsucceeds⟩

theorem completes (hown : Gr4Owned stopsHandled c owners) (h : Reachable (gr4RuntimeManager yaml) gr4Machine c)
    (hidle : ¬ ∃ i, UnderWay c x i) (hs : c.shared.1.repository.get x = some s)
    (hop : op = .restart ∨ op = .remove) (envs : Nat → Env Gr4Env) : Completes c op x s envs := by
  have hslot := h.atRest hidle
  have hrest : Gr4Rest stopsHandled yaml (some s) (c.shared.2.view x owners) := hs ▸ hown.idle_rest hidle h
  have hgood : c.shared.2.Good owners := hown.good
  have hadm : c.shared.1.admission op x = .ok (.proceed s, c.shared.1.setPhase x op.busyPhase) := by
    rcases hop with rfl | rfl
    · exact admission_proceeds .restart hslot hs (by decide) nofun
    · exact admission_proceeds .remove hslot hs (by decide) nofun
  have hexec : (gr4Service yaml).exec (.inl (.admission op x)) (envs 0) c.shared =
      some (.ok (.proceed s), (c.shared.1.setPhase x op.busyPhase, c.shared.2)) := by
    simp [SessionService.exec, hadm, settle_ok]
  have hflight : ((c.shared.1.setPhase x op.busyPhase).slot x).InFlight x s := by
    have hrecord : (c.shared.1.slot x).record = some s := hs
    rw [slot_setPhase, hrecord]
    exact hslot.inFlight hs op
  have hwp := fun {P : Gr4Policy} (hP : P.Weaker stopsHandled) =>
    proceed_recovers (t := [⟨.inl (.admission op x), .ok (.proceed s)⟩]) hP hflight rfl hrest hop
  -- the call ends, whatever happens to it
  have hsome : ((afterAdmission (gr4RuntimeManager yaml) op x (.ok (.proceed s))).alone (gr4Service yaml)
      (fun n => envs (n + 1)) (c.shared.1.setPhase x op.busyPhase, c.shared.2)
      [⟨.inl (.admission op x), .ok (.proceed s)⟩]).isSome :=
    Ownership.alone_isSome (O := ownership (gr4RuntimeManager yaml) (gr4Ownership anyRun (sessionGraphs yaml)))
      (exec_isSome (gr4Ownership_ready anyRun _)) (fun _ _ => admits_any) (List.cons_ne_nil _ _) hgood
      (hwp ⟨False.elim, id, id⟩)
  obtain ⟨⟨r, σ', t⟩, hrun⟩ := Option.isSome_iff_exists.mp hsome
  obtain ⟨n, es, hn⟩ := Config.aloneRun_eq (body_lifecycle op x) hexec hrun
  refine ⟨n, _, _, r, hn, List.getElem?_concat_length, rfl, fun hsucceeds hprepare => ?_⟩
  obtain ⟨-, -, hends⟩ := Ownership.alone_ends
    (O := ownership (gr4RuntimeManager yaml) (gr4Ownership allSucceeds (sessionGraphs yaml))) (x := x)
    (σ := (c.shared.1.setPhase x op.busyPhase, c.shared.2)) hgood (hwp ⟨id, id, id⟩) hrun
    (admits_succeeding hsucceeds)
  exact hends trivial trivial hprepare

/-- On its own or under the service, the manager never leaves a session stopping, and the
service can always restart or remove it. -/
theorem never_stuck :
    (∀ c : Config (gr4System yaml), Reach Gr4RuntimeManager.Handled ⟨.init, []⟩ c →
      ∀ x a r, c.shared.entry x = some (a, r) → r.locked = false → r.lifecyclePhase ≠ .stopping) ∧
    ∀ c : Config (gr4Service yaml), Reach Handled ⟨(empty, .init), []⟩ c → ∀ x s op envs,
      (¬ ∃ i, UnderWay c x i) → c.shared.1.repository.get x = some s → op = .restart ∨ op = .remove →
      Completes c op x s envs := by
  constructor
  · exact fun c h x a r hr hlocked => Gr4RuntimeManager.not_stopping h hr hlocked
  · intro c h x s op envs hidle hs hop
    obtain ⟨owners, hown⟩ := reach_handledOwned h
    exact completes hown (h.mono fun _ _ _ _ => trivial) hidle hs hop envs

section

open Gr4RuntimeManager

def halfStoppedRun : List (Label (gr4Service demoYaml)) :=
  runningRun ++ .invoke (.lifecycle .stop (generateSessionId 7)) ⟨5, demoEnv 0⟩ ::
    List.replicate 4 (.run 2 ⟨6, demoEnv 0⟩) ++
    .run 2 ⟨6, { demoEnv 0 with outcome := .error (.exception (ascii "worker did not join")) }⟩ ::
    List.replicate 3 (.run 2 ⟨7, demoEnv 0⟩)

def halfStoppedConfig : Config (gr4Service demoYaml) :=
  (Config.runOk Handled ⟨(empty, .init), []⟩ halfStoppedRun).get (by decide +kernel)

theorem reach_halfStoppedConfig : Reach Handled ⟨(empty, .init), []⟩ halfStoppedConfig :=
  .of_runOk .init (Option.some_get _).symm

attribute [irreducible] halfStoppedConfig

theorem halfStoppedConfig_idle : ∀ th ∈ halfStoppedConfig.threads, th.active = false := by decide +kernel

def halfStoppedSession : Session :=
  (halfStoppedConfig.shared.1.repository.get (generateSessionId 7)).get (by decide +kernel)

theorem never_stuck_halfStopped :
    Completes halfStoppedConfig .remove (generateSessionId 7) halfStoppedSession fun _ => ⟨9, demoEnv 0⟩ :=
  never_stuck.2 halfStoppedConfig reach_halfStoppedConfig _ _ _ _ (not_underWay halfStoppedConfig_idle)
    (Option.some_get _).symm (.inr rfl)

def stuckRun : List (Label (gr4System demoYaml)) :=
  demoPrepare 0 (demoSession "x") 40001 40002 ++
    .invoke (.start, demoSession "x") (demoEnv 0) :: List.replicate 7 (.run 1 (demoEnv 0)) ++
    .invoke (.stop, demoSession "x") (demoEnv 0) :: List.replicate 3 (.run 2 (demoEnv 0)) ++
    [.run 2 { demoEnv 0 with outcome := .error .unknown }, .run 2 (demoEnv 0)]

def stuckConfig : Config (gr4System demoYaml) :=
  (Config.runOk Serialized ⟨.init, []⟩ stuckRun).get (by decide +kernel)

theorem reach_stuckConfig : Reach Serialized ⟨.init, []⟩ stuckConfig :=
  .of_runOk .init (Option.some_get _).symm

attribute [irreducible] stuckConfig

theorem stuckConfig_stopping : ∃ e ∈ stuckConfig.shared.entry (ascii "x"),
    e.2.locked = false ∧ e.2.lifecyclePhase = .stopping := by
  decide +kernel

theorem stopping_kept : ¬ ∀ (yaml : YamlPmt) (c : Config (gr4System yaml)), Reach Serialized ⟨.init, []⟩ c →
    ∀ x a r, c.shared.entry x = some (a, r) → r.locked = false → r.lifecyclePhase ≠ .stopping := by
  intro h
  obtain ⟨⟨a, r⟩, hr, hlocked, hphase⟩ := stuckConfig_stopping
  exact h demoYaml stuckConfig reach_stuckConfig (ascii "x") a r hr hlocked hphase

end

end SessionService

end Gr4ControlPlane
