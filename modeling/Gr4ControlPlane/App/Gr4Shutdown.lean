import Gr4ControlPlane.App.Gr4Recovery
import Gr4ControlPlane.Runtime.Gr4Shutdown

open Gr4ControlPlane.Interleaving

namespace Gr4ControlPlane

namespace Gr4State

variable {σ : Gr4State} {owners : PortOwners} {order : List Nat}

theorem mem_order (horder : (order : Multiset Nat) = σ.resources.entries.map Sigma.snd) {a : Nat} :
    a ∈ order ↔ ∃ x, σ.resources.lookup x = some a := by
  rw [← Multiset.mem_coe, horder, Multiset.mem_map]
  constructor
  · rintro ⟨⟨x, _⟩, hx, rfl⟩
    exact ⟨x, Finmap.lookup_eq_some_iff.mpr hx⟩
  · rintro ⟨x, hx⟩
    exact ⟨⟨x, a⟩, Finmap.lookup_eq_some_iff.mp hx, rfl⟩

theorem Good.nodup_order (h : σ.Good owners)
    (horder : (order : Multiset Nat) = σ.resources.entries.map Sigma.snd) : order.Nodup := by
  rw [← Multiset.coe_nodup, horder]
  refine Multiset.Nodup.map_on ?_ σ.resources.nodup_entries
  rintro ⟨x, a⟩ hx ⟨y, b⟩ hy hab
  obtain rfl : a = b := hab
  obtain rfl : x = y := h.apart (Finmap.lookup_eq_some_iff.mpr hx) (Finmap.lookup_eq_some_iff.mpr hy)
  rfl

end Gr4State

namespace SessionService

open Gr4RuntimeManager

variable {yaml : YamlPmt} {P : Gr4Policy} {c : Config (gr4Service yaml)} {owners : PortOwners} {order : List Nat}
  {stops : List (Nat × Except Thrown Unit)} {σ' : Gr4State}

theorem Gr4Owned.order_tidy (hown : Gr4Owned P c owners) (h : Reachable (gr4RuntimeManager yaml) gr4Machine c)
    (hidle : ∀ th ∈ c.threads, th.active = false)
    (horder : (order : Multiset Nat) = c.shared.2.resources.entries.map Sigma.snd) {a : Nat} (ha : a ∈ order) :
    ∃ x r, c.shared.2.heap[a]? = some r ∧
      r.Tidy P (graphsOf yaml (c.shared.1.repository.get x)) (owners x) false := by
  have hgood : c.shared.2.Good owners := hown.good
  obtain ⟨x, hx⟩ := (Gr4State.mem_order horder).mp ha
  obtain ⟨r, hr, -⟩ := hgood.valid x a hx
  exact ⟨x, r, hr, hown.idle_tidy (not_underWay hidle) h (Gr4State.entry_iff.mpr ⟨hx, hr⟩)⟩

theorem running_asked (hown : Gr4Owned P c owners) (h : Reachable (gr4RuntimeManager yaml) gr4Machine c)
    (hidle : ∀ th ∈ c.threads, th.active = false)
    (horder : (order : Multiset Nat) = c.shared.2.resources.entries.map Sigma.snd)
    (hshut : ShutDown c.shared.2.cleared order stops σ') {x : Bytes} {s : Session}
    (hs : c.shared.1.repository.get x = some s) (hrun : s.state = .running) :
    ∃ a r, c.shared.2.entry x = some (a, r) ∧ a ∈ stops.map Prod.fst := by
  have hshows := (hown.idle_rest (not_underWay hidle) h).shows s hs
  rw [hrun] at hshows
  obtain ⟨a, r, hr, hphase, execution, hx, hrunning⟩ := hshows
  obtain ⟨hlookup, hheap⟩ := Gr4State.entry_iff.mp hr
  refine ⟨a, r, hr, hshut.asked ((Gr4State.mem_order horder).mpr ⟨x, hlookup⟩) hheap ?_⟩
  simp [SessionRuntimeResources.stoppable, hx, hrunning, hphase]

theorem executing_ordered (hgood : c.shared.2.Good owners)
    (horder : (order : Multiset Nat) = c.shared.2.resources.entries.map Sigma.snd) {a : Nat}
    {r : SessionRuntimeResources} (hr : c.shared.2.heap[a]? = some r) (ha : a ∉ order) : r.execution = none :=
  (hgood.orphans a r hr fun hlookup => ha ((Gr4State.mem_order horder).mpr ⟨_, hlookup⟩)).execution

theorem shuts_down (h : Reachable (gr4RuntimeManager yaml) gr4Machine c)
    (hidle : ∀ th ∈ c.threads, th.active = false)
    (horder : (order : Multiset Nat) = c.shared.2.resources.entries.map Sigma.snd) (envs : Nat → Gr4Env) :
    ∃ σ' t, shutDown yaml order envs c.shared.2 = some (.ok (), σ', t) ∧
      ShutDown c.shared.2.cleared order (schedulerStops t).reverse σ' ∧
      (∀ x s, c.shared.1.repository.get x = some s → s.state = .running →
        ∃ a r, c.shared.2.entry x = some (a, r) ∧ a ∈ (schedulerStops t).reverse.map Prod.fst) ∧
      (Reach Handled ⟨(empty, .init), []⟩ c →
        (∀ a r, c.shared.2.heap[a]? = some r → r.execution.any (·.running) →
          a ∈ (schedulerStops t).reverse.map Prod.fst) ∧
        ((∀ p ∈ (schedulerStops t).reverse, p.2 = .ok ()) → ∀ r ∈ σ'.heap, r.execution = none)) := by
  obtain ⟨owners, hown⟩ := reach_gr4Owned h
  have hgood : c.shared.2.Good owners := hown.good
  have hunlocked : ∀ a ∈ order, ∃ r, c.shared.2.heap[a]? = some r ∧ r.locked = false := by
    intro a ha
    obtain ⟨x, r, hr, htidy⟩ := hown.order_tidy h hidle horder ha
    exact ⟨r, hr, htidy.locked⟩
  obtain ⟨σ', t, hrun, hshut⟩ := shutDown_eq yaml (hgood.nodup_order horder) hunlocked envs
  refine ⟨σ', t, hrun, hshut, fun x s hs => running_asked hown h hidle horder hshut hs, fun hhandled => ?_⟩
  obtain ⟨owners', hown'⟩ := reach_handledOwned hhandled
  have hfree : ∀ a ∈ order, ∃ r, c.shared.2.heap[a]? = some r ∧ r.lifecyclePhase ≠ .stopping := by
    intro a ha
    obtain ⟨x, r, hr, htidy⟩ := hown'.order_tidy h hidle horder ha
    exact ⟨r, hr, htidy.stopping trivial⟩
  constructor
  · intro a r hr hrunning
    have ha : a ∈ order := by
      by_contra ha
      rw [executing_ordered hgood horder hr ha] at hrunning
      cases hrunning
    obtain ⟨r', hr', hphase⟩ := hfree a ha
    obtain rfl : r = r' := Option.some.inj (hr.symm.trans hr')
    refine hshut.asked ha hr ?_
    simp [SessionRuntimeResources.stoppable, hrunning, hphase]
  · intro hstops
    refine hshut.emptied (fun a ha => ?_) (fun a r => executing_ordered hgood horder) hstops
    obtain ⟨r, hr, hphase⟩ := hfree a ha
    exact ⟨r, hr, by simp [SessionRuntimeResources.stuck, hphase]⟩

theorem runningConfig_resources : runningConfig.shared.2.resources.entries.map Sigma.snd = ([0] : List Nat) := by
  decide +kernel

theorem runningConfig_entry : (runningConfig.shared.2.entry (generateSessionId 7)).map Prod.fst = some 0 := by
  decide +kernel

theorem runningConfig_shown : (runningConfig.shared.1.repository.get (generateSessionId 7)).map (·.state) =
    some .running := by
  decide +kernel

theorem shuts_down_running : ∃ σ' t,
    shutDown demoYaml [0] (fun _ => demoEnv 0) runningConfig.shared.2 = some (.ok (), σ', t) ∧
      0 ∈ (schedulerStops t).reverse.map Prod.fst := by
  obtain ⟨σ', t, hrun, -, hasked, -⟩ := shuts_down reachable_runningConfig runningConfig_idle
    runningConfig_resources.symm fun _ => demoEnv 0
  obtain ⟨s, hs, hstate⟩ := Option.map_eq_some_iff.mp runningConfig_shown
  obtain ⟨a, r, hr, ha⟩ := hasked _ s hs hstate
  have hentry := runningConfig_entry
  rw [hr] at hentry
  obtain rfl : a = 0 := Option.some.inj hentry
  exact ⟨σ', t, hrun, ha⟩

end SessionService

end Gr4ControlPlane
