import Gr4ControlPlane.Runtime.Gr4Lifecycle

open Gr4ControlPlane.Interleaving

namespace Gr4ControlPlane

variable {P : Gr4Policy} {G : Gr4Graphs} {B : Bytes → List RuntimeStreamBinding → Prop} {v : Gr4View}

namespace Gr4View

inductive Rest (P : Gr4Policy) (B : Bytes → List RuntimeStreamBinding → Prop) : Gr4View → Prop
  | absent {own : Finset Nat} : (P.keeps → own = ∅) → Rest P B ⟨none, own⟩
  | present {a : Nat} {r : SessionRuntimeResources} {own : Finset Nat} : r.Tidy P B own false →
      Rest P B ⟨some (a, r), own⟩

theorem Rest.own_held (h : v.Rest P B) (hP : P.keeps) {port : Nat} (hport : port ∈ v.own) :
    ∃ a r, v.entry = some (a, r) ∧ port ∈ ports r.streamBindings := by
  cases h with
  | absent hown =>
    rw [hown hP] at hport
    cases hport
  | present ht => exact ⟨_, _, rfl, ht.keeps hP port hport⟩

def Vacant (v : Gr4View) : Prop := ∀ a r, v.entry = some (a, r) → r.Vacant

def Live (v : Gr4View) : Prop := ∃ a r, v.entry = some (a, r) ∧ Gr4RuntimeManager.Live r

def MayStart (v : Gr4View) : Prop := ∀ a r, v.entry = some (a, r) → Gr4RuntimeManager.MayStart r

theorem Vacant.mayStart (h : v.Vacant) : v.MayStart := fun a r hr _ x hx => by
  cases (h a r hr).execution.symm.trans hx

end Gr4View

namespace Gr4RuntimeManager

variable {α : Type} {t : Trace gr4Interface} {session : Session} {yaml : YamlPmt}

def CallEnds (P : Gr4Policy) (B : Bytes → List RuntimeStreamBinding → Prop)
    (R : Except Thrown α → Gr4View → Prop) : Except Thrown α → Gr4View → Trace gr4Interface → Prop :=
  fun res v _ => v.Rest P B ∧ R res v

theorem kept_rest (hv : v.Rest P B) : Gr4View.Kept P v t := by
  cases hv with
  | absent => exact fun _ _ h => by cases h
  | present ht => exact kept_view (Tidy.whole ht t)

theorem tidy_fresh {id : Bytes} {own : Finset Nat} (hown : P.keeps → own = ∅) :
    (SessionRuntimeResources.fresh id).Tidy P B own false :=
  Tidy.lock (TornDown.tidy (r := { SessionRuntimeResources.fresh id with locked := true }) ⟨⟨rfl, rfl⟩, rfl⟩ rfl rfl hown)
    false

theorem getOrCreateResources_wp {Q : Except Thrown Nat → Gr4View → Trace gr4Interface → Prop} (hv : v.Rest P B)
    (hQ : ∀ a r own t, r.Tidy P B own false → (v.MayStart → MayStart r) → Q (.ok a) ⟨some (a, r), own⟩ t) :
    (getOrCreateResources session.id).wp (gr4Local P G session.id) Q v t := by
  refine Action.wp_call.mpr ⟨⟨kept_rest hv, rfl⟩, ?_⟩
  rintro a v' (⟨r, hr, rfl⟩ | ⟨hnone, rfl⟩) -
  · cases hv with
    | absent => cases hr
    | present ht =>
      cases hr
      exact hQ _ _ _ _ ht fun hmay => hmay _ _ rfl
  · cases hv with
    | absent hown => exact hQ _ _ _ _ (tidy_fresh hown) fun _ hfailed => by cases hfailed
    | present => cases hnone

theorem findResources_wp {Q : Except Thrown (Option Nat) → Gr4View → Trace gr4Interface → Prop} (hv : v.Rest P B)
    (hQ : ∀ t, Q (.ok (v.entry.map Prod.fst)) v t) :
    (findResources session.id).wp (gr4Local P G session.id) Q v t := by
  refine Action.wp_call.mpr ⟨⟨kept_rest hv, rfl⟩, ?_⟩
  rintro ans v' ⟨rfl, rfl⟩ -
  exact hQ _

section

variable (hB : ∀ graph bindings, Built yaml session graph bindings → B graph bindings)

include hB in
theorem prepare_wp (hv : v.Rest P B) :
    (prepare yaml session).wp (gr4Local P G session.id) (CallEnds P B fun res v' =>
      (v.MayStart → v'.MayStart) ∧ (res = .ok () ∨ ¬ (P.smooth ∧ P.stops ∧ Preparable yaml session))) v t := by
  apply Action.wp_seq
  apply getOrCreateResources_wp hv
  intro a r own t ht hmay
  refine withLock_wp ht (fun t => prepareLocked_wp hB (Tidy.lock ht true)) ?_
  rintro (thrown | ⟨⟩) r' own' t ht' hR
  · refine ⟨.present (Tidy.lock ht' false), fun h a' r'' heq => ?_, .inr hR.2⟩
    cases heq
    rw [hR.1]
    exact hmay h
  · refine ⟨.present (Tidy.lock ht' false), fun h a' r'' heq => ?_, .inl rfl⟩
    cases heq
    have hmay' : MayStart r' := Prepared.mayStart hR (hmay h)
    exact hmay'

include hB in
theorem start_wp (hG : ∀ graph bindings, B graph bindings → G session.id graph bindings) (hv : v.Rest P B)
    (hmay : P.starts → v.MayStart) :
    (start yaml session).wp (gr4Local P G session.id) (CallEnds P B fun
      | .ok () => Gr4View.Live
      | .error _ => fun _ => ¬ (P.smooth ∧ P.stops ∧ Preparable yaml session)) v t := by
  apply Action.wp_seq
  apply getOrCreateResources_wp hv
  intro a r own t ht hmay'
  refine withLock_wp ht (fun t => startLocked_wp hB hG (Tidy.lock ht true) fun hP => hmay' (hmay hP)) ?_
  rintro (thrown | ⟨⟩) r' own' t ht' hR
  · exact ⟨.present (Tidy.lock ht' false), hR⟩
  · exact ⟨.present (Tidy.lock ht' false), a, _, rfl, hR.phase, hR.execution⟩

end

theorem stop_wp (hv : v.Rest P B) :
    (stop session).wp (gr4Local P G session.id) (CallEnds P B fun
      | .ok () => Gr4View.Vacant
      | .error _ => fun _ => ¬ (P.smooth ∧ P.stops)) v t := by
  apply Action.wp_seq
  apply findResources_wp hv
  intro t
  cases hv with
  | absent hown => exact ⟨.absent hown, fun _ _ h => by cases h⟩
  | @present a r own ht =>
    refine withLock_wp ht (fun t => stopLocked_wp (Tidy.lock ht true)) ?_
    rintro (thrown | ⟨⟩) r' own' t ht' hR
    · exact ⟨.present (Tidy.lock ht' false), hR⟩
    · refine ⟨.present (Tidy.lock ht' false), fun a' r'' heq => ?_⟩
      cases heq
      exact ⟨hR.vacant.execution, hR.vacant.streamBindings⟩

theorem destroy_wp (hv : v.Rest P B) :
    (destroy session).wp (gr4Local P G session.id) (CallEnds P B fun
      | .ok () => fun v' => v'.entry = none
      | .error _ => fun _ => ¬ (P.smooth ∧ P.stops)) v t := by
  apply Action.wp_seq
  apply findResources_wp hv
  intro t
  cases hv with
  | absent hown => exact ⟨.absent hown, rfl⟩
  | @present a r own ht =>
    apply Action.wp_seq
    apply withLock_wp ht (fun t => destroyLocked_wp (Tidy.lock ht true))
    rintro (thrown | ⟨⟩) r' own' t ht' hR
    · exact ⟨.present (Tidy.lock ht' false), hR⟩
    · have hvacant : r'.Vacant := hR.vacant
      refine Action.wp_call.mpr ⟨⟨kept_view (Tidy.whole (Tidy.lock ht' false) t), rfl, _, rfl,
        ⟨hvacant.execution, hvacant.streamBindings⟩⟩, ?_⟩
      rintro ans v' rfl -
      refine ⟨.absent fun hP => ?_, rfl⟩
      rw [Finset.eq_empty_iff_forall_notMem]
      intro port hport
      have := ht'.keeps hP port hport
      rw [hvacant.streamBindings] at this
      cases this

end Gr4RuntimeManager

end Gr4ControlPlane
