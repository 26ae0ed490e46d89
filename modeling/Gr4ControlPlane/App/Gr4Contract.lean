import Gr4ControlPlane.App.SessionOwnership
import Gr4ControlPlane.Runtime.Gr4Calls

open Gr4ControlPlane.Interleaving

namespace Gr4ControlPlane

variable {yaml : YamlPmt} {P : Gr4Policy} {s s' : Session} {v : Gr4View}

theorem Built.congr (h : s.SameOrigin s') {graph : Bytes} {bindings : List RuntimeStreamBinding}
    (hb : Built yaml s graph bindings) : Built yaml s' graph bindings where
  plans := hb.plans.trans h.derivedStreams.symm
  content := by rw [h.grcContent]; exact hb.content
  internal := hb.internal
  browser := hb.browser

theorem Gr4View.Rest.mono {B B' : Bytes → List RuntimeStreamBinding → Prop}
    (hB : ∀ graph bindings, B graph bindings → B' graph bindings) (h : v.Rest P B) : v.Rest P B' := by
  cases h with
  | absent hown => exact .absent hown
  | present ht => exact .present { ht with built := fun x hx => hB _ _ (ht.built x hx) }

theorem Gr4View.Rest.of_none {B B' : Bytes → List RuntimeStreamBinding → Prop} (h : v.Rest P B)
    (hv : v.entry = none) : v.Rest P B' := by
  cases h with
  | absent hown => exact .absent hown
  | present ht => cases hv

theorem Session.sameOrigin_state (s : Session) (state : SessionState) : s.SameOrigin { s with state := state } :=
  ⟨rfl, rfl, rfl, rfl, rfl⟩

def SessionState.Shows : SessionState → Gr4View → Prop
  | .stopped, v => v.Vacant
  | .running, v => v.Live
  | .error, _ => True

def graphsOf (yaml : YamlPmt) : Option Session → Bytes → List RuntimeStreamBinding → Prop
  | none => fun _ _ => False
  | some s => Built yaml s

def sessionGraphs (yaml : YamlPmt) : Gr4Graphs := fun x graph bindings => ∃ s, s.id = x ∧ Built yaml s graph bindings

/-- What the record of a session says of its resources while no call is under way. -/
structure Gr4Rest (P : Gr4Policy) (yaml : YamlPmt) (record : Option Session) (v : Gr4View) : Prop where
  rest : v.Rest P (graphsOf yaml record)
  absent : record = none → v.entry = none
  shows : ∀ s, record = some s → s.state.Shows v

def Gr4Failed (P : Gr4Policy) (yaml : YamlPmt) (op : Operation) (s : Session) : Prop :=
  ¬ (P.smooth ∧ P.stops ∧ (op = .start ∨ op = .restart → Preparable yaml s))

namespace Gr4RuntimeManager

variable {t : Trace gr4Interface}

theorem Gr4Rest.intro {state : SessionState} (h : v.Rest P (Built yaml s)) (hs : state.Shows v) :
    Gr4Rest P yaml (some { s with state := state }) v where
  rest := h.mono fun _ _ => Built.congr (s.sameOrigin_state state)
  absent h := by cases h
  shows _ h := by
    cases h
    exact hs

theorem gr4_congr (h : s.SameOrigin s') (hstate : s'.state = s.state) (hv : Gr4Rest P yaml (some s) v) :
    Gr4Rest P yaml (some s') v where
  rest := hv.rest.mono fun _ _ => Built.congr h
  absent h := by cases h
  shows _ h := by
    cases h
    rw [hstate]
    exact hv.shows s rfl

def OperationEnds (P : Gr4Policy) (yaml : YamlPmt) (op : Operation) (s : Session) :
    Except Thrown Unit → Gr4View → Trace gr4Interface → Prop
  | .ok (), v, _ => Gr4Rest P yaml (op.outcome s) v
  | .error _, v, _ => Gr4Rest P yaml (some { s with state := .error }) v ∧ Gr4Failed P yaml op s

theorem start_after_prepare_wp {op : Operation} (hop : op = .start ∨ op = .restart)
    {session : Session} (hs : session.SameOrigin s) (hv : v.Rest P (Built yaml s)) (hmay : P.starts → v.MayStart) :
    (SessionService.startCalls (gr4RuntimeManager yaml) session).wp (gr4Local P (sessionGraphs yaml) session.id)
      (OperationEnds P yaml op s) v t := by
  have hB : ∀ graph bindings, Built yaml session graph bindings → Built yaml s graph bindings :=
    fun _ _ => Built.congr hs
  have hprep : Preparable yaml s → Preparable yaml session := by
    intro h
    refine ⟨hs.validateStreamRuntimeContract.symm.trans h.contract, fun bindings hb => ?_⟩
    rw [← hs.grcContent]
    exact h.content bindings (hb.trans hs.derivedStreams.symm)
  have hfailed : ¬ (P.smooth ∧ P.stops ∧ Preparable yaml session) → Gr4Failed P yaml op s :=
    fun h hsmooth => h ⟨hsmooth.1, hsmooth.2.1, hprep (hsmooth.2.2 hop)⟩
  refine Action.wp_seq (Action.wp_mono ?_ (prepare_wp hB hv))
  rintro (thrown | ⟨⟩) v t ⟨hv', hmay', hR⟩
  · exact ⟨Gr4Rest.intro hv' trivial, hfailed (hR.resolve_left (by simp))⟩
  refine Action.wp_mono ?_ (start_wp hB (fun _ _ hb => ⟨s, hs.id, hb⟩) hv' fun hP => hmay' (hmay hP))
  rintro (thrown | ⟨⟩) v t ⟨hv'', hR⟩
  · exact ⟨Gr4Rest.intro hv'' trivial, hfailed hR⟩
  · rcases hop with rfl | rfl
    · exact Gr4Rest.intro hv'' hR
    · exact Gr4Rest.intro hv'' hR

theorem failed_of_stop {op : Operation} (h : ¬ (P.smooth ∧ P.stops)) : Gr4Failed P yaml op s :=
  fun hsmooth => h ⟨hsmooth.1, hsmooth.2.1⟩

theorem stop_destroy_wp {op : Operation} (rest : Session → Action gr4Interface Thrown Unit)
    (hv : v.Rest P (Built yaml s))
    (hrest : ∀ session v t, session.id = s.id → session.SameOrigin s → v.Rest P (Built yaml s) → v.entry = none →
      (rest session).wp (gr4Local P (sessionGraphs yaml) s.id) (OperationEnds P yaml op s) v t) :
    (do
      let session ← SessionService.stopIfRunning (gr4RuntimeManager yaml) s
      (gr4RuntimeManager yaml).destroy session
      rest session : Action gr4Interface Thrown Unit).wp (gr4Local P (sessionGraphs yaml) s.id) (OperationEnds P yaml op s) v t := by
  have hdestroy : ∀ session v t, session.id = s.id → session.SameOrigin s → v.Rest P (Built yaml s) →
      (do
        (gr4RuntimeManager yaml).destroy session
        rest session : Action gr4Interface Thrown Unit).wp (gr4Local P (sessionGraphs yaml) s.id) (OperationEnds P yaml op s) v t := by
    intro session v t hid hs hv
    refine Action.wp_seq (Action.wp_mono ?_ (hid ▸ destroy_wp hv))
    rintro (thrown | ⟨⟩) v t ⟨hv', hR⟩
    · exact ⟨Gr4Rest.intro hv' trivial, failed_of_stop hR⟩
    · exact hrest session v t hid hs hv' hR
  unfold SessionService.stopIfRunning
  split
  · refine Action.wp_seq (Action.wp_seq (Action.wp_mono ?_ (stop_wp hv)))
    rintro (thrown | ⟨⟩) v t ⟨hv', hR⟩
    · exact ⟨Gr4Rest.intro hv' trivial, failed_of_stop hR⟩
    · exact hdestroy _ v t rfl ⟨rfl, rfl, rfl, rfl, rfl⟩ hv'
  · exact Action.wp_seq (hdestroy s v t rfl (.refl s) hv)

theorem runtimeCalls_wp (op : Operation) (hv : Gr4Rest P yaml (some s) v)
    (hmay : op = .start → P.starts → v.MayStart) :
    (SessionService.runtimeCalls (gr4RuntimeManager yaml) op s).wp (gr4Local P (sessionGraphs yaml) s.id)
      (OperationEnds P yaml op s) v t := by
  cases op with
  | start => exact start_after_prepare_wp (.inl rfl) (.refl s) hv.rest (hmay rfl)
  | stop =>
    refine Action.wp_mono ?_ (stop_wp hv.rest)
    rintro (thrown | ⟨⟩) v t ⟨hv', hR⟩
    · exact ⟨Gr4Rest.intro hv' trivial, failed_of_stop hR⟩
    · exact Gr4Rest.intro hv' hR
  | restart =>
    refine stop_destroy_wp (SessionService.startCalls (gr4RuntimeManager yaml)) hv.rest ?_
    intro session v t hid hs hv' hnone
    have hmay' : v.MayStart := Gr4View.Vacant.mayStart fun a r hr => by cases hr.symm.trans hnone
    exact hid ▸ start_after_prepare_wp (.inr rfl) hs hv' fun _ => hmay'
  | remove =>
    have hpure : SessionService.runtimeCalls (gr4RuntimeManager yaml) .remove s = (do
        let session ← SessionService.stopIfRunning (gr4RuntimeManager yaml) s
        (gr4RuntimeManager yaml).destroy session
        pure () : Action gr4Interface Thrown Unit) :=
      bind_congr fun session => (bind_pure ((gr4RuntimeManager yaml).destroy session)).symm
    rw [hpure]
    refine stop_destroy_wp (fun _ => pure ()) hv.rest ?_
    intro session v t _ _ hv' hnone
    exact ⟨hv'.of_none hnone, fun _ => hnone, fun _ h => by cases h⟩

end Gr4RuntimeManager

open Gr4RuntimeManager in
def gr4Contract (P : Gr4Policy) (yaml : YamlPmt) :
    RuntimeContract (gr4RuntimeManager yaml) (gr4Ownership P (sessionGraphs yaml)) where
  rest := Gr4Rest P yaml
  begins op _ v := op = .start → P.starts → v.MayStart
  failed op s _ := Gr4Failed P yaml op s
  congr := gr4_congr
  created hstate h :=
    { rest := h.rest.of_none (h.absent rfl)
      absent := fun hnone => by cases hnone
      shows := fun s hs => by
        cases hs
        rw [hstate]
        exact fun a r hr => by cases hr.symm.trans (h.absent rfl) }
  initial := ⟨_, Gr4State.good_init, fun x => ⟨.absent fun _ => rfl, fun _ => rfl, fun _ h => by cases h⟩⟩
  calls op s v hv _ hbegin := by
    refine Action.wp_mono ?_ (runtimeCalls_wp op hv hbegin)
    rintro (thrown | ⟨⟩) v t h
    · exact h
    · exact h

end Gr4ControlPlane
