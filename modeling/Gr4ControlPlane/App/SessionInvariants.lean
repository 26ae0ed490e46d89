import Gr4ControlPlane.App.SessionOwnership
import Gr4ControlPlane.Runtime.OutcomeRuntime

open Gr4ControlPlane.Interleaving

namespace Gr4ControlPlane

variable {R : Interface}

def RuntimeOwnership.free (M : RuntimeMachine R) : RuntimeOwnership M Unit Unit where
  view _ _ _ := ()
  good _ _ := True
  loc _ := ⟨fun _ _ _ => True, fun _ _ _ _ => True, fun _ _ => True⟩
  sound _ _ _ := ⟨(), trivial, trivial, fun _ _ => rfl⟩

def RuntimeContract.free (rm : RuntimeManager R) (M : RuntimeMachine R) :
    RuntimeContract rm (RuntimeOwnership.free M) where
  rest _ _ := True
  begins _ _ _ := True
  failed _ _ _ := True
  congr _ _ _ := trivial
  created _ _ := trivial
  initial := ⟨(), trivial, fun _ => trivial⟩
  calls op s _ _ _ _ := by
    have hfree : ∀ (p : Program R (Except Thrown Unit)) (t : Trace R),
        p.wp ((RuntimeOwnership.free M).loc s.id) (fun _ _ _ => True) () t := by
      intro p
      induction p with
      | ret a => exact fun _ => trivial
      | step c k ih => exact fun t => ⟨trivial, fun r _ _ _ => ih r _⟩
    refine Action.wp_mono (fun r _ _ _ => ?_) (hfree _ [])
    cases r with
    | ok a => trivial
    | error thrown => exact ⟨trivial, trivial⟩

namespace SessionService

variable {rm : RuntimeManager R} {M : RuntimeMachine R} {c c' d : Config (system rm M)}

def Stores (x : Bytes) (c : Config (system rm M)) : Prop := (c.shared.1.repository.get x).isSome

/-- The `i`-th call is a lifecycle call on session `x` between its admission and its end. -/
def UnderWay (c : Config (system rm M)) (x : Bytes) (i : Nat) : Prop :=
  ∃ th, c.threads[i]? = some th ∧ th.active ∧ ∃ op, th.op = .lifecycle op x

/-- Every state reachable by any calls, in any interleaving, with any runtime outcomes. -/
abbrev Reachable (rm : RuntimeManager R) (M : RuntimeMachine R) : Config (system rm M) → Prop :=
  Reach (fun _ _ _ => True) ⟨(empty, M.init), []⟩

theorem Reachable.owned (h : Reachable rm M c) :
    ∃ g, Owned (ownership rm (.free M)) (discipline (.free rm M)) c g := by
  refine reach_owned (fun _ th hth ev t _ => ?_) (fun _ _ _ _ => sessionBegins_of _ (fun _ _ _ => trivial) _ _) h
  obtain ⟨cmd | cmd, r⟩ := ev <;> trivial

theorem lifecycle_of_active (h : Reachable rm M c) {th : Thread (system rm M)} (hth : th ∈ c.threads)
    (ha : th.active) : ∃ op, th.op = .lifecycle op th.op.session := by
  obtain ⟨g, hown⟩ := h.owned
  have hne := (hown.active th hth ha).1
  have hf := h.follows th hth
  cases hop : th.op with
  | lifecycle op id => exact ⟨op, rfl⟩
  | create draw name grc schedulerAlias =>
    rw [hop, body_create] at hf
    rcases hf.of_step with ⟨ht, -⟩ | ⟨r, t, hf, -⟩
    · exact absurd ht hne
    · simp [Thread.active, hf.of_ret.2, Program.finished] at ha

theorem busy_iff_underWay (h : Reachable rm M c) {x : Bytes} :
    (ownership rm (.free M)).Busy c x ↔ ∃ i, UnderWay c x i := by
  constructor
  · rintro ⟨th, hth, ha, rfl⟩
    obtain ⟨i, hi⟩ := List.mem_iff_getElem?.mp hth
    exact ⟨i, th, hi, ha, lifecycle_of_active h hth ha⟩
  · rintro ⟨i, th, hi, ha, op, hop⟩
    exact ⟨th, List.mem_of_getElem? hi, ha, by simp [ownership, hop, Request.session]⟩

theorem not_underWay {x : Bytes} (h : ∀ th ∈ c.threads, th.active = false) : ¬ ∃ i, UnderWay c x i := by
  rintro ⟨i, th, hi, ha, -⟩
  simp [h th (List.mem_of_getElem? hi)] at ha

theorem UnderWay.unique (h : Reachable rm M c) {x : Bytes} {i j : Nat} (hi : UnderWay c x i)
    (hj : UnderWay c x j) : i = j := by
  obtain ⟨g, hown⟩ := h.owned
  obtain ⟨th, hi, ha, op, hop⟩ := hi
  obtain ⟨th', hj, ha', op', hop'⟩ := hj
  exact hown.unique hi hj ha ha' (by simp [ownership, hop, hop', Request.session])

/-- The stored records and the phases agree, and busy phases are those of calls under way. -/
structure Consistent (c : Config (system rm M)) : Prop where
  phases : ∀ x, x ∈ c.shared.1.phases ↔ (c.shared.1.repository.get x).isSome
  lastError : ∀ x s, c.shared.1.repository.get x = some s →
    (s.lastError.isSome ↔ s.state = .error)
  idle : ∀ x s, c.shared.1.repository.get x = some s →
    c.shared.1.phases.lookup x = some .idle → s.state = .stopped
  running : ∀ x s, c.shared.1.repository.get x = some s →
    c.shared.1.phases.lookup x = some .running → s.state = .running
  failed : ∀ x s, c.shared.1.repository.get x = some s →
    c.shared.1.phases.lookup x = some .failed → s.state = .error
  busy : ∀ x, (c.shared.1.phases.lookup x = some .starting ∨
    c.shared.1.phases.lookup x = some .stopping) ↔ ∃! i, UnderWay c x i

theorem Reachable.slot_cases (h : Reachable rm M c) (x : Bytes) :
    ((¬ ∃ i, UnderWay c x i) ∧ (c.shared.1.slot x).AtRest x) ∨
      (∃ i, UnderWay c x i) ∧ ∃ s, (c.shared.1.slot x).InFlight x s := by
  obtain ⟨g, hown⟩ := h.owned
  rw [← busy_iff_underWay h]
  exact SessionService.slot_cases hown x

theorem Reachable.atRest (h : Reachable rm M c) {x : Bytes} (hidle : ¬ ∃ i, UnderWay c x i) :
    (c.shared.1.slot x).AtRest x :=
  ((h.slot_cases x).resolve_right fun hbusy => hidle hbusy.1).2

/-- A session is stored with a phase, which is that of its state unless a call holds it. -/
theorem Reachable.slot_shape (h : Reachable rm M c) (x : Bytes) :
    c.shared.1.slot x = ⟨none, none⟩ ∨
      ∃ s phase, c.shared.1.slot x = ⟨some s, some phase⟩ ∧ s.Stored x ∧
        (phase = s.state.phase ∨ phase.busy) := by
  rcases h.slot_cases x with ⟨-, hv⟩ | ⟨-, s, hv⟩
  · generalize c.shared.1.slot x = v at hv
    cases hv with
    | absent => exact .inl rfl
    | stored hs => exact .inr ⟨_, _, rfl, hs, .inl rfl⟩
  · generalize c.shared.1.slot x = v at hv
    cases hv with
    | mk hs hb => exact .inr ⟨_, _, rfl, hs, .inr hb⟩

theorem Reachable.stored_phase (h : Reachable rm M c) {x : Bytes} {s : Session}
    {phase : InternalLifecyclePhase} (hs : c.shared.1.repository.get x = some s)
    (hp : c.shared.1.phases.lookup x = some phase) : phase = s.state.phase ∨ phase.busy := by
  rcases h.slot_shape x with hv | ⟨s', phase', hv, -, hphase⟩
  · cases (Slot.ext_iff.mp hv).1.symm.trans hs
  · cases (Slot.ext_iff.mp hv).1.symm.trans hs
    cases (Slot.ext_iff.mp hv).2.symm.trans hp
    exact hphase

theorem Reachable.stored_state (h : Reachable rm M c) (state : SessionState) {x : Bytes} {s : Session}
    (hs : c.shared.1.repository.get x = some s)
    (hp : c.shared.1.phases.lookup x = some state.phase) : s.state = state := by
  rcases h.stored_phase hs hp with hphase | hb
  · exact (SessionState.phase_inj.mp hphase).symm
  · simp at hb

theorem Reachable.busy_iff (h : Reachable rm M c) (x : Bytes) :
    (c.shared.1.phases.lookup x = some .starting ∨ c.shared.1.phases.lookup x = some .stopping) ↔
      ∃ i, UnderWay c x i := by
  have hbusy : (c.shared.1.phases.lookup x = some .starting ∨
      c.shared.1.phases.lookup x = some .stopping) ↔
      ∃ phase, (c.shared.1.slot x).phase = some phase ∧ phase.busy := by
    constructor
    · rintro (hp | hp)
      · exact ⟨.starting, hp, rfl⟩
      · exact ⟨.stopping, hp, rfl⟩
    · rintro ⟨phase, hp, hb⟩
      cases phase with
      | starting => exact .inl hp
      | stopping => exact .inr hp
      | idle | running | failed => cases hb
  rw [hbusy]
  rcases h.slot_cases x with ⟨hfree, hv⟩ | ⟨hi, s, hv⟩
  · refine iff_of_false ?_ hfree
    rintro ⟨phase, hp, hb⟩
    simp [hv.not_busy hp] at hb
  · exact iff_of_true hv.phase hi

theorem Reachable.consistent (h : Reachable rm M c) : Consistent c where
  phases x := by
    have hslot : (c.shared.1.slot x).phase.isSome = (c.shared.1.slot x).record.isSome := by
      rcases h.slot_shape x with hv | ⟨s, phase, hv, -⟩ <;> rw [hv] <;> rfl
    rw [← Finmap.lookup_isSome]
    exact Bool.eq_iff_iff.mp hslot
  lastError x s hs := by
    rcases h.slot_shape x with hv | ⟨s', phase, hv, hstored, -⟩
    · cases (Slot.ext_iff.mp hv).1.symm.trans hs
    · cases (Slot.ext_iff.mp hv).1.symm.trans hs
      exact hstored.lastError
  idle _ _ := h.stored_state .stopped
  running _ _ := h.stored_state .running
  failed _ _ := h.stored_state .error
  busy x := by
    rw [h.busy_iff x]
    exact ⟨fun ⟨i, hi⟩ => ⟨i, hi, fun j hj => hj.unique h hi⟩, fun ⟨i, hi, _⟩ => ⟨i, hi⟩⟩

theorem servicePost_sameOrigin {x : Bytes} {cmd : ServiceCmd} {v v' : Slot}
    {r : serviceInterface.Ans cmd} {s s' : Session} (h : servicePost x cmd v r v')
    (hs : v.record = some s) (hs' : v'.record = some s') : s.SameOrigin s' := by
  have hsame : v'.record = v.record → s.SameOrigin s' := fun heq => by
    cases hs'.symm.trans (heq.trans hs)
    exact .refl s
  cases cmd with
  | create =>
    cases h with
    | refused => exact hsame rfl
    | created hnone => cases hnone.symm.trans hs
  | admission op id =>
    cases h with
    | missing | refused | settled => exact hsame rfl
    | proceed hrec => exact hsame hrec.symm
  | fail id message =>
    obtain ⟨-, s₀, now, hrec, rfl⟩ := h
    cases hrec.symm.trans hs
    cases hs'
    exact ⟨rfl, rfl, rfl, rfl, rfl⟩
  | commit op id =>
    obtain ⟨-, s₀, now, hrec, rfl⟩ := h
    cases hrec.symm.trans hs
    cases op with
    | remove => cases hs'
    | start | stop | restart => cases hs'; exact ⟨rfl, rfl, rfl, rfl, rfl⟩

theorem step_sameOrigin (h : Reachable rm M c) {l : Label (system rm M)} (hs : c.step l = some c')
    {x : Bytes} {s s' : Session} (hx : c.shared.1.repository.get x = some s)
    (hx' : c'.shared.1.repository.get x = some s') : s.SameOrigin s' := by
  obtain ⟨g, hown⟩ := h.owned
  rcases step_slot hown hs x with hslot | ⟨cmd, r, hpost⟩
  · cases hx'.symm.trans ((Slot.ext_iff.mp hslot).1.trans hx)
    exact .refl s
  · exact servicePost_sameOrigin hpost hx hx'

theorem stays_sameOrigin (h : Reachable rm M c) {x : Bytes} {s s' : Session}
    (hd : Reach (fun _ _ c' => Stores x c') c d)
    (hx : c.shared.1.repository.get x = some s) (hx' : d.shared.1.repository.get x = some s') :
    s.SameOrigin s' := by
  suffices hmain : Reachable rm M d ∧
      ∀ s', d.shared.1.repository.get x = some s' → s.SameOrigin s' from hmain.2 s' hx'
  clear hx'
  induction hd with
  | init => exact ⟨h, fun s' hs' => by cases hs'.symm.trans hx; exact .refl s⟩
  | @step d l d' hd hs hstored ih =>
    refine ⟨ih.1.step hs trivial, fun s' hs' => ?_⟩
    cases hd with
    | init => exact step_sameOrigin h hs hx hs'
    | step _ _ hmem =>
      obtain ⟨s₁, hs₁⟩ := Option.isSome_iff_exists.mp hmem
      exact (ih.2 s₁ hs₁).trans (step_sameOrigin ih.1 hs hs₁ hs')

theorem reachable_consistent (h : Reachable rm M c) :
    Consistent c ∧ ∀ (x : Bytes) (d : Config (system rm M)) (s s' : Session),
      Reach (fun _ _ c' => Stores x c') c d →
      c.shared.1.repository.get x = some s → d.shared.1.repository.get x = some s' →
      s.SameOrigin s' :=
  ⟨h.consistent, fun _ _ _ _ => stays_sameOrigin h⟩

def startingRun : List (Label (system outcomeRuntime outcomeMachine)) :=
  [.invoke (.create 7 (ascii "fm") (ascii "blocks: []") none) ⟨1, .ok ()⟩,
    .invoke (.lifecycle .start (generateSessionId 7)) ⟨2, .ok ()⟩,
    .run 1 ⟨3, .ok ()⟩,
    .invoke (.lifecycle .stop (generateSessionId 7)) ⟨4, .ok ()⟩]

def startingConfig : Config (system outcomeRuntime outcomeMachine) :=
  (Config.run ⟨(empty, []), []⟩ startingRun).get (by decide)

theorem reachable_startingConfig : Reachable outcomeRuntime outcomeMachine startingConfig :=
  .of_run .init (Option.some_get _).symm

theorem reachable_consistent_starting :
    startingConfig.shared.1.phases.lookup (generateSessionId 7) = some .starting ∧
      Consistent startingConfig :=
  ⟨by decide, (reachable_consistent reachable_startingConfig).1⟩

end SessionService

end Gr4ControlPlane
