import Gr4ControlPlane.Domain.SessionStreamLaws
import Gr4ControlPlane.Runtime.Gr4Ownership

/-! What each call of `Gr4RuntimeManager` makes of the resources it finds, over any answers
of the scheduler and the operating system. -/

open Gr4ControlPlane.Interleaving

namespace Gr4ControlPlane

/-- The graph and the bindings are those `prepare_locked` makes for the session. -/
structure Built (yaml : YamlPmt) (session : Session) (graph : Bytes)
    (bindings : List RuntimeStreamBinding) : Prop where
  plans : bindings.map (·.plan) = derivedStreams yaml session
  content : normalizeGraphContent yaml session.grcContent bindings = .ok graph
  internal : ∀ binding ∈ bindings, ∃ port, binding.internal = internalBinding binding.plan.transport port
  browser : ∀ binding ∈ bindings, binding.browser = toBrowserStreamDescriptor binding.plan

/-- Nothing about the session's own graph makes `prepare_locked` refuse it. -/
structure Preparable (yaml : YamlPmt) (session : Session) : Prop where
  contract : validateStreamRuntimeContract yaml session = none
  content : ∀ bindings : List RuntimeStreamBinding, bindings.map (·.plan) = derivedStreams yaml session →
    ∃ graph, normalizeGraphContent yaml session.grcContent bindings = .ok graph

/-- A session's resources when no call is halfway through changing them. -/
structure SessionRuntimeResources.Tidy (P : Gr4Policy) (B : Bytes → List RuntimeStreamBinding → Prop)
    (own : Finset Nat) (locked : Bool) (r : SessionRuntimeResources) : Prop where
  locked : r.locked = locked
  asyncError : r.asyncError = none
  bare : r.execution = none → r.streamBindings = []
  built : ∀ x, r.execution = some x → B x.graph r.streamBindings
  live : P.starts → ∀ x, r.execution = some x → x.running →
    r.lifecyclePhase = .running ∨ r.lifecyclePhase = .failed ∨ r.lifecyclePhase = .stopping
  dead : ∀ x, r.execution = some x → x.running = false → x.Startable
  running : r.lifecyclePhase = .running → ∃ x, r.execution = some x ∧ x.running
  clean : P.starts → r.lifecyclePhase = .running → ∀ x, r.execution = some x →
    ∀ call ∈ x.calls, call.failedStop = false
  nodup : (ports r.streamBindings).Nodup
  held : ∀ port ∈ ports r.streamBindings, port ∈ own
  keeps : P.keeps → ∀ port ∈ own, port ∈ ports r.streamBindings
  stopping : P.stops → r.lifecyclePhase ≠ .stopping

namespace Gr4RuntimeManager

variable {α β : Type} {P : Gr4Policy} {G : Gr4Graphs} {B : Bytes → List RuntimeStreamBinding → Prop} {x : Bytes} {a : Nat}
  {r : SessionRuntimeResources} {own : Finset Nat} {t : Trace gr4Interface} {session : Session} {yaml : YamlPmt}
  {Q : Except Thrown α → Gr4View → Trace gr4Interface → Prop}

abbrev Whole (P : Gr4Policy) (own : Finset Nat) (r : SessionRuntimeResources) : Prop := ∀ t, r.Kept P own t

theorem kept_view (h : r.Kept P own t) : Gr4View.Kept P ⟨some (a, r), own⟩ t := by
  intro a' r' heq
  cases heq
  exact h

theorem Tidy.whole {locked : Bool} (h : r.Tidy P B own locked) : Whole P own r := fun _ =>
  ⟨h.nodup, fun _ hb _ => h.held _ (List.mem_map_of_mem hb), fun hP _ => h.stopping hP⟩

theorem Whole.of_locked {r' : SessionRuntimeResources} (h : Whole P own r)
    (hb : r'.streamBindings = r.streamBindings) (hl : r'.locked = true) : Whole P own r' := fun t =>
  ⟨hb ▸ (h t).nodup, hb ▸ (h t).held, fun _ hl' => by simp [hl] at hl'⟩

theorem Whole.of_empty (hb : r.streamBindings = []) (hl : r.locked = true) : Whole P own r := fun _ =>
  ⟨by simp [hb, ports], by simp [hb], fun _ hl' => by simp [hl] at hl'⟩

section commands

theorem read_wp {Q : Except Thrown SessionRuntimeResources → Gr4View → Trace gr4Interface → Prop}
    (hk : Whole P own r) (hQ : ∀ t, Q (.ok r) ⟨some (a, r), own⟩ t) :
    (read a).wp (gr4Local P G x) Q ⟨some (a, r), own⟩ t := by
  refine Action.wp_call.mpr ⟨⟨kept_view (hk t), r, rfl⟩, ?_⟩
  rintro ans v' ⟨heq, rfl⟩ -
  cases heq
  exact hQ _

theorem modify_wp {Q : Except Thrown Unit → Gr4View → Trace gr4Interface → Prop}
    {f : SessionRuntimeResources → SessionRuntimeResources} (hk : r.Kept P own t)
    (hf : (f r).sessionId = r.sessionId) (hQ : ∀ t, Q (.ok ()) ⟨some (a, f r), own⟩ t) :
    (modify a f).wp (gr4Local P G x) Q ⟨some (a, r), own⟩ t := by
  refine Action.wp_call.mpr ⟨⟨kept_view hk, r, rfl, hf⟩, ?_⟩
  rintro ans v' rfl -
  exact hQ _

theorem external_wp {c : Gr4Cmd} {f : gr4Interface.Ans c → Except Thrown α} (hk : Whole P own r)
    (hneeds : ∀ v, Gr4View.Needs P G x c v) (hsame : ∀ {v ans v'}, Gr4View.After c v ans v' → v' = v)
    (hQ : ∀ ans, P.Admits t ⟨c, ans⟩ → Q (f ans) ⟨some (a, r), own⟩ (⟨c, ans⟩ :: t)) :
    (perform c f).wp (gr4Local P G x) Q ⟨some (a, r), own⟩ t := by
  refine Action.wp_perform.mpr ⟨⟨kept_view (hk t), hneeds _⟩, ?_⟩
  intro ans v' hafter hadm
  rw [hsame hafter]
  exact hQ ans hadm

end commands

theorem handedBack_release {binding : InternalStreamBinding} {ans : Unit} :
    handedBack (⟨.release binding, ans⟩ :: t) = binding :: handedBack t := rfl

theorem releaseBindings_wp {Q : Except Thrown Unit → Gr4View → Trace gr4Interface → Prop}
    {bindings : List RuntimeStreamBinding} (hk : r.Kept P own t) (hnodup : (ports bindings).Nodup)
    (hown : ∀ port ∈ ports bindings, port ∈ own)
    (hsame : ∀ b ∈ r.streamBindings, ∀ b' ∈ bindings, b.internal.port = b'.internal.port → b.internal = b'.internal)
    (hQ : ∀ t, r.Kept P (own \ (ports bindings).toFinset) t →
      Q (.ok ()) ⟨some (a, r), own \ (ports bindings).toFinset⟩ t) :
    (releaseBindings bindings).wp (gr4Local P G x) Q ⟨some (a, r), own⟩ t := by
  induction bindings generalizing own t with
  | nil =>
    have hempty : own \ (ports []).toFinset = own := by simp [ports]
    rw [hempty] at hQ
    exact hQ t hk
  | cons binding bindings ih =>
    have hrest : own \ (ports (binding :: bindings)).toFinset =
        own.erase binding.internal.port \ (ports bindings).toFinset := by
      ext port
      simp only [ports, List.map_cons, List.toFinset_cons, Finset.mem_sdiff, Finset.mem_insert, Finset.mem_erase]
      tauto
    obtain ⟨hfresh, hnodup'⟩ := List.nodup_cons.mp hnodup
    refine Action.wp_seq (Action.wp_call.mpr ⟨⟨kept_view hk, hown _ List.mem_cons_self⟩, ?_⟩)
    rintro ans v' rfl -
    refine ih ?_ hnodup' ?_ (fun b hb b' hb' => hsame b hb b' (List.mem_cons_of_mem _ hb')) (hrest ▸ hQ)
    · refine ⟨hk.nodup, fun b hb hback => ?_, hk.stopping⟩
      rw [handedBack_release, List.mem_cons, not_or] at hback
      -- the port just given back is that of the released binding only
      refine Finset.mem_erase.mpr ⟨fun heq => hback.1 ?_, hk.held b hb hback.2⟩
      exact hsame b hb binding List.mem_cons_self heq
    · intro port hport
      refine Finset.mem_erase.mpr ⟨fun heq => hfresh (by rw [heq] at hport; exact hport), hown port (List.mem_cons_of_mem _ hport)⟩

theorem releaseStreamBindingsLocked_wp {Q : Except Thrown Unit → Gr4View → Trace gr4Interface → Prop}
    (hk : Whole P own r) (hown : ∀ port ∈ ports r.streamBindings, port ∈ own)
    (hQ : ∀ t, Q (.ok ()) ⟨some (a, { r with streamBindings := [] }), own \ (ports r.streamBindings).toFinset⟩ t) :
    (releaseStreamBindingsLocked a).wp (gr4Local P G x) Q ⟨some (a, r), own⟩ t := by
  apply Action.wp_seq
  apply read_wp hk
  intro t
  refine Action.wp_seq (releaseBindings_wp (hk t) (hk t).nodup hown ?_ fun t hk' => ?_)
  · intro b hb b' hb' heq
    exact congrArg _ (List.inj_on_of_nodup_map (hk t).nodup hb hb' heq)
  · exact modify_wp hk' rfl hQ

structure Allocated (streamPlans : List RuntimeStreamBindingPlan) (own : Finset Nat)
    (bindings : List RuntimeStreamBinding) : Prop where
  plans : bindings.map (·.plan) = streamPlans.map ({ · with ready := true })
  internal : ∀ binding ∈ bindings, ∃ port, binding.internal = internalBinding binding.plan.transport port
  browser : ∀ binding ∈ bindings, binding.browser = toBrowserStreamDescriptor binding.plan
  nodup : (ports bindings).Nodup
  fresh : ∀ port ∈ ports bindings, port ∉ own

theorem Allocated.cons {streamPlan : RuntimeStreamBindingPlan} {streamPlans : List RuntimeStreamBindingPlan}
    {bindings : List RuntimeStreamBinding} {port : Nat} (hport : port ∉ own)
    (h : Allocated streamPlans (insert port own) bindings) :
    Allocated (streamPlan :: streamPlans) own
      (streamBinding streamPlan (internalBinding streamPlan.transport port) :: bindings) where
  plans := congrArg (_ :: ·) h.plans
  internal := by
    rintro b (_ | ⟨_, hb⟩)
    · exact ⟨port, rfl⟩
    · exact h.internal b hb
  browser := by
    rintro b (_ | ⟨_, hb⟩)
    · rfl
    · exact h.browser b hb
  nodup := by
    refine List.nodup_cons.mpr ⟨fun hmem => ?_, h.nodup⟩
    have hfresh := h.fresh _ hmem
    simp [streamBinding] at hfresh
  fresh := by
    rintro q (_ | ⟨_, hq⟩)
    · simpa [streamBinding] using hport
    · exact fun hmem => h.fresh q hq (Finset.mem_insert_of_mem hmem)

theorem allocateBindings_wp {Q : Except Thrown (List RuntimeStreamBinding) → Gr4View → Trace gr4Interface → Prop}
    {streamPlans : List RuntimeStreamBindingPlan} (hb : r.streamBindings = []) (hl : r.locked = true)
    (hok : ∀ bindings t', Allocated streamPlans own bindings →
      portsTaken t' = (portsTaken t || !bindings.isEmpty) →
      Q (.ok bindings) ⟨some (a, r), own ∪ (ports bindings).toFinset⟩ t')
    (herr : ∀ what own' t', ¬ P.smooth → (P.keeps → portsTaken t = false ∧ own' = own) →
      Q (.error (.exception what)) ⟨some (a, r), own'⟩ t') :
    (allocateBindings streamPlans).wp (gr4Local P G x) Q ⟨some (a, r), own⟩ t := by
  induction streamPlans generalizing own t Q with
  | nil =>
    have hall : Allocated [] own [] := ⟨rfl, by simp, by simp, .nil, by simp [ports]⟩
    have hempty : own ∪ (ports []).toFinset = own := by simp [ports]
    exact hempty ▸ hok [] t hall (by simp)
  | cons streamPlan streamPlans ih =>
    refine Action.wp_seq (Action.wp_perform.mpr ⟨⟨kept_view (Whole.of_empty hb hl t), trivial⟩, ?_⟩)
    rintro (what | internal) v' hafter hadm
    · obtain rfl : v' = _ := hafter
      refine herr what own _ (fun hP => ?_) (fun hP => ⟨?_, rfl⟩)
      · exact absurd (hadm.smooth hP) (by simp [Succeeds, Except.isOk, Except.toBool])
      · by_contra htaken
        cases hadm.keeps hP (by simpa using htaken)
    · obtain ⟨port, hport, rfl, rfl⟩ := hafter
      refine Action.wp_seq (ih ?_ ?_)
      · intro bindings t' hall htaken
        have hunion : own ∪ (ports (streamBinding streamPlan (internalBinding streamPlan.transport port) ::
            bindings)).toFinset = insert port own ∪ (ports bindings).toFinset := by
          ext q
          simp [ports, streamBinding]
        have htaken' : portsTaken t' = true := by simpa [portsTaken] using htaken
        have := hok _ t' (hall.cons hport) (by simpa using htaken')
        rwa [hunion] at this
      · intro what own' t' hsmooth hkeeps
        refine herr what own' t' hsmooth fun hP => ?_
        -- the ports taken so far would be lost
        exact absurd (hkeeps hP).1 (by simp [portsTaken])

inductive BuildEnds (P : Gr4Policy) (yaml : YamlPmt) (session : Session) (bindings : List RuntimeStreamBinding)
    (taken : Bool) : Except Thrown Execution → Prop
  | built {execution : Execution} : execution.Startable →
      normalizeGraphContent yaml session.grcContent bindings = .ok execution.graph →
      BuildEnds P yaml session bindings taken (.ok execution)
  | failed {what : Bytes} :
      (P.smooth → ∀ graph, normalizeGraphContent yaml session.grcContent bindings ≠ .ok graph) →
      BuildEnds P yaml session bindings taken (.error (.exception what))
  | foreign : ¬ P.smooth → (P.keeps → taken = false) →
      BuildEnds P yaml session bindings taken (.error .unknown)

theorem BuildEnds.of_event {bindings : List RuntimeStreamBinding} {taken : Bool} {thrown : Thrown}
    {ev : Event gr4Interface} {t' : Trace gr4Interface} (hadm : P.Admits t' ev) (htaken : portsTaken t' = taken)
    (hfail : ¬ Succeeds ev) (hev : thrown = .unknown → abandons ev = true) :
    BuildEnds P yaml session bindings taken (.error thrown) := by
  have hsmooth : ¬ P.smooth := fun hP => hfail (hadm.smooth hP)
  cases thrown with
  | exception what => exact .failed fun hP => absurd hP hsmooth
  | unknown =>
    refine .foreign hsmooth fun hP => ?_
    by_contra hne
    cases (hadm.keeps hP (by simpa [htaken] using hne)).symm.trans (hev rfl)

theorem buildExecution_wp {Q : Except Thrown Execution → Gr4View → Trace gr4Interface → Prop}
    {bindings : List RuntimeStreamBinding} (hk : Whole P own r)
    (hQ : ∀ res t', BuildEnds P yaml session bindings (portsTaken t) res → Q res ⟨some (a, r), own⟩ t') :
    (buildExecution yaml session bindings).wp (gr4Local P G x) Q ⟨some (a, r), own⟩ t := by
  cases hcontent : normalizeGraphContent yaml session.grcContent bindings with
  | error what =>
    have hrun : buildExecution yaml session bindings = throw (.exception what) := by
      unfold buildExecution
      rw [hcontent]
      rfl
    rw [hrun]
    exact hQ _ _ (.failed fun _ graph heq => by cases heq.symm.trans hcontent)
  | ok content =>
    have hrun : buildExecution yaml session bindings = (do
        loadGrc content
        let default ← defaultSchedulerAlias
        let schedulerAlias := session.schedulerAlias.getD default
        if ← instantiateScheduler schedulerAlias then
          setGraph
          return { schedulerAlias := schedulerAlias, graph := content, calls := [], running := false }
        else
          throw (runtimeError session (ascii "prepare") (ascii "scheduler not found: " ++ schedulerAlias))) := by
      unfold buildExecution
      rw [hcontent]
      rfl
    rw [hrun]
    apply Action.wp_seq
    apply external_wp (c := .loadGrc content) hk (fun _ => trivial) (fun h => h)
    rintro (thrown | ⟨⟩) hadm
    · exact hQ _ _ (.of_event hadm rfl (fun h => by cases h) (by rintro rfl; rfl))
    refine Action.wp_seq (Action.wp_seq
      (external_wp (c := .availableSchedulers) hk (fun _ => trivial) (fun h => h) ?_))
    rintro (thrown | available) hadm
    · exact hQ _ _ (.of_event hadm rfl (fun h => by cases h) (by rintro rfl; rfl))
    refine Action.wp_seq
      (external_wp (c := .instantiateScheduler _) hk (fun _ => trivial) (fun h => h) ?_)
    rintro (thrown | instantiated) hadm
    · exact hQ _ _ (.of_event hadm rfl (fun h => by cases h) (by rintro rfl; rfl))
    cases instantiated with
    | false => exact hQ _ _ (.failed fun hP => by cases hadm.smooth hP)
    | true =>
      apply Action.wp_seq
      apply external_wp (c := .setGraph) hk (fun _ => trivial) (fun h => h)
      rintro (thrown | ⟨⟩) hadm
      · exact hQ _ _ (.of_event hadm rfl (fun h => by cases h) (by rintro rfl; rfl))
      · exact hQ _ _ (.built ⟨rfl, by simp⟩ hcontent)

def Ends (P : Gr4Policy) (B : Bytes → List RuntimeStreamBinding → Prop) (a : Nat)
    (R : Except Thrown α → SessionRuntimeResources → Prop) :
    Except Thrown α → Gr4View → Trace gr4Interface → Prop := fun res v _ =>
  ∃ r own, v = ⟨some (a, r), own⟩ ∧ r.Tidy P B own true ∧ R res r

theorem Tidy.own_of_bare {own' : Finset Nat} {locked : Bool} (h : r.Tidy P B own locked) (hx : r.execution = none)
    (hown : P.keeps → ∀ port ∈ own', port ∈ own) : r.Tidy P B own' locked :=
  { h with
    held := by simp [h.bare hx, ports]
    keeps := fun hP port hport => h.keeps hP port (hown hP port hport) }

section prepare

variable (hB : ∀ graph bindings, Built yaml session graph bindings → B graph bindings)

include hB in
theorem tidy_prepared {execution : Execution} {bindings : List RuntimeStreamBinding} (ht : r.Tidy P B own true)
    (hx : r.execution = none) (hall : Allocated (derivedStreams yaml session) own bindings)
    (hstart : execution.Startable)
    (hcontent : normalizeGraphContent yaml session.grcContent bindings = .ok execution.graph) :
    (prepared execution bindings r).Tidy P B (own ∪ (ports bindings).toFinset) true where
  locked := ht.locked
  asyncError := ht.asyncError
  bare h := by cases h
  built x' hx' := by
    cases hx'
    exact hB _ _ ⟨hall.plans.trans (derivedStreams_ready yaml session), hcontent, hall.internal, hall.browser⟩
  live _ x' hx' hrun := by
    cases hx'
    rw [hstart.running] at hrun
    cases hrun
  dead x' hx' _ := by
    cases hx'
    exact hstart
  running h := by cases h
  clean _ h := by cases h
  nodup := hall.nodup
  held port hport := Finset.mem_union_right _ (List.mem_toFinset.mpr hport)
  keeps hP port hport := by
    rcases Finset.mem_union.mp hport with hown | hnew
    · have := ht.keeps hP port hown
      rw [ht.bare hx] at this
      cases this
    · exact List.mem_toFinset.mp hnew
  stopping _ h := by cases h

include hB in
theorem buildLocked_wp (ht : r.Tidy P B own true) (hx : r.execution = none) :
    (buildLocked yaml session a).wp (gr4Local P G x) (Ends P B a fun res r' => match res with
      | .ok () => ∃ execution, r'.execution = some execution ∧ execution.Startable ∧ r'.lifecyclePhase = .idle
      | .error _ => r' = r ∧ ¬ (P.smooth ∧ Preparable yaml session)) ⟨some (a, r), own⟩ t := by
  have hbare := ht.bare hx
  unfold buildLocked
  split
  · next contractError hcontract =>
    refine ⟨r, own, rfl, ht, rfl, fun hP => ?_⟩
    cases hP.2.contract.symm.trans hcontract
  · refine Action.wp_seq (external_wp (c := .ensureRuntimeEnvironment) (Tidy.whole ht)
      (fun _ => trivial) (fun h => h) ?_)
    rintro (thrown | ⟨⟩) hadm
    · exact ⟨r, own, rfl, ht, rfl, fun hP => by cases hadm.smooth hP.1⟩
    apply Action.wp_seq
    apply releaseStreamBindingsLocked_wp (Tidy.whole ht) ht.held
    intro t
    have hsame : { r with streamBindings := [] } = r := by rw [← hbare]
    have hown : own \ (ports r.streamBindings).toFinset = own := by simp [hbare, ports]
    rw [hsame, hown]
    refine Action.wp_seq (allocateBindings_wp hbare ht.locked ?_ ?_)
    · intro bindings t' hall htaken
      refine Action.wp_seq (Action.wp_attempt.mpr
        (buildExecution_wp (.of_empty hbare ht.locked) fun res t'' hres => ?_))
      cases hres with
      | @built execution hstart hcontent =>
        exact modify_wp (Whole.of_empty hbare ht.locked _) rfl fun _ =>
          ⟨_, _, rfl, tidy_prepared hB ht hx hall hstart hcontent, execution, rfl, hstart, rfl⟩
      | @failed what hfail =>
        refine Action.wp_seq (releaseBindings_wp (Whole.of_empty hbare ht.locked _) hall.nodup
          (fun port hport => Finset.mem_union_right _ (List.mem_toFinset.mpr hport)) (by simp [hbare]) fun t _ => ?_)
        refine ⟨r, _, rfl, Tidy.own_of_bare ht hx fun _ port hport => ?_, rfl, ?_⟩
        · rw [Finset.mem_sdiff, Finset.mem_union] at hport
          tauto
        · rintro ⟨hsmooth, hprep⟩
          obtain ⟨graph, hgraph⟩ := hprep.content bindings (hall.plans.trans (derivedStreams_ready yaml session))
          exact hfail hsmooth graph hgraph
      | foreign hsmooth hkeeps =>
        refine ⟨r, _, rfl, Tidy.own_of_bare ht hx fun hP port hport => ?_, rfl, fun hP => hsmooth hP.1⟩
        -- nothing had been taken
        have hnone : bindings = [] := by
          have hfalse := hkeeps hP
          rw [htaken, Bool.or_eq_false_iff] at hfalse
          simpa using hfalse.2
        simpa [hnone, ports] using hport
    · intro what own' t' hsmooth hkeeps
      exact ⟨r, own', rfl, Tidy.own_of_bare ht hx fun hP port hport => (hkeeps hP).2 ▸ hport, rfl,
        fun hP => hsmooth hP.1⟩

inductive Prepared (r : SessionRuntimeResources) : SessionRuntimeResources → Prop
  | kept : r.execution.isSome → r.lifecyclePhase ≠ .stopping → Prepared r r
  | built {r' : SessionRuntimeResources} {execution : Execution} : r.execution = none →
      r'.execution = some execution → execution.Startable → r'.lifecyclePhase = .idle → Prepared r r'

include hB in
theorem prepareLocked_wp (ht : r.Tidy P B own true) :
    (prepareLocked yaml session a).wp (gr4Local P G x) (Ends P B a fun res r' => match res with
      | .ok () => Prepared r r'
      | .error _ => r' = r ∧ ¬ (P.smooth ∧ P.stops ∧ Preparable yaml session)) ⟨some (a, r), own⟩ t := by
  apply Action.wp_seq
  apply read_wp (Tidy.whole ht)
  intro t
  dsimp only
  split
  · next hstopping => exact ⟨r, own, rfl, ht, rfl, fun hP => ht.stopping hP.2.1 hstopping⟩
  · next hstopping =>
    split
    · next hx => exact ⟨r, own, rfl, ht, .kept hx hstopping⟩
    · next hx =>
      have hx : r.execution = none := by simpa using hx
      refine Action.wp_mono ?_ (buildLocked_wp hB ht hx)
      rintro (thrown | ⟨⟩) v t ⟨r', own', rfl, ht', hR⟩
      · exact ⟨r', own', rfl, ht', hR.1, fun hP => hR.2 ⟨hP.1, hP.2.2⟩⟩
      · obtain ⟨execution, hx', hstart, hidle⟩ := hR
        exact ⟨r', own', rfl, ht', .built hx hx' hstart hidle⟩

end prepare

theorem schedulerStart_wp {Q : Except Thrown Unit → Gr4View → Trace gr4Interface → Prop} {execution : Execution}
    (hk : Whole P own r) (hx : r.execution = some execution) (hstart : P.starts → execution.Startable)
    (hG : G x execution.graph r.streamBindings)
    (hQ : ∀ res t', P.Admits t ⟨.schedulerStart a, res⟩ →
      Q res ⟨some (a, r.called (.start res)), own⟩ t') :
    (schedulerStart a).wp (gr4Local P G x) Q ⟨some (a, r), own⟩ t := by
  refine Action.wp_perform.mpr ⟨⟨kept_view (hk t), r, rfl, execution, hx, hstart, hG⟩, ?_⟩
  rintro res v' rfl hadm
  exact hQ res _ hadm

theorem schedulerStop_wp {Q : Except Thrown Unit → Gr4View → Trace gr4Interface → Prop} (hk : Whole P own r)
    (hQ : ∀ res t', P.Admits t ⟨.schedulerStop a, res⟩ → Q res ⟨some (a, r.called (.stop res)), own⟩ t') :
    (schedulerStop a).wp (gr4Local P G x) Q ⟨some (a, r), own⟩ t := by
  refine Action.wp_perform.mpr ⟨⟨kept_view (hk t), r, rfl⟩, ?_⟩
  rintro res v' rfl hadm
  exact hQ res _ hadm

structure Live (r : SessionRuntimeResources) : Prop where
  phase : r.lifecyclePhase = .running
  execution : ∃ x, r.execution = some x ∧ x.running

/-- The session may be started without starting a scheduler that already runs. -/
def MayStart (r : SessionRuntimeResources) : Prop :=
  r.lifecyclePhase = .failed → ∀ x, r.execution = some x → x.running = false

theorem Prepared.mayStart {r' : SessionRuntimeResources} (h : Prepared r r') (hr : MayStart r) : MayStart r' := by
  cases h with
  | kept => exact hr
  | built _ _ _ hidle => exact fun hfailed => by cases hidle.symm.trans hfailed

theorem Prepared.startable {r' : SessionRuntimeResources} (h : Prepared r r') (ht : r'.Tidy P B own true)
    (hr : P.starts → MayStart r) (hlive : ¬ (r'.execution.any (·.running) ∧ r'.lifecyclePhase = .running)) :
    ∃ execution, r'.execution = some execution ∧ (P.starts → execution.Startable) := by
  cases h with
  | built _ hx hstart _ => exact ⟨_, hx, fun _ => hstart⟩
  | kept hsome hstopping =>
    obtain ⟨execution, hx⟩ := Option.isSome_iff_exists.mp hsome
    refine ⟨execution, hx, fun hP => ht.dead execution hx ?_⟩
    by_contra hrun
    have hrun : execution.running = true := by simpa using hrun
    rcases ht.live hP execution hx hrun with hphase | hphase | hphase
    · exact hlive ⟨by simp [hx, hrun], hphase⟩
    · cases hrun.symm.trans (hr hP hphase execution hx)
    · exact hstopping hphase

theorem called_execution {execution : Execution} (hx : r.execution = some execution) (call : SchedulerCall) :
    (r.called call).execution = some { execution with calls := call :: execution.calls } := by
  simp [SessionRuntimeResources.called, hx]

theorem setRunning_execution {execution : Execution} (hx : r.execution = some execution) (running : Bool) :
    (setRunning running r).execution = some { execution with running := running } := by
  simp [setRunning, hx]

theorem tidy_called {execution : Execution} (res : Except Thrown Unit) (ht : r.Tidy P B own true)
    (hx : r.execution = some execution) (hstart : P.starts → execution.Startable) :
    ((starting r).called (.start res)).Tidy P B own true where
  locked := ht.locked
  asyncError := rfl
  bare h := by cases (called_execution (r := starting r) hx _).symm.trans h
  built x' hx' := by
    cases (called_execution (r := starting r) hx _).symm.trans hx'
    exact ht.built execution hx
  live hP x' hx' hrun := by
    cases (called_execution (r := starting r) hx _).symm.trans hx'
    cases (hstart hP).running.symm.trans hrun
  dead x' hx' hrun := by
    cases (called_execution (r := starting r) hx _).symm.trans hx'
    refine ⟨hrun, ?_⟩
    rintro call (_ | ⟨_, hcall⟩)
    · rfl
    · exact (ht.dead execution hx hrun).calls call hcall
  running h := by cases h
  clean _ h := by cases h
  nodup := ht.nodup
  held := ht.held
  keeps := ht.keeps
  stopping _ h := by cases h

theorem tidy_started {execution : Execution} (ht : r.Tidy P B own true) (hx : r.execution = some execution)
    (hclean : P.starts → ∀ call ∈ execution.calls, call.failedStop = false) :
    ({ setRunning true r with lifecyclePhase := .running } : SessionRuntimeResources).Tidy P B own true where
  locked := ht.locked
  asyncError := ht.asyncError
  bare h := by cases (setRunning_execution hx _).symm.trans h
  built x' hx' := by
    cases (setRunning_execution hx _).symm.trans hx'
    exact ht.built execution hx
  live _ _ _ _ := .inl rfl
  dead x' hx' hrun := by
    cases (setRunning_execution hx _).symm.trans hx'
    cases hrun
  running _ := ⟨_, setRunning_execution hx true, rfl⟩
  clean hP _ x' hx' := by
    cases (setRunning_execution hx _).symm.trans hx'
    exact hclean hP
  nodup := ht.nodup
  held := ht.held
  keeps := ht.keeps
  stopping _ h := by cases h

theorem startLocked_wp (hB : ∀ graph bindings, Built yaml session graph bindings → B graph bindings)
    (hG : ∀ graph bindings, B graph bindings → G x graph bindings)
    (ht : r.Tidy P B own true) (hr : P.starts → MayStart r) :
    (startLocked yaml session a).wp (gr4Local P G x) (Ends P B a fun res r' => match res with
      | .ok () => Live r'
      | .error _ => ¬ (P.smooth ∧ P.stops ∧ Preparable yaml session)) ⟨some (a, r), own⟩ t := by
  refine Action.wp_seq (Action.wp_mono ?_ (prepareLocked_wp hB ht))
  rintro (thrown | ⟨⟩) v t ⟨r', own', rfl, ht', hR⟩
  · exact ⟨r', own', rfl, ht', hR.2⟩
  apply Action.wp_seq
  apply read_wp (Tidy.whole ht')
  intro t
  dsimp only
  split
  · next hstopping => exact ⟨r', own', rfl, ht', fun hP => ht'.stopping hP.2.1 hstopping⟩
  · split
    · next hlive =>
      refine ⟨r', own', rfl, ht', hlive.2, ?_⟩
      simpa [Option.any_eq_true] using hlive.1
    · next hlive =>
      obtain ⟨execution, hx, hstart⟩ := hR.startable ht' hr hlive
      apply Action.wp_seq
      apply modify_wp (Tidy.whole ht' t) rfl
      intro t
      refine Action.wp_seq (schedulerStart_wp ?_ (by exact hx) hstart (hG _ _ (ht'.built execution hx)) ?_)
      · exact Whole.of_locked (Tidy.whole ht') rfl ht'.locked
      rintro (thrown | ⟨⟩) t hadm
      · exact ⟨_, own', rfl, tidy_called _ ht' hx hstart, fun hP => by cases hadm.smooth hP.1⟩
      · have ht'' := tidy_called (.ok ()) ht' hx hstart
        have hx'' := called_execution (r := starting r') hx (.start (.ok ()))
        have hclean : P.starts → ∀ call ∈ SchedulerCall.start (.ok ()) :: execution.calls, call.failedStop = false := by
          rintro hP call (_ | ⟨_, hcall⟩)
          · rfl
          · exact (hstart hP).calls call hcall
        exact modify_wp (Tidy.whole ht'' t) rfl fun t =>
          ⟨_, own', rfl, tidy_started ht'' hx'' hclean, rfl, _, setRunning_execution hx'' true, rfl⟩

structure TornDown (r : SessionRuntimeResources) : Prop where
  vacant : r.Vacant
  phase : r.lifecyclePhase = .idle

theorem TornDown.tidy (h : TornDown r) (hl : r.locked = true) (hasync : r.asyncError = none)
    (hown : P.keeps → own = ∅) : r.Tidy P B own true where
  locked := hl
  asyncError := hasync
  bare _ := h.vacant.streamBindings
  built x hx := by cases h.vacant.execution.symm.trans hx
  live _ x hx := by cases h.vacant.execution.symm.trans hx
  dead x hx := by cases h.vacant.execution.symm.trans hx
  running hphase := by cases h.phase.symm.trans hphase
  clean _ hphase := by cases h.phase.symm.trans hphase
  nodup := by simp [h.vacant.streamBindings, ports]
  held := by simp [h.vacant.streamBindings, ports]
  keeps hP := by simp [hown hP]
  stopping _ hphase := by cases h.phase.symm.trans hphase

theorem released_own (hkeeps : P.keeps → ∀ port ∈ own, port ∈ ports r.streamBindings) :
    P.keeps → own \ (ports r.streamBindings).toFinset = ∅ := by
  intro hP
  rw [Finset.sdiff_eq_empty_iff_subset]
  exact fun port hport => List.mem_toFinset.mpr (hkeeps hP port hport)

def Stopped (P : Gr4Policy) : Except Thrown Unit → SessionRuntimeResources → Prop
  | .ok (), r => TornDown r
  | .error _, _ => ¬ (P.smooth ∧ P.stops)

theorem finishStop_wp (hk : Whole P own r) (hown : ∀ port ∈ ports r.streamBindings, port ∈ own)
    (hl : r.locked = true) (hasync : r.asyncError = none)
    (hkeeps : P.keeps → ∀ port ∈ own, port ∈ ports r.streamBindings) :
    (finishStop session a).wp (gr4Local P G x) (Ends P B a (Stopped P)) ⟨some (a, r), own⟩ t := by
  apply Action.wp_seq
  apply modify_wp (hk t) rfl
  intro t
  refine Action.wp_seq (releaseStreamBindingsLocked_wp (r := setRunning false r) ?_ hown fun t => ?_)
  · exact Whole.of_locked hk rfl hl
  apply Action.wp_seq
  apply modify_wp (Whole.of_empty rfl (by exact hl) t) rfl
  intro t
  apply Action.wp_seq
  apply read_wp (Whole.of_empty rfl (by exact hl))
  intro t
  dsimp only [setRunning]
  rw [hasync]
  refine modify_wp (Whole.of_empty rfl (by exact hl) t) rfl fun t => ⟨_, _, rfl, ?_, ⟨⟨rfl, rfl⟩, rfl⟩⟩
  exact TornDown.tidy ⟨⟨rfl, rfl⟩, rfl⟩ hl rfl (released_own hkeeps)

theorem tidy_failed {execution : Execution} (thrown : Thrown) (phase : LifecyclePhase) (teardownError : Option Bytes)
    (ht : r.Tidy P B own true) (hx : r.execution = some execution) (hrun : execution.running = true)
    (hphase : phase = .failed ∨ phase = .stopping ∧ ¬ P.stops) :
    ({ r.called (.stop (.error thrown)) with
      lifecyclePhase := phase
      teardownComplete := false
      teardownError := teardownError } : SessionRuntimeResources).Tidy P B own true where
  locked := ht.locked
  asyncError := ht.asyncError
  bare h := by cases (called_execution hx _).symm.trans h
  built x' hx' := by
    cases (called_execution hx _).symm.trans hx'
    exact ht.built execution hx
  live _ _ _ _ := .inr (hphase.imp id And.left)
  dead x' hx' hrun' := by
    cases (called_execution hx _).symm.trans hx'
    cases hrun.symm.trans hrun'
  running h := by rcases hphase with rfl | ⟨rfl, -⟩ <;> cases h
  clean _ h := by rcases hphase with rfl | ⟨rfl, -⟩ <;> cases h
  nodup := ht.nodup
  held := ht.held
  keeps := ht.keeps
  stopping hP h := by
    rcases hphase with rfl | ⟨-, hstops⟩
    · cases h
    · exact hstops hP

def stopping (r : SessionRuntimeResources) : SessionRuntimeResources :=
  { r with lifecyclePhase := .stopping, teardownComplete := false, teardownError := none }

theorem stopLocked_wp (ht : r.Tidy P B own true) :
    (stopLocked session a).wp (gr4Local P G x) (Ends P B a (Stopped P)) ⟨some (a, r), own⟩ t := by
  have hfinish : ∀ {r' : SessionRuntimeResources} {t}, r'.streamBindings = r.streamBindings → r'.locked = true →
      r'.asyncError = none →
      (finishStop session a).wp (gr4Local P G x) (Ends P B a (Stopped P)) ⟨some (a, r'), own⟩ t :=
    fun hb hl hasync => finishStop_wp (Whole.of_locked (Tidy.whole ht) hb hl) (hb ▸ ht.held) hl hasync (hb ▸ ht.keeps)
  apply Action.wp_seq
  apply read_wp (Tidy.whole ht)
  intro t
  dsimp only
  split
  · next hx =>
    have hdown : Whole P (own \ (ports r.streamBindings).toFinset) { r with streamBindings := [] } :=
      Whole.of_empty rfl ht.locked
    apply Action.wp_seq
    apply releaseStreamBindingsLocked_wp (Tidy.whole ht) ht.held
    intro t
    refine modify_wp (hdown t) rfl fun t => ⟨_, _, rfl, ?_, ⟨⟨hx, rfl⟩, rfl⟩⟩
    exact TornDown.tidy ⟨⟨hx, rfl⟩, rfl⟩ ht.locked ht.asyncError (released_own ht.keeps)
  · next execution hx =>
    split
    · next hstopping => exact ⟨r, own, rfl, ht, fun hP => ht.stopping hP.2 hstopping⟩
    · have hk : Whole P own (stopping r) := Whole.of_locked (Tidy.whole ht) rfl ht.locked
      apply Action.wp_seq
      apply modify_wp (Tidy.whole ht t) rfl
      intro t
      dsimp only
      split
      · next hrun =>
        refine Action.wp_seq (Action.wp_seq (Action.wp_attempt.mpr
          (schedulerStop_wp hk fun res t hadm => ?_)))
        rcases res with (what | _) | ⟨⟩
        · refine Action.wp_seq (modify_wp
            (Whole.of_locked hk (by rfl) (by exact ht.locked) t) rfl fun t => ?_)
          have ht' := tidy_failed (.exception what) .failed (some (ascii "failed to stop scheduler: " ++ cString what))
            ht hx hrun (.inl rfl)
          exact ⟨_, own, rfl, ht', fun hP => by cases hadm.smooth hP.1⟩
        · have hstops : ¬ P.stops := fun hP => by cases hadm.stops hP
          exact ⟨_, own, rfl, tidy_failed .unknown .stopping none ht hx hrun (.inr ⟨rfl, hstops⟩), fun hP => hstops hP.2⟩
        · exact hfinish rfl ht.locked ht.asyncError
      · exact hfinish rfl ht.locked ht.asyncError

theorem destroyLocked_wp (ht : r.Tidy P B own true) :
    (destroyLocked session a).wp (gr4Local P G x) (Ends P B a (Stopped P)) ⟨some (a, r), own⟩ t := by
  refine Action.wp_seq (Action.wp_mono ?_ (stopLocked_wp ht))
  rintro (thrown | ⟨⟩) v t ⟨r', own', rfl, ht', hR⟩
  · exact ⟨r', own', rfl, ht', hR⟩
  obtain ⟨⟨hx, hb⟩, hphase⟩ := hR
  have hown : P.keeps → own' \ (ports r'.streamBindings).toFinset = ∅ := released_own ht'.keeps
  apply Action.wp_seq
  apply modify_wp (Tidy.whole ht' t) rfl
  intro t
  refine Action.wp_seq (releaseStreamBindingsLocked_wp
    (Whole.of_locked (Tidy.whole ht') (by rfl) (by exact ht'.locked)) ht'.held fun t => ?_)
  refine modify_wp (Whole.of_empty rfl (by exact ht'.locked) t) rfl fun t => ⟨_, _, rfl, ?_, ⟨⟨rfl, rfl⟩, rfl⟩⟩
  exact TornDown.tidy ⟨⟨rfl, rfl⟩, rfl⟩ ht'.locked ht'.asyncError hown

theorem Tidy.lock {locked : Bool} (ht : r.Tidy P B own locked) (l : Bool) :
    ({ r with locked := l } : SessionRuntimeResources).Tidy P B own l :=
  { ht with locked := rfl }

theorem withLock_wp {body : Gr4Action α} {R : Except Thrown α → SessionRuntimeResources → Prop}
    (ht : r.Tidy P B own false)
    (hbody : ∀ t, body.wp (gr4Local P G x) (Ends P B a R) ⟨some (a, { r with locked := true }), own⟩ t)
    (hQ : ∀ res r' own' t, r'.Tidy P B own' true → R res r' →
      Q res ⟨some (a, { r' with locked := false }), own'⟩ t) :
    (withLock a body).wp (gr4Local P G x) Q ⟨some (a, r), own⟩ t := by
  refine Action.wp_seq (Action.wp_call.mpr ⟨⟨kept_view (Tidy.whole ht t), r, rfl, ht.locked⟩, ?_⟩)
  rintro ans v' rfl -
  refine Action.wp_seq (Action.wp_attempt.mpr (Action.wp_mono ?_ (hbody _)))
  rintro res v t ⟨r', own', rfl, ht', hR⟩
  refine Action.wp_seq (Action.wp_call.mpr ⟨⟨kept_view (Tidy.whole ht' t), r', rfl⟩, ?_⟩)
  rintro ans v' rfl -
  exact hQ res r' own' _ ht' hR

end Gr4RuntimeManager

end Gr4ControlPlane
