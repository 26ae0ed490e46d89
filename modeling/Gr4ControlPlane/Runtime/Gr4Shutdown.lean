import Gr4ControlPlane.Interleaving.Total
import Gr4ControlPlane.Runtime.Gr4Ports

open Gr4ControlPlane.Interleaving

namespace Gr4ControlPlane

namespace StreamBindingAllocator

def releaseAll (allocator : StreamBindingAllocator) (bindings : List RuntimeStreamBinding) :
    StreamBindingAllocator :=
  bindings.foldl (fun allocator binding => allocator.release binding.internal) allocator

theorem mem_releaseAll {allocator : StreamBindingAllocator} {bindings : List RuntimeStreamBinding} {port : Nat} :
    port ∈ (allocator.releaseAll bindings).allocatedPorts ↔
      port ∈ allocator.allocatedPorts ∧ port ∉ ports bindings := by
  induction bindings generalizing allocator with
  | nil => simp [releaseAll, ports]
  | cons binding bindings ih =>
    have hcons : allocator.releaseAll (binding :: bindings) =
        (allocator.release binding.internal).releaseAll bindings := rfl
    rw [hcons, ih, release, Finset.mem_erase]
    simp only [ports, List.map_cons, List.mem_cons, not_or]
    tauto

end StreamBindingAllocator

namespace SessionRuntimeResources

variable (r : SessionRuntimeResources)

/-- An earlier stop of the scheduler was left half done. -/
def stuck : Bool := r.execution.isSome && decide (r.lifecyclePhase = .stopping)

def stoppable : Bool := r.execution.any (·.running) && decide (r.lifecyclePhase ≠ .stopping)

end SessionRuntimeResources

namespace Gr4State

def cleared (σ : Gr4State) : Gr4State := { σ with resources := ∅ }

def put (σ : Gr4State) (a : Nat) (r : SessionRuntimeResources) (allocator : StreamBindingAllocator) : Gr4State :=
  { σ with heap := σ.heap.set a r, streamAllocator := allocator }

variable {σ : Gr4State} {a b : Nat} {r r' : SessionRuntimeResources} {allocator allocator' : StreamBindingAllocator}

theorem put_self (hr : σ.heap[a]? = some r) : σ.put a r σ.streamAllocator = σ := by
  obtain ⟨hlt, rfl⟩ := List.getElem?_eq_some_iff.mp hr
  rw [put, List.set_getElem_self]

theorem put_heap (hlt : a < σ.heap.length) : (σ.put a r allocator).heap[a]? = some r := List.getElem?_set_self hlt

theorem put_heap_of_ne (hb : b ≠ a) : (σ.put a r allocator).heap[b]? = σ.heap[b]? := List.getElem?_set_ne hb.symm

theorem put_modify (hlt : a < σ.heap.length) (f : SessionRuntimeResources → SessionRuntimeResources) :
    (σ.put a r allocator).modify a f = σ.put a (f r) allocator := by
  have hheap : (σ.heap.set a r).modify a f = σ.heap.set a (f r) := by
    refine List.ext_getElem? fun b => ?_
    rw [List.getElem?_modify]
    by_cases hb : a = b
    · subst hb
      simp [List.getElem?_set_self hlt]
    · simp [hb, List.getElem?_set_ne hb]
  unfold modify put
  dsimp only
  rw [hheap]

end Gr4State

def schedulerStops : Trace gr4Interface → List (Nat × Except Thrown Unit)
  | [] => []
  | ⟨.schedulerStop a, r⟩ :: t => (a, r) :: schedulerStops t
  | _ :: t => schedulerStops t

namespace Gr4RuntimeManager

/-- The session that the destructor makes up for a teardown. -/
def sessionOf (id : Bytes) : Session where
  id := id
  name := []
  grcContent := []
  schedulerAlias := none
  state := .stopped
  lastError := none
  createdAt := 0
  updatedAt := 0

def tearDown (a : Nat) : Gr4Action Unit := do
  let resources ← read a
  let _ ← (withLock a (stopLocked (sessionOf resources.sessionId) a)).attempt
  return ()

/-- The loop of `~Gr4RuntimeManager`, over what was in `resources_`. -/
def tearDownAll : List Nat → Gr4Action Unit
  | [] => pure ()
  | a :: as => do
    tearDown a
    tearDownAll as

/-- `~Gr4RuntimeManager` over `resources_` in this order, which is the hash map's. -/
def shutDown (yaml : YamlPmt) (order : List Nat) (envs : Nat → Gr4Env) (σ : Gr4State) :
    Option (Except Thrown Unit × Gr4State × Trace gr4Interface) :=
  (tearDownAll order).run.alone (gr4System yaml) envs σ.cleared []

/-- What the teardown makes of resources: the stops it asks for, what it leaves and which bindings it gives back. -/
inductive Closes (a : Nat) (r : SessionRuntimeResources) :
    List (Nat × Except Thrown Unit) → SessionRuntimeResources → List RuntimeStreamBinding → Prop
  | stuck {r'} : r.stuck → r'.execution.isSome → Closes a r [] r' []
  | refused {r' err} : r.stoppable → r'.execution.isSome → Closes a r [(a, .error err)] r' []
  | down {r'} : r.stuck = false → r'.execution = none →
      Closes a r (if r.stoppable then [(a, .ok ())] else []) r' r.streamBindings

section

variable {yaml : YamlPmt} {σ : Gr4State} {a : Nat} {r : SessionRuntimeResources} {allocator : StreamBindingAllocator}
  {t t₀ : Trace gr4Interface} {α : Type} {session : Session}

theorem read_total {Q : Except Thrown SessionRuntimeResources → Gr4State → Trace gr4Interface → Prop}
    (hlt : a < σ.heap.length)
    (hQ : ∀ t', schedulerStops t' = schedulerStops t → Q (.ok r) (σ.put a r allocator) t') :
    (read a).total (gr4System yaml) Q (σ.put a r allocator) t :=
  Action.total_call fun _ => ⟨r, _, by simp only [Gr4State.exec, Gr4State.put_heap hlt, Option.map_some], hQ _ rfl⟩

theorem modify_total {Q : Except Thrown Unit → Gr4State → Trace gr4Interface → Prop} (hlt : a < σ.heap.length)
    {f : SessionRuntimeResources → SessionRuntimeResources}
    (hQ : ∀ t', schedulerStops t' = schedulerStops t → Q (.ok ()) (σ.put a (f r) allocator) t') :
    (modify a f).total (gr4System yaml) Q (σ.put a r allocator) t :=
  Action.total_call fun _ => ⟨(), _, congrArg (fun σ => some ((), σ)) (Gr4State.put_modify hlt f), hQ _ rfl⟩

theorem releaseBindings_total {Q : Except Thrown Unit → Gr4State → Trace gr4Interface → Prop}
    {bindings : List RuntimeStreamBinding} (hQ : ∀ t', schedulerStops t' = schedulerStops t →
      Q (.ok ()) (σ.put a r (allocator.releaseAll bindings)) t') :
    (releaseBindings bindings).total (gr4System yaml) Q (σ.put a r allocator) t := by
  induction bindings generalizing allocator t with
  | nil => exact hQ t rfl
  | cons binding bindings ih =>
    refine Action.total_seq (Action.total_call fun _ => ⟨(), _, rfl, ?_⟩)
    exact @ih (allocator.release binding.internal) _ fun t' ht' => hQ t' ht'

theorem releaseStreamBindingsLocked_total {Q : Except Thrown Unit → Gr4State → Trace gr4Interface → Prop}
    (hlt : a < σ.heap.length) (hQ : ∀ t', schedulerStops t' = schedulerStops t →
      Q (.ok ()) (σ.put a { r with streamBindings := [] } (allocator.releaseAll r.streamBindings)) t') :
    (releaseStreamBindingsLocked a).total (gr4System yaml) Q (σ.put a r allocator) t := by
  refine Action.total_seq (read_total hlt fun t₁ h₁ => ?_)
  refine Action.total_seq (releaseBindings_total fun t₂ h₂ => ?_)
  exact modify_total hlt fun t₃ h₃ => hQ t₃ (h₃.trans (h₂.trans h₁))

def TearsDown (σ : Gr4State) (a : Nat) (r : SessionRuntimeResources) (allocator : StreamBindingAllocator)
    (t : Trace gr4Interface) (_ : Except Thrown α) (σ' : Gr4State) (t' : Trace gr4Interface) : Prop :=
  ∃ new r' released, Closes a r new r' released ∧ σ' = σ.put a r' (allocator.releaseAll released) ∧
    schedulerStops t' = new ++ schedulerStops t

theorem finishStop_total {new : List (Nat × Except Thrown Unit)} {r₀ : SessionRuntimeResources}
    (hlt : a < σ.heap.length)
    (hdown : ∀ r', r'.execution = none → Closes a r₀ new r' r.streamBindings)
    (ht : schedulerStops t = new ++ schedulerStops t₀) :
    (finishStop session a).total (gr4System yaml) (TearsDown σ a r₀ allocator t₀) (σ.put a r allocator) t := by
  refine Action.total_seq (modify_total hlt fun t₁ h₁ => ?_)
  refine Action.total_seq (releaseStreamBindingsLocked_total hlt fun t₂ h₂ => ?_)
  refine Action.total_seq (modify_total hlt fun t₃ h₃ => ?_)
  refine Action.total_seq (read_total hlt fun t₄ h₄ => ?_)
  have hstops : schedulerStops t₄ = new ++ schedulerStops t₀ := h₄.trans (h₃.trans (h₂.trans (h₁.trans ht)))
  dsimp only [setRunning]
  split
  · refine Action.total_seq (modify_total hlt fun t₅ h₅ => ?_)
    exact ⟨new, _, _, hdown _ rfl, rfl, h₅.trans hstops⟩
  · exact modify_total hlt fun t₅ h₅ => ⟨new, _, _, hdown _ rfl, rfl, h₅.trans hstops⟩

theorem stopLocked_total (hlt : a < σ.heap.length) :
    (stopLocked session a).total (gr4System yaml) (TearsDown σ a r allocator t) (σ.put a r allocator) t := by
  refine Action.total_seq (read_total hlt fun t₁ h₁ => ?_)
  dsimp only
  split
  · next hx =>
    have hstuck : r.stuck = false := by simp [SessionRuntimeResources.stuck, hx]
    have hstoppable : r.stoppable = false := by simp [SessionRuntimeResources.stoppable, hx]
    refine Action.total_seq (releaseStreamBindingsLocked_total hlt fun t₂ h₂ => ?_)
    refine modify_total hlt fun t₃ h₃ => ⟨[], _, _, ?_, rfl, h₃.trans (h₂.trans h₁)⟩
    have hdown := @Closes.down a r (settled { r with streamBindings := [] }) hstuck hx
    rwa [hstoppable] at hdown
  · next execution hx =>
    split
    · next hstopping =>
      refine ⟨[], r, [], .stuck ?_ (Option.isSome_iff_exists.mpr ⟨_, hx⟩), rfl, h₁⟩
      simp [SessionRuntimeResources.stuck, hx, hstopping]
    · next hstopping =>
      have hstuck : r.stuck = false := by simp [SessionRuntimeResources.stuck, hstopping]
      refine Action.total_seq (modify_total hlt fun t₂ h₂ => ?_)
      dsimp only
      split
      · next hrun =>
        have hstoppable : r.stoppable = true := by simp [SessionRuntimeResources.stoppable, hx, hrun, hstopping]
        refine Action.total_seq (Action.total_seq (Action.total_attempt (Action.total_perform fun e => ?_)))
        refine ⟨e.outcome, _, congrArg (fun σ => some (e.outcome, σ)) (Gr4State.put_modify hlt _), ?_⟩
        have hstops : ∀ outcome, schedulerStops (⟨.schedulerStop a, outcome⟩ :: t₂) =
            [(a, outcome)] ++ schedulerStops t :=
          fun outcome => congrArg _ (h₂.trans h₁)
        rcases e.outcome with (what | _) | ⟨⟩
        · refine Action.total_seq (modify_total hlt fun t₃ h₃ => ?_)
          exact ⟨_, _, [], .refused hstoppable (by simp [SessionRuntimeResources.called, hx]), rfl,
            h₃.trans (hstops _)⟩
        · exact ⟨_, _, [], .refused hstoppable (by simp [SessionRuntimeResources.called, hx]), rfl, hstops _⟩
        · refine finishStop_total hlt (fun r' hr' => ?_) (hstops _)
          have hdown := @Closes.down a r r' hstuck hr'
          rwa [if_pos hstoppable] at hdown
      · next hrun =>
        have hstoppable : r.stoppable = false := by simp [SessionRuntimeResources.stoppable, hx, hrun]
        have hstops : schedulerStops t₂ = [] ++ schedulerStops t := h₂.trans h₁
        refine finishStop_total hlt (fun r' hr' => ?_) hstops
        have hdown := @Closes.down a r r' hstuck hr'
        rwa [hstoppable] at hdown

theorem Closes.of_locked {b b' : Bool} {r' : SessionRuntimeResources} {new : List (Nat × Except Thrown Unit)}
    {released : List RuntimeStreamBinding} (h : Closes a { r with locked := b } new r' released) :
    Closes a r new { r' with locked := b' } released := by
  cases h with
  | stuck hstuck hx => exact .stuck hstuck hx
  | refused hstop hx => exact .refused hstop hx
  | down hstuck hx => exact .down hstuck hx

theorem withLock_total {body : Gr4Action α} (hlt : a < σ.heap.length) (hlocked : r.locked = false)
    (hbody : ∀ t', schedulerStops t' = schedulerStops t →
      body.total (gr4System yaml) (TearsDown σ a { r with locked := true } allocator t)
        (σ.put a { r with locked := true } allocator) t') :
    (withLock a body).total (gr4System yaml) (TearsDown σ a r allocator t) (σ.put a r allocator) t := by
  have hlock : ∀ e, (gr4System yaml).exec (.lock a) e (σ.put a r allocator) =
      some ((), σ.put a { r with locked := true } allocator) := by
    intro e
    simp only [Gr4State.exec, Gr4State.put_heap hlt, Option.bind_some, hlocked, Bool.false_eq_true, if_false,
      Gr4State.put_modify hlt]
  refine Action.total_seq (Action.total_call fun e => ⟨(), _, hlock e, ?_⟩)
  refine Action.total_seq (Action.total_attempt (Action.total_mono ?_ (hbody _ rfl)))
  rintro res σ' t' ⟨new, r', released, hcloses, rfl, ht'⟩
  have hunlock := @Gr4State.put_modify σ a r' (allocator.releaseAll released) hlt ({ · with locked := false })
  refine Action.total_seq (Action.total_call fun e => ⟨(), _, congrArg (fun σ => some ((), σ)) hunlock, ?_⟩)
  exact ⟨new, _, released, hcloses.of_locked, rfl, ht'⟩

theorem tearDown_total (hlt : a < σ.heap.length) (hlocked : r.locked = false) :
    (tearDown a).total (gr4System yaml) (fun res σ' t' => res = .ok () ∧ TearsDown σ a r allocator t res σ' t')
      (σ.put a r allocator) t := by
  refine Action.total_seq (read_total hlt fun t₁ h₁ => ?_)
  refine Action.total_seq (Action.total_attempt (Action.total_mono ?_ (withLock_total hlt hlocked fun t₂ h₂ => ?_)))
  · rintro res σ' t' ⟨new, r', released, hcloses, rfl, ht'⟩
    exact ⟨rfl, new, r', released, hcloses, rfl, ht'.trans (congrArg _ h₁)⟩
  · exact Action.total_mono (fun _ _ _ ⟨new, r', released, hcloses, hσ, ht'⟩ =>
      ⟨new, r', released, hcloses, hσ, ht'.trans (congrArg _ h₂)⟩) (stopLocked_total hlt)

end

def Freed (σ : Gr4State) (stops : List (Nat × Except Thrown Unit)) (a : Nat) (r : SessionRuntimeResources) : Prop :=
  σ.heap[a]? = some r ∧ r.stuck = false ∧ ∀ err, (a, .error err) ∉ stops

structure ShutDown (σ : Gr4State) (as : List Nat) (stops : List (Nat × Except Thrown Unit)) (σ' : Gr4State) :
    Prop where
  resources : σ'.resources = σ.resources
  stopped : stops.map Prod.fst = as.filter fun a => σ.heap[a]?.any (·.stoppable)
  freed : ∀ a ∈ as, ∀ r, σ.heap[a]? = some r →
    ∃ r', σ'.heap[a]? = some r' ∧ (r'.execution = none ↔ Freed σ stops a r)
  others : ∀ a, a ∉ as → σ'.heap[a]? = σ.heap[a]?
  allocated : ∀ port, port ∈ σ'.streamAllocator.allocatedPorts ↔ port ∈ σ.streamAllocator.allocatedPorts ∧
    ∀ a ∈ as, ∀ r, Freed σ stops a r → port ∉ ports r.streamBindings

section

variable {yaml : YamlPmt} {σ σ' : Gr4State} {a : Nat} {as : List Nat} {r r' : SessionRuntimeResources}
  {t : Trace gr4Interface} {new stops : List (Nat × Except Thrown Unit)} {released : List RuntimeStreamBinding}

theorem ShutDown.nil : ShutDown σ [] [] σ where
  resources := rfl
  stopped := rfl
  freed _ h := nomatch h
  others _ _ := rfl
  allocated port := by simp

theorem ShutDown.fst_mem (h : ShutDown σ as stops σ') {p : Nat × Except Thrown Unit} (hp : p ∈ stops) :
    p.1 ∈ as := by
  have hmem : p.1 ∈ stops.map Prod.fst := List.mem_map_of_mem hp
  rw [h.stopped] at hmem
  exact List.mem_of_mem_filter hmem

theorem stuck_of_stoppable (h : r.stoppable) : r.stuck = false := by
  simp only [SessionRuntimeResources.stoppable, Bool.and_eq_true, decide_eq_true_eq] at h
  simp [SessionRuntimeResources.stuck, h.2]

namespace Closes

theorem reverse (h : Closes a r new r' released) : new.reverse = new := by
  cases h with
  | stuck | refused => rfl
  | down => split <;> rfl

theorem stopped (h : Closes a r new r' released) : new.map Prod.fst = if r.stoppable then [a] else [] := by
  cases h with
  | stuck hstuck =>
    have hstoppable : ¬ r.stoppable := fun hstop => by simp [stuck_of_stoppable hstop] at hstuck
    rw [if_neg hstoppable]
    rfl
  | refused hstop => rw [if_pos hstop]; rfl
  | down => split <;> rfl

theorem fst_eq (h : Closes a r new r' released) {p : Nat × Except Thrown Unit} (hp : p ∈ new) : p.1 = a := by
  have hmem : p.1 ∈ new.map Prod.fst := List.mem_map_of_mem hp
  rw [h.stopped] at hmem
  split at hmem
  · exact List.mem_singleton.mp hmem
  · cases hmem

theorem freed (h : Closes a r new r' released) :
    r'.execution = none ↔ r.stuck = false ∧ ∀ err, (a, .error err) ∉ new := by
  cases h with
  | stuck hstuck hx => simp [hstuck, Option.isSome_iff_ne_none.mp hx]
  | @refused _ err hstop hx =>
    refine iff_of_false (Option.isSome_iff_ne_none.mp hx) fun hnone => hnone.2 err ?_
    exact List.mem_singleton_self _
  | down hstuck hx =>
    refine iff_of_true hx ⟨hstuck, fun err hmem => ?_⟩
    split at hmem <;> simp at hmem

theorem mem_released (h : Closes a r new r' released) {port : Nat} :
    port ∈ ports released ↔ r'.execution = none ∧ port ∈ ports r.streamBindings := by
  cases h with
  | stuck _ hx | refused _ hx => simp [ports, Option.isSome_iff_ne_none.mp hx]
  | down _ hx => simp [hx]

theorem freed_first (h : Closes a r new r' released) (hr : σ.heap[a]? = some r)
    (hstops : ∀ err, (a, .error err) ∉ stops) {r₀ : SessionRuntimeResources} :
    Freed σ (new ++ stops) a r₀ ↔ r₀ = r ∧ r'.execution = none := by
  simp only [Freed, hr, Option.some.injEq, List.mem_append, not_or, hstops, not_false_eq_true, and_true, h.freed]
  constructor
  · rintro ⟨rfl, hfree⟩
    exact ⟨rfl, hfree⟩
  · rintro ⟨rfl, hfree⟩
    exact ⟨rfl, hfree⟩

theorem freed_of_ne (h : Closes a r new r' released) {b : Nat} (hb : b ≠ a) {allocator : StreamBindingAllocator}
    {r₀ : SessionRuntimeResources} : Freed σ (new ++ stops) b r₀ ↔ Freed (σ.put a r' allocator) stops b r₀ := by
  have hnew : ∀ err, (b, .error err) ∉ new := fun err hmem => hb (h.fst_eq hmem)
  simp only [Freed, Gr4State.put_heap_of_ne hb, List.mem_append, not_or, hnew, not_false_eq_true, true_and]

end Closes

theorem ShutDown.cons (hr : σ.heap[a]? = some r) (ha : a ∉ as) (hcloses : Closes a r new r' released)
    (h : ShutDown (σ.put a r' (σ.streamAllocator.releaseAll released)) as stops σ') :
    ShutDown σ (a :: as) (new ++ stops) σ' := by
  have hlt : a < σ.heap.length := (List.getElem?_eq_some_iff.mp hr).1
  have hne : ∀ {b}, b ∈ as → b ≠ a := fun hb heq => ha (heq ▸ hb)
  have hstops : ∀ err, (a, .error err) ∉ stops := fun err hmem => ha (h.fst_mem hmem)
  constructor
  · exact h.resources
  · rw [List.map_append, hcloses.stopped, h.stopped, List.filter_cons, hr, Option.any_some]
    have hrest : as.filter (fun b =>
        (σ.put a r' (σ.streamAllocator.releaseAll released)).heap[b]?.any (·.stoppable)) =
        as.filter fun b => σ.heap[b]?.any (·.stoppable) :=
      List.filter_congr fun b hb => by rw [Gr4State.put_heap_of_ne (hne hb)]
    rw [hrest]
    split <;> rfl
  · intro b hb r₀ hr₀
    rcases List.mem_cons.mp hb with rfl | hb
    · obtain rfl : r = r₀ := Option.some.inj (hr.symm.trans hr₀)
      refine ⟨r', (h.others b ha).trans (Gr4State.put_heap hlt), ?_⟩
      exact ((hcloses.freed_first hr hstops).trans (and_iff_right rfl)).symm
    · obtain ⟨r₁, hr₁, hiff⟩ := h.freed b hb r₀ ((Gr4State.put_heap_of_ne (hne hb)).trans hr₀)
      exact ⟨r₁, hr₁, hiff.trans (hcloses.freed_of_ne (hne hb)).symm⟩
  · intro b hb
    rw [List.mem_cons, not_or] at hb
    exact (h.others b hb.2).trans (Gr4State.put_heap_of_ne hb.1)
  · intro port
    have hput : port ∈ (σ.put a r' (σ.streamAllocator.releaseAll released)).streamAllocator.allocatedPorts ↔
        port ∈ σ.streamAllocator.allocatedPorts ∧ ¬ (r'.execution = none ∧ port ∈ ports r.streamBindings) :=
      StreamBindingAllocator.mem_releaseAll.trans (and_congr_right fun _ => not_congr hcloses.mem_released)
    rw [h.allocated, hput, and_assoc]
    refine and_congr_right fun _ => ?_
    rw [List.forall_mem_cons]
    refine and_congr ?_ (forall₂_congr fun b hb => forall_congr' fun r₀ => ?_)
    · constructor
      · rintro hport r₀ hfree
        obtain ⟨rfl, hx⟩ := (hcloses.freed_first hr hstops).mp hfree
        exact fun hmem => hport ⟨hx, hmem⟩
      · rintro hport ⟨hx, hmem⟩
        exact hport r ((hcloses.freed_first hr hstops).mpr ⟨rfl, hx⟩) hmem
    · exact imp_congr (hcloses.freed_of_ne (hne hb)).symm Iff.rfl

theorem tearDownAll_total (has : as.Nodup) (hr : ∀ a ∈ as, ∃ r, σ.heap[a]? = some r ∧ r.locked = false) :
    (tearDownAll as).total (gr4System yaml) (fun res σ' t' => res = .ok () ∧
      ∃ stops, ShutDown σ as stops σ' ∧ schedulerStops t' = stops.reverse ++ schedulerStops t) σ t := by
  induction as generalizing σ t with
  | nil => exact ⟨rfl, [], .nil, rfl⟩
  | cons a as ih =>
    obtain ⟨ha, has⟩ := List.nodup_cons.mp has
    obtain ⟨r, hra, hlocked⟩ := hr a List.mem_cons_self
    have hlt : a < σ.heap.length := (List.getElem?_eq_some_iff.mp hra).1
    have hfirst : (tearDown a).total (gr4System yaml) _ (σ.put a r σ.streamAllocator) t := tearDown_total hlt hlocked
    rw [Gr4State.put_self hra] at hfirst
    refine Action.total_seq (Action.total_mono ?_ hfirst)
    rintro res σ₁ t₁ ⟨rfl, new, r', released, hcloses, rfl, ht₁⟩
    have hrest : ∀ b ∈ as, ∃ r₀, (σ.put a r' (σ.streamAllocator.releaseAll released)).heap[b]? = some r₀ ∧
        r₀.locked = false := by
      intro b hb
      have hne : b ≠ a := fun heq => ha (heq ▸ hb)
      rw [Gr4State.put_heap_of_ne hne]
      exact hr b (List.mem_cons_of_mem _ hb)
    refine Action.total_mono ?_ (ih (t := t₁) has hrest)
    rintro res σ' t' ⟨rfl, stops, hshut, ht'⟩
    refine ⟨rfl, new ++ stops, hshut.cons hra ha hcloses, ?_⟩
    rw [ht', ht₁, List.reverse_append, hcloses.reverse, List.append_assoc]

variable (yaml) in
theorem shutDown_eq {order : List Nat} (horder : order.Nodup)
    (hr : ∀ a ∈ order, ∃ r, σ.heap[a]? = some r ∧ r.locked = false) (envs : Nat → Gr4Env) :
    ∃ σ' t, shutDown yaml order envs σ = some (.ok (), σ', t) ∧
      ShutDown σ.cleared order (schedulerStops t).reverse σ' := by
  have htotal : (tearDownAll order).total (gr4System yaml) _ σ.cleared [] := tearDownAll_total horder hr
  obtain ⟨_, σ', t, hrun, rfl, stops, hshut, ht⟩ := Program.total.alone htotal envs
  have hstops : (schedulerStops t).reverse = stops := by
    rw [ht]
    simp [schedulerStops]
  exact ⟨σ', t, hrun, hstops ▸ hshut⟩

theorem ShutDown.asked (h : ShutDown σ as stops σ') (ha : a ∈ as) (hr : σ.heap[a]? = some r)
    (hstop : r.stoppable) : a ∈ stops.map Prod.fst := by
  rw [h.stopped, List.mem_filter, hr, Option.any_some]
  exact ⟨ha, hstop⟩

theorem ShutDown.emptied (h : ShutDown σ as stops σ')
    (hstuck : ∀ a ∈ as, ∃ r, σ.heap[a]? = some r ∧ r.stuck = false)
    (hrest : ∀ a r, σ.heap[a]? = some r → a ∉ as → r.execution = none)
    (hstops : ∀ p ∈ stops, p.2 = .ok ()) : ∀ r ∈ σ'.heap, r.execution = none := by
  intro r' hr'
  obtain ⟨a, ha⟩ := List.mem_iff_getElem?.mp hr'
  by_cases hmem : a ∈ as
  · obtain ⟨r, hr, hfree⟩ := hstuck a hmem
    obtain ⟨r₁, hr₁, hiff⟩ := h.freed a hmem r hr
    obtain rfl : r' = r₁ := Option.some.inj (ha.symm.trans hr₁)
    exact hiff.mpr ⟨hr, hfree, fun err herr => nomatch hstops _ herr⟩
  · exact hrest a r' ((h.others a hmem).symm.trans ha) hmem

end

end Gr4RuntimeManager

end Gr4ControlPlane
