import Gr4ControlPlane.Runtime.Gr4RuntimeManager
import Gr4ControlPlane.Runtime.RuntimeOwnership

open Gr4ControlPlane.Interleaving

namespace Gr4ControlPlane

def ports (bindings : List RuntimeStreamBinding) : List Nat := bindings.map (·.internal.port)

/-- Neither an execution nor a stream binding. -/
structure SessionRuntimeResources.Vacant (r : SessionRuntimeResources) : Prop where
  execution : r.execution = none
  streamBindings : r.streamBindings = []

theorem SessionRuntimeResources.Vacant.fresh (id : Bytes) : (SessionRuntimeResources.fresh id).Vacant :=
  ⟨rfl, rfl⟩

/-- The session's entry in `resources_`, and the ports taken on its behalf. -/
@[ext]
structure Gr4View where
  entry : Option (Nat × SessionRuntimeResources)
  own : Finset Nat

def Gr4View.modify (v : Gr4View) (f : SessionRuntimeResources → SessionRuntimeResources) : Gr4View :=
  { v with entry := v.entry.map fun e => (e.1, f e.2) }

abbrev PortOwners := Bytes → Finset Nat

namespace Gr4State

variable {σ : Gr4State} {owners : PortOwners} {x y : Bytes} {a : Nat} {r : SessionRuntimeResources}

def view (x : Bytes) (σ : Gr4State) (owners : PortOwners) : Gr4View := ⟨σ.entry x, owners x⟩

structure Good (σ : Gr4State) (owners : PortOwners) : Prop where
  valid : ∀ x a, σ.resources.lookup x = some a → ∃ r, σ.heap[a]? = some r ∧ r.sessionId = x
  orphans : ∀ a r, σ.heap[a]? = some r → σ.resources.lookup r.sessionId ≠ some a → r.Vacant
  owned : ∀ port, port ∈ σ.streamAllocator.allocatedPorts ↔ ∃ x, port ∈ owners x
  single : ∀ x y port, port ∈ owners x → port ∈ owners y → x = y

theorem good_init : Good .init fun _ => ∅ where
  valid x a h := by cases h
  orphans a r h := by cases h
  owned port := by simp [init]
  single x y port h := by simp at h

theorem entry_iff : σ.entry x = some (a, r) ↔ σ.resources.lookup x = some a ∧ σ.heap[a]? = some r := by
  unfold entry
  rw [Option.bind_eq_some_iff]
  constructor
  · rintro ⟨a', ha, h⟩
    obtain ⟨r', hr, heq⟩ := Option.map_eq_some_iff.mp h
    cases heq
    exact ⟨ha, hr⟩
  · rintro ⟨ha, hr⟩
    exact ⟨a, ha, by rw [hr]; rfl⟩

theorem entry_eq_none (h : Good σ owners) : σ.entry x = none ↔ σ.resources.lookup x = none := by
  constructor
  · intro hx
    cases hl : σ.resources.lookup x with
    | none => rfl
    | some a =>
      obtain ⟨r, hr, -⟩ := h.valid x a hl
      cases hx.symm.trans (entry_iff.mpr ⟨hl, hr⟩)
  · intro hl
    unfold entry
    rw [hl]
    rfl

theorem Good.named (h : Good σ owners) (hx : σ.entry x = some (a, r)) : r.sessionId = x := by
  obtain ⟨ha, hr⟩ := entry_iff.mp hx
  obtain ⟨r', hr', hid⟩ := h.valid x a ha
  cases hr.symm.trans hr'
  exact hid

theorem Good.apart (h : Good σ owners) (hx : σ.resources.lookup x = some a)
    (hy : σ.resources.lookup y = some a) : x = y := by
  obtain ⟨r, hr, rfl⟩ := h.valid x a hx
  obtain ⟨r', hr', rfl⟩ := h.valid y a hy
  cases hr.symm.trans hr'
  rfl

section modify

variable {f : SessionRuntimeResources → SessionRuntimeResources}

theorem heap_modify {b : Nat} : (σ.modify a f).heap[b]? = if b = a then σ.heap[b]?.map f else σ.heap[b]? := by
  unfold Gr4State.modify
  rw [List.getElem?_modify]
  by_cases hb : a = b
  · simp [hb]
  · simp [hb, Ne.symm hb]

theorem entry_modify (hx : σ.entry x = some (a, r)) : (σ.modify a f).entry x = some (a, f r) := by
  obtain ⟨ha, hr⟩ := entry_iff.mp hx
  exact entry_iff.mpr ⟨ha, by rw [heap_modify, if_pos rfl, hr]; rfl⟩

theorem entry_modify_of_ne (h : Good σ owners) (hx : σ.entry x = some (a, r)) (hy : y ≠ x) :
    (σ.modify a f).entry y = σ.entry y := by
  have hl : (σ.modify a f).resources.lookup y = σ.resources.lookup y := rfl
  unfold entry
  rw [hl]
  cases hl' : σ.resources.lookup y with
  | none => rfl
  | some b =>
    have hb : b ≠ a := by
      rintro rfl
      exact hy (h.apart hl' (entry_iff.mp hx).1)
    simp only [Option.bind_some, heap_modify, if_neg hb]

theorem Good.modify (h : Good σ owners) (hx : σ.entry x = some (a, r)) (hf : (f r).sessionId = r.sessionId) :
    Good (σ.modify a f) owners where
  valid y b hb := by
    obtain ⟨r', hr', hid⟩ := h.valid y b hb
    rw [heap_modify]
    split
    · next hba =>
      subst hba
      cases hr'.symm.trans (entry_iff.mp hx).2
      exact ⟨f r, by rw [hr']; rfl, hf.trans hid⟩
    · exact ⟨r', hr', hid⟩
  orphans b r' hr' hb := by
    rw [heap_modify] at hr'
    split at hr'
    · next hba =>
      subst hba
      rw [(entry_iff.mp hx).2] at hr'
      cases hr'
      rw [hf, h.named hx] at hb
      exact absurd (entry_iff.mp hx).1 hb
    · exact h.orphans b r' hr' hb
  owned := h.owned
  single := h.single

end modify

theorem getOrCreateResources_known (hx : σ.entry x = some (a, r)) : σ.getOrCreateResources x = (a, σ) := by
  unfold getOrCreateResources
  rw [(entry_iff.mp hx).1]

theorem getOrCreateResources_new (h : Good σ owners) (hx : σ.entry x = none) :
    ∃ a σ', σ.getOrCreateResources x = (a, σ') ∧ Good σ' owners ∧ σ'.entry x = some (a, .fresh x) ∧
      ∀ y, y ≠ x → σ'.entry y = σ.entry y := by
  have hl := (entry_eq_none h).mp hx
  refine ⟨σ.heap.length, _, by rw [getOrCreateResources, hl], ?_, ?_, ?_⟩
  · refine ⟨fun y b hb => ?_, fun b r hr hb => ?_, h.owned, h.single⟩
    · by_cases hy : y = x
      · subst hy
        rw [Finmap.lookup_insert] at hb
        cases hb
        exact ⟨.fresh y, by simp, rfl⟩
      · rw [Finmap.lookup_insert_of_ne _ hy] at hb
        obtain ⟨r, hr, hid⟩ := h.valid y b hb
        exact ⟨r, by rw [List.getElem?_append_left (List.getElem?_eq_some_iff.mp hr).1, hr], hid⟩
    · rw [List.getElem?_append] at hr
      split at hr
      · have hne : r.sessionId = x → σ.resources.lookup r.sessionId ≠ some b := by
          rintro rfl
          simp [hl]
        refine h.orphans b r hr ?_
        by_cases hid : r.sessionId = x
        · exact hne hid
        · rwa [Finmap.lookup_insert_of_ne _ hid] at hb
      · rw [List.getElem?_singleton] at hr
        split at hr
        · cases hr
          exact .fresh x
        · cases hr
  · exact entry_iff.mpr ⟨Finmap.lookup_insert _, by simp⟩
  · intro y hy
    unfold entry
    rw [Finmap.lookup_insert_of_ne _ hy]
    cases hl' : σ.resources.lookup y with
    | none => rfl
    | some b =>
      obtain ⟨r, hr, -⟩ := h.valid y b hl'
      simp only [Option.bind_some]
      rw [List.getElem?_append_left (List.getElem?_eq_some_iff.mp hr).1]

theorem eraseResources_known (h : Good σ owners) (hx : σ.entry x = some (a, r)) (hr : r.Vacant) :
    Good (σ.eraseResources x a) owners ∧ (σ.eraseResources x a).entry x = none ∧
      ∀ y, y ≠ x → (σ.eraseResources x a).entry y = σ.entry y := by
  unfold eraseResources
  rw [if_pos (entry_iff.mp hx).1]
  refine ⟨⟨fun y b hb => ?_, fun b r' hr' hb => ?_, h.owned, h.single⟩, ?_, fun y hy => ?_⟩
  · have hy : y ≠ x := by
      rintro rfl
      simp at hb
    rw [Finmap.lookup_erase_ne hy] at hb
    exact h.valid y b hb
  · by_cases hba : b = a
    · subst hba
      cases hr'.symm.trans (entry_iff.mp hx).2
      exact hr
    · by_cases hid : r'.sessionId = x
      · refine h.orphans b r' hr' ?_
        rw [hid, (entry_iff.mp hx).1]
        exact fun heq => hba (Option.some.inj heq).symm
      · rw [Finmap.lookup_erase_ne hid] at hb
        exact h.orphans b r' hr' hb
  · unfold entry
    simp
  · unfold entry
    rw [Finmap.lookup_erase_ne hy]

end Gr4State

/-- The graphs and the bindings that the schedulers of a session may be started with. -/
abbrev Gr4Graphs := Bytes → Bytes → List RuntimeStreamBinding → Prop

/-- Which runs are considered; a run in which everything may happen assumes none of these. -/
structure Gr4Policy where
  /-- No scheduler's `stop` throws anything but a `std::exception`. -/
  stops : Prop
  /-- No prepare is cut short in a place where it does not give its ports back. -/
  keeps : Prop
  /-- No scheduler is asked to start while it runs. -/
  starts : Prop
  /-- Every call into GNU Radio and to the operating system succeeds. -/
  smooth : Prop

/-- The bindings given back by the latest commands of a call. -/
def handedBack : Trace gr4Interface → List InternalStreamBinding
  | ⟨.release binding, _⟩ :: t => binding :: handedBack t
  | _ => []

/-- Whether ports have been allocated since the call last saw to the environment. -/
def portsTaken : Trace gr4Interface → Bool
  | [] => false
  | ⟨.ensureRuntimeEnvironment, _⟩ :: _ => false
  | ⟨.allocate _, .ok _⟩ :: _ => true
  | _ :: t => portsTaken t

/-- `scheduler->stop()` throws something that is not a `std::exception`. -/
def foreignStop : Event gr4Interface → Bool
  | ⟨.schedulerStop _, .error .unknown⟩ => true
  | _ => false

/-- An exception that `prepare_locked` lets pass without giving its ports back. -/
def abandons : Event gr4Interface → Bool
  | ⟨.allocate _, .error _⟩ => true
  | ⟨.loadGrc _, .error .unknown⟩ => true
  | ⟨.availableSchedulers, .error .unknown⟩ => true
  | ⟨.instantiateScheduler _, .error .unknown⟩ => true
  | ⟨.setGraph, .error .unknown⟩ => true
  | _ => false

def Succeeds : Event gr4Interface → Prop
  | ⟨.allocate _, r⟩ => r.isOk
  | ⟨.ensureRuntimeEnvironment, r⟩ => r = .ok ()
  | ⟨.loadGrc _, r⟩ => r = .ok ()
  | ⟨.availableSchedulers, r⟩ => r.isOk
  | ⟨.instantiateScheduler _, r⟩ => r = .ok true
  | ⟨.setGraph, r⟩ => r = .ok ()
  | ⟨.schedulerStart _, r⟩ => r = .ok ()
  | ⟨.schedulerStop _, r⟩ => r = .ok ()
  | _ => True

structure Gr4Policy.Admits (P : Gr4Policy) (t : Trace gr4Interface) (ev : Event gr4Interface) : Prop where
  stops : P.stops → foreignStop ev = false
  keeps : P.keeps → portsTaken t = true → abandons ev = false
  smooth : P.smooth → Succeeds ev

def SchedulerCall.failedStop : SchedulerCall → Bool
  | .stop (.error _) => true
  | _ => false

structure Execution.Startable (x : Execution) : Prop where
  running : x.running = false
  calls : ∀ call ∈ x.calls, call.failedStop = false

/-- What holds of a session's resources before every command of its calls. -/
structure SessionRuntimeResources.Kept (P : Gr4Policy) (own : Finset Nat) (t : Trace gr4Interface)
    (r : SessionRuntimeResources) : Prop where
  nodup : (ports r.streamBindings).Nodup
  held : ∀ binding ∈ r.streamBindings, binding.internal ∉ handedBack t → binding.internal.port ∈ own
  stopping : P.stops → r.locked = false → r.lifecyclePhase ≠ .stopping

namespace Gr4View

variable (P : Gr4Policy) (G : Gr4Graphs) (x : Bytes)

def Kept (v : Gr4View) (t : Trace gr4Interface) : Prop :=
  ∀ a r, v.entry = some (a, r) → r.Kept P v.own t

/-- What a command on behalf of session `x` needs. -/
def Needs : Gr4Cmd → Gr4View → Prop
  | .getOrCreateResources id, _ => id = x
  | .findResources id, _ => id = x
  | .eraseResources id a, v => id = x ∧ ∃ r, v.entry = some (a, r) ∧ r.Vacant
  | .lock a, v => ∃ r, v.entry = some (a, r) ∧ r.locked = false
  | .unlock a, v | .read a, v | .schedulerStop a, v => ∃ r, v.entry = some (a, r)
  | .modify a f, v => ∃ r, v.entry = some (a, r) ∧ (f r).sessionId = r.sessionId
  | .release binding, v => binding.port ∈ v.own
  | .schedulerStart a, v => ∃ r, v.entry = some (a, r) ∧ ∃ execution, r.execution = some execution ∧
      (P.starts → execution.Startable) ∧ G x execution.graph r.streamBindings
  | _, _ => True

/-- What a command does to the view of its own session. -/
def After : (c : Gr4Cmd) → Gr4View → gr4Interface.Ans c → Gr4View → Prop
  | .getOrCreateResources id, v, a, v' =>
    (∃ r, v.entry = some (a, r) ∧ v' = v) ∨
      v.entry = none ∧ v' = ⟨some (a, SessionRuntimeResources.fresh id), v.own⟩
  | .findResources _, v, r, v' => r = v.entry.map Prod.fst ∧ v' = v
  | .eraseResources .., v, _, v' => v' = ⟨none, v.own⟩
  | .lock _, v, _, v' => v' = v.modify ({ · with locked := true })
  | .unlock _, v, _, v' => v' = v.modify ({ · with locked := false })
  | .read a, v, r, v' => v.entry = some (a, r) ∧ v' = v
  | .modify _ f, v, _, v' => v' = v.modify f
  | .allocate transport, v, r, v' => match r with
    | .ok binding => ∃ port, port ∉ v.own ∧ binding = internalBinding transport port ∧
        v' = ⟨v.entry, insert port v.own⟩
    | .error _ => v' = v
  | .release binding, v, _, v' => v' = ⟨v.entry, v.own.erase binding.port⟩
  | .schedulerStart _, v, r, v' => v' = v.modify (·.called (.start r))
  | .schedulerStop _, v, r, v' => v' = v.modify (·.called (.stop r))
  | .ensureRuntimeEnvironment, v, _, v' => v' = v
  | .loadGrc _, v, _, v' => v' = v
  | .availableSchedulers, v, _, v' => v' = v
  | .instantiateScheduler _, v, _, v' => v' = v
  | .setGraph, v, _, v' => v' = v

end Gr4View

abbrev gr4Local (P : Gr4Policy) (G : Gr4Graphs) (x : Bytes) : Local gr4Interface Gr4View where
  pre c v t := v.Kept P t ∧ Gr4View.Needs P G x c v
  post := Gr4View.After
  admits := P.Admits

namespace Gr4State

variable {σ σ' : Gr4State} {owners : PortOwners} {x y : Bytes} {a : Nat} {r : SessionRuntimeResources}

def Frames (x : Bytes) (σ σ' : Gr4State) (owners : PortOwners) (Q : Gr4View → Prop) : Prop :=
  ∃ owners', Good σ' owners' ∧ Q (σ'.view x owners') ∧ ∀ y, y ≠ x → σ'.view y owners' = σ.view y owners

theorem Frames.same {Q : Gr4View → Prop} (h : Good σ owners) (hQ : Q (σ.view x owners)) :
    Frames x σ σ owners Q :=
  ⟨owners, h, hQ, fun _ _ => rfl⟩

theorem Frames.modify {f : SessionRuntimeResources → SessionRuntimeResources} (h : Good σ owners)
    (hx : σ.entry x = some (a, r)) (hf : (f r).sessionId = r.sessionId) :
    Frames x σ (σ.modify a f) owners (· = (σ.view x owners).modify f) := by
  refine ⟨owners, h.modify hx hf, ?_, fun y hy => ?_⟩
  · unfold view Gr4View.modify
    rw [entry_modify hx, hx]
    rfl
  · unfold view
    rw [entry_modify_of_ne h hx hy]

theorem Frames.allocated {port : Nat} {allocator : StreamBindingAllocator} (h : Good σ owners)
    (hport : port ∉ σ.streamAllocator.allocatedPorts)
    (halloc : allocator.allocatedPorts = insert port σ.streamAllocator.allocatedPorts) :
    Frames x σ { σ with streamAllocator := allocator } owners fun v' =>
      port ∉ (σ.view x owners).own ∧ v' = ⟨σ.entry x, insert port (σ.view x owners).own⟩ := by
  have hfresh : ∀ y, port ∉ owners y := fun y hy => hport ((h.owned port).mpr ⟨y, hy⟩)
  refine ⟨Function.update owners x (insert port (owners x)), ⟨h.valid, h.orphans, fun q => ?_, ?_⟩,
    ⟨hfresh x, ?_⟩, fun y hy => ?_⟩
  · rw [halloc, Finset.mem_insert, h.owned q]
    constructor
    · rintro (rfl | ⟨y, hy⟩)
      · exact ⟨x, by simp⟩
      · by_cases hyx : y = x
        · subst hyx
          exact ⟨y, by simp [hy]⟩
        · exact ⟨y, by simp [Function.update_of_ne hyx, hy]⟩
    · rintro ⟨y, hy⟩
      by_cases hyx : y = x
      · subst hyx
        rw [Function.update_self, Finset.mem_insert] at hy
        exact hy.imp id fun hy => ⟨y, hy⟩
      · rw [Function.update_of_ne hyx] at hy
        exact .inr ⟨y, hy⟩
  · -- the new port is nobody else's
    intro y z q hy hz
    by_cases hyx : y = x <;> by_cases hzx : z = x
    · rw [hyx, hzx]
    · subst hyx
      rw [Function.update_self, Finset.mem_insert] at hy
      rw [Function.update_of_ne hzx] at hz
      rcases hy with rfl | hy
      · exact absurd hz (hfresh z)
      · exact h.single _ _ q hy hz
    · subst hzx
      rw [Function.update_self, Finset.mem_insert] at hz
      rw [Function.update_of_ne hyx] at hy
      rcases hz with rfl | hz
      · exact absurd hy (hfresh y)
      · exact h.single _ _ q hy hz
    · rw [Function.update_of_ne hyx] at hy
      rw [Function.update_of_ne hzx] at hz
      exact h.single _ _ q hy hz
  · unfold view entry
    simp
  · unfold view entry
    simp [Function.update_of_ne hy]

theorem Frames.release {binding : InternalStreamBinding} (h : Good σ owners) (hport : binding.port ∈ owners x) :
    Frames x σ { σ with streamAllocator := σ.streamAllocator.release binding } owners
      (· = ⟨σ.entry x, (owners x).erase binding.port⟩) := by
  refine ⟨Function.update owners x ((owners x).erase binding.port), ⟨h.valid, h.orphans, fun q => ?_, ?_⟩,
    ?_, fun y hy => ?_⟩
  · rw [StreamBindingAllocator.release, Finset.mem_erase, h.owned q]
    constructor
    · rintro ⟨hq, y, hy⟩
      by_cases hyx : y = x
      · subst hyx
        exact ⟨y, by simp [hq, hy]⟩
      · exact ⟨y, by simp [Function.update_of_ne hyx, hy]⟩
    · rintro ⟨y, hy⟩
      by_cases hyx : y = x
      · subst hyx
        rw [Function.update_self, Finset.mem_erase] at hy
        exact ⟨hy.1, y, hy.2⟩
      · rw [Function.update_of_ne hyx] at hy
        refine ⟨?_, y, hy⟩
        rintro rfl
        exact hyx (h.single _ _ _ hy hport)
  · intro y z q hy hz
    have hle : ∀ {w}, q ∈ Function.update owners x ((owners x).erase binding.port) w → q ∈ owners w := by
      intro w hw
      by_cases hwx : w = x
      · subst hwx
        rw [Function.update_self] at hw
        exact Finset.mem_of_mem_erase hw
      · rwa [Function.update_of_ne hwx] at hw
    exact h.single y z q (hle hy) (hle hz)
  · unfold view entry
    simp
  · unfold view entry
    simp [Function.update_of_ne hy]

theorem ensureRuntimeEnvironment_same (σ : Gr4State) (outcome : Except Thrown Unit) :
    ∃ bootstrap, (σ.ensureRuntimeEnvironment outcome).2 = { σ with bootstrap := bootstrap } := by
  unfold ensureRuntimeEnvironment
  split <;> exact ⟨_, rfl⟩

theorem exec_frames {P : Gr4Policy} {G : Gr4Graphs} {c : Gr4Cmd} {e : Gr4Env} {t : Trace gr4Interface} {ans : gr4Interface.Ans c}
    (h : Good σ owners) (hpre : (gr4Local P G x).pre c (σ.view x owners) t)
    (hexec : σ.exec e c = some (ans, σ')) :
    Frames x σ σ' owners fun v' => (gr4Local P G x).post c (σ.view x owners) ans v' := by
  obtain ⟨-, hneeds⟩ := hpre
  cases c with
  | getOrCreateResources id =>
    obtain rfl : id = x := hneeds
    have hexec : σ.getOrCreateResources id = (ans, σ') := Option.some.inj hexec
    cases hx : σ.entry id with
    | none =>
      obtain ⟨a, σ'', hget, hgood, hentry, hother⟩ := getOrCreateResources_new h hx
      cases hexec.symm.trans hget
      exact ⟨owners, hgood, .inr ⟨hx, Gr4View.ext hentry rfl⟩, fun y hy => Gr4View.ext (hother y hy) rfl⟩
    | some e =>
      obtain ⟨a, r⟩ := e
      cases hexec.symm.trans (getOrCreateResources_known hx)
      exact .same h (.inl ⟨r, hx, rfl⟩)
  | findResources id =>
    obtain rfl : id = x := hneeds
    cases hexec
    refine .same h ⟨?_, rfl⟩
    cases hx : σ.entry id with
    | none => simp [view, findResources, hx, (entry_eq_none h).mp hx]
    | some e =>
      obtain ⟨a, r⟩ := e
      simp [view, findResources, hx, (entry_iff.mp hx).1]
  | eraseResources id a =>
    obtain ⟨rfl, r, hx, hr⟩ := hneeds
    cases hexec
    obtain ⟨hgood, hentry, hother⟩ := eraseResources_known h hx hr
    refine ⟨owners, hgood, Gr4View.ext hentry ?_, fun y hy => Gr4View.ext (hother y hy) ?_⟩ <;> rfl
  | lock a =>
    obtain ⟨r, hx, hlocked⟩ := hneeds
    simp only [exec, (entry_iff.mp hx).2, Option.bind_some, hlocked, Bool.false_eq_true, if_false] at hexec
    cases hexec
    exact .modify h hx rfl
  | unlock a =>
    obtain ⟨r, hx⟩ := hneeds
    cases hexec
    exact .modify h hx rfl
  | read a =>
    obtain ⟨r, hx⟩ := hneeds
    simp only [exec, (entry_iff.mp hx).2] at hexec
    cases hexec
    exact .same h ⟨hx, rfl⟩
  | modify a f =>
    obtain ⟨r, hx, hf⟩ := hneeds
    cases hexec
    exact .modify h hx hf
  | allocate transport =>
    simp only [exec] at hexec
    cases hres : σ.streamAllocator.allocate e.reserve transport with
    | mk res allocator =>
      rw [hres] at hexec
      cases hexec
      cases res with
      | error what =>
        obtain rfl := StreamBindingAllocator.allocate_error hres
        exact .same h rfl
      | ok binding =>
        obtain ⟨port, hport, rfl, halloc⟩ := StreamBindingAllocator.allocate_ok hres
        obtain ⟨owners', hgood, ⟨hfresh, hview⟩, hother⟩ := Frames.allocated h hport halloc
        exact ⟨owners', hgood, ⟨port, hfresh, rfl, hview⟩, hother⟩
  | release binding =>
    cases hexec
    exact .release h hneeds
  | ensureRuntimeEnvironment =>
    obtain ⟨bootstrap, hsame⟩ := ensureRuntimeEnvironment_same σ e.outcome
    have hσ' : { σ with bootstrap := bootstrap } = σ' := hsame.symm.trans (Prod.ext_iff.mp (Option.some.inj hexec)).2
    subst hσ'
    exact ⟨owners, ⟨h.valid, h.orphans, h.owned, h.single⟩, rfl, fun _ _ => rfl⟩
  | loadGrc content => cases hexec; exact .same h rfl
  | availableSchedulers => cases hexec; exact .same h rfl
  | instantiateScheduler => cases hexec; exact .same h rfl
  | setGraph => cases hexec; exact .same h rfl
  | schedulerStart a =>
    obtain ⟨r, hx, -⟩ := hneeds
    cases hexec
    exact .modify h hx rfl
  | schedulerStop a =>
    obtain ⟨r, hx⟩ := hneeds
    cases hexec
    exact .modify h hx rfl

end Gr4State

def gr4Ownership (P : Gr4Policy) (G : Gr4Graphs) : RuntimeOwnership gr4Machine Gr4View PortOwners where
  view := Gr4State.view
  good := Gr4State.Good
  loc := gr4Local P G
  sound := Gr4State.exec_frames

theorem gr4Ownership_ready (P : Gr4Policy) (G : Gr4Graphs) : (gr4Ownership P G).Ready := by
  intro x c e σ owners t hg hpre
  obtain ⟨-, hneeds⟩ := hpre
  cases c with
  | lock a =>
    obtain ⟨r, hr, hl⟩ := hneeds
    simp [Gr4State.exec, (Gr4State.entry_iff.mp hr).2, hl]
  | read a =>
    obtain ⟨r, hr⟩ := hneeds
    simp [Gr4State.exec, (Gr4State.entry_iff.mp hr).2]
  | _ => rfl

end Gr4ControlPlane
