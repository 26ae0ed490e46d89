import Gr4ControlPlane.Catalog.BlockReflection

open Gr4ControlPlane.Interleaving

namespace Gr4ControlPlane

/-- What is printed is read back, but for numbers that are not finite, and nothing that breaks off before its end. -/
def JsonLibrary.Transmits (library : JsonLibrary) (value : Json) : Prop :=
  ∀ text, library.dump value = .ok text → text ≠ [] ∧ library.parse text = .ok value.readBack ∧
    ∀ part, part <+: text → (library.parse part).isOk → part = text

inductive Passed (e : ReflectionSetting) (F : Prop) : Nat → Bytes → Prop
  | whole : e.output = some w → Passed e F 0 w
  | cut : F → e.output = some text → w <+: text → Passed e F 0 w
  | thrown : e.output = none → Passed e F 2 []

def Written (e : ReflectionSetting) (F : Prop) : WorkerPoint → Bytes → Prop
  | .unborn, w | .forked, w | .reflecting, w => w = []
  | .writing _ left, w => e.output = some (w ++ left)
  | .closing code, w | .exiting code, w | .exited code, w => Passed e F code w
  | .killed _, _ => F

def Standing (e : ReflectionSetting) (F : Prop) (s : BlockReflection) : ParentPoint → Prop
  | .piping | .forking => s.worker = .unborn
  | .forked | .reading => s.worker ≠ .unborn
  | .closing failed | .waiting failed =>
    (F ∨ failed = false) ∧ (failed = false → s.worker ≠ .unborn ∧ s.worker.writes = false ∧ s.buffer = [])
  | .returned r => F ∧ r.isOk = false ∨ s.buffer = [] ∧ e.verdict s.payload s.worker = some r

structure ReflectionInv (e : ReflectionSetting) (F : Prop) (s : BlockReflection) : Prop where
  written : Written e F s.worker s.written
  standing : Standing e F s s.parent

namespace BlockReflection

variable {e : ReflectionSetting} {F : Prop} {s s' : BlockReflection} {l : ReflectionLabel} {fault : Bool}

/-! ### The invariant -/

theorem inv_init : ReflectionInv e F .init := ⟨rfl, rfl⟩

theorem ParentSteps.inv (h : ParentSteps e s fault s') (hF : fault → F) (hs : ReflectionInv e F s) :
    ReflectionInv e F s' := by
  obtain ⟨hwritten, hstanding⟩ := hs
  cases h with
  | pipe => exact ⟨hwritten, hstanding⟩
  | fork =>
    obtain rfl := hstanding
    exact ⟨hwritten, nofun⟩
  | close => exact ⟨hwritten, hstanding⟩
  | read hpos hle =>
    refine ⟨?_, hstanding⟩
    rwa [written, List.append_assoc, List.take_append_drop]
  | eof hwrites => exact ⟨hwritten, .inr rfl, fun _ => ⟨hstanding, hwrites, rfl⟩⟩
  | broken => exact ⟨hwritten, .inl (hF rfl), nofun⟩
  | closeRead => exact ⟨hwritten, hstanding⟩
  | judge hr => exact ⟨hwritten, .inr ⟨(hstanding.2 rfl).2.2, hr⟩⟩
  | giveUp hwork hfault =>
    refine ⟨hwritten, .inl ⟨?_, rfl⟩⟩
    rcases hfault with hfault | rfl
    · exact hF hfault
    · exact hstanding.1.resolve_right nofun

theorem verdict_of_alive {worker : WorkerPoint} {payload : Bytes} (h : worker.alive) : e.verdict payload worker = none := by
  cases worker with
  | forked | reflecting | writing | closing | exiting => rfl
  | unborn | exited | killed => cases h

theorem WorkerSteps.frame (h : WorkerSteps e s fault s') :
    s'.parent = s.parent ∧ s'.payload = s.payload ∧ s.worker.alive ∧ s'.worker ≠ .unborn ∧
      (s.worker.writes = false → s'.worker.writes = false ∧ s'.buffer = s.buffer) := by
  cases h with
  | kill halive => exact ⟨rfl, rfl, halive, nofun, fun _ => ⟨rfl, rfl⟩⟩
  | closeWrite | exit => exact ⟨rfl, rfl, rfl, nofun, fun _ => ⟨rfl, rfl⟩⟩
  | closeRead | throw | print | finish | wrote | move | cut => exact ⟨rfl, rfl, rfl, nofun, nofun⟩

theorem WorkerSteps.standing (h : WorkerSteps e s fault s') (hs : Standing e F s s.parent) :
    Standing e F s' s'.parent := by
  obtain ⟨hparent, hpayload, halive, hborn, hquiet⟩ := h.frame
  rw [hparent]
  cases hp : s.parent with
  | piping | forking =>
    rw [hp] at hs
    exact absurd halive (by rw [show s.worker = .unborn from hs]; nofun)
  | forked | reading => exact hborn
  | closing failed | waiting failed =>
    rw [hp] at hs
    refine ⟨hs.1, fun hfailed => ?_⟩
    obtain ⟨-, hwrites, hbuffer⟩ := hs.2 hfailed
    obtain ⟨hwrites', hbuffer'⟩ := hquiet hwrites
    exact ⟨hborn, hwrites', hbuffer'.trans hbuffer⟩
  | returned r =>
    rw [hp] at hs
    refine hs.imp_right fun ⟨_, hverdict⟩ => ?_
    cases (verdict_of_alive halive).symm.trans hverdict

theorem WorkerSteps.written (h : WorkerSteps e s fault s') (hF : fault → F) (hs : Written e F s.worker s.written) :
    Written e F s'.worker s'.written := by
  cases h with
  | closeRead | wrote | closeWrite | exit => exact hs
  | throw hout =>
    change _ ++ _ = [] at hs
    change Passed e F 2 (_ ++ _)
    rw [hs]
    exact .thrown hout
  | print hout =>
    change _ ++ _ = [] at hs
    change e.output = some (_ ++ _ ++ _)
    rw [hs]
    exact hout
  | finish => exact .whole (hs.trans (congrArg some (List.append_nil _)))
  | move hpos hle =>
    refine Eq.trans hs ?_
    simp [BlockReflection.written]
  | cut => exact .cut (hF rfl) hs (List.prefix_append _ _)
  | kill => exact hF rfl

theorem inv_step (h : s.step e l = some s') (hF : l.fault → F) (hs : ReflectionInv e F s) : ReflectionInv e F s' := by
  rcases step_cases h with h | h
  · exact h.inv hF hs
  · exact ⟨h.written hF hs.written, h.standing hs.standing⟩

theorem inv_of_reachable (h : (reflectionMachine e).Reachable s) : ReflectionInv e True s :=
  h.invariant inv_init fun hs hstep => inv_step hstep (fun _ => trivial) hs

abbrev undisturbed (e : ReflectionSetting) : Machine BlockReflection ReflectionLabel :=
  (reflectionMachine e).restrict fun l => !l.fault

theorem inv_of_undisturbed (h : (undisturbed e).Reachable s) : ReflectionInv e False s := by
  refine h.invariant inv_init fun hs hstep => ?_
  obtain ⟨hfault, hstep⟩ := Machine.restrict_step hstep
  exact inv_step hstep (fun h => by simp [h] at hfault) hs

/-! ### What is believed -/

variable {descriptor : BlockDescriptor} {payload : Bytes} {r : Except CatalogLoadError BlockDescriptor}

theorem output_eq_some {text : Bytes} (h : e.output = some text) :
    ∃ block, e.factory.reflectBlock e.id = .ok block ∧ e.library.dump block.toJson = .ok text := by
  unfold ReflectionSetting.output at h
  cases hblock : e.factory.reflectBlock e.id with
  | error err =>
    rw [hblock] at h
    cases h
  | ok block =>
    rw [hblock] at h
    refine ⟨block, rfl, ?_⟩
    cases hdump : e.library.dump block.toJson with
    | error what =>
      simp only [hdump] at h
      cases h
    | ok text' =>
      simp only [hdump] at h
      cases h
      rfl

def Transmits (e : ReflectionSetting) : Prop :=
  ∀ block, e.factory.reflectBlock e.id = .ok block → e.library.Transmits block.toJson

theorem conclude_output (transmits : Transmits e) {text : Bytes} {block : BlockDescriptor}
    (hblock : e.factory.reflectBlock e.id = .ok block) (hdump : e.library.dump block.toJson = .ok text) :
    e.conclude text = .ok block.sent := by
  obtain ⟨hne, hparse, -⟩ := transmits block hblock text hdump
  have htype := e.factory.canonicalType_of_reflectBlock hblock
  rw [ReflectionSetting.conclude, if_neg hne, parseBlockDescriptor, hparse, ← BlockDescriptor.toJson_sent]
  exact congrArg (Except.mapError _) (parseBlockValue_toJson block.sent htype)

theorem conclude_eq_ok (h : e.conclude payload = .ok descriptor) : (e.library.parse payload).isOk := by
  unfold ReflectionSetting.conclude at h
  split at h
  · cases h
  · unfold parseBlockDescriptor at h
    cases hparse : e.library.parse payload with
    | error what =>
      rw [hparse] at h
      cases h
    | ok value => rfl

/-- The entry as it arrives of a block that was reflected, and could be printed. -/
def Arrived (e : ReflectionSetting) (descriptor : BlockDescriptor) : Prop :=
  ∃ block, e.factory.reflectBlock e.id = .ok block ∧ (e.library.dump block.toJson).isOk ∧ descriptor = block.sent

/-- Whatever the two processes run into, the entry that the parent gets is one that was reflected, and printed as a whole. -/
theorem arrived_of_result (transmits : Transmits e) (h : (reflectionMachine e).Reachable s)
    (hr : s.result = some (.ok descriptor)) : Arrived e descriptor := by
  obtain ⟨hwritten, hstanding⟩ := inv_of_reachable h
  obtain ⟨parent, worker, buffer, payload⟩ := s
  cases parent with
  | returned r =>
    obtain rfl : r = .ok descriptor := Option.some.inj hr
    rcases hstanding with ⟨-, hok⟩ | ⟨rfl, hverdict⟩
    · cases hok
    · cases worker with
      | exited code =>
        have hprefix : ∃ text, e.output = some text ∧ payload <+: text ∧ code = 0 := by
          rw [written, List.append_nil] at hwritten
          cases hwritten with
          | whole hout => exact ⟨payload, hout, List.prefix_rfl, rfl⟩
          | cut _ hout hpart => exact ⟨_, hout, hpart, rfl⟩
          | thrown => cases hverdict
        obtain ⟨text, hout, hpart, rfl⟩ := hprefix
        have hconclude : e.conclude payload = .ok descriptor := Option.some.inj hverdict
        obtain ⟨block, hblock, hdump⟩ := output_eq_some hout
        obtain ⟨-, -, hwhole⟩ := transmits block hblock text hdump
        obtain rfl := hwhole payload hpart (conclude_eq_ok hconclude)
        have hsent := Except.ok.inj (hconclude.symm.trans (conclude_output transmits hblock hdump))
        exact ⟨block, hblock, by rw [hdump]; rfl, hsent⟩
      | killed signal => cases hverdict
      | unborn | forked | reflecting | writing | closing | exiting => cases hverdict
  | piping | forking | forked | reading | closing | waiting => cases hr

def answer (e : ReflectionSetting) : Except CatalogLoadError BlockDescriptor :=
  match e.factory.reflectBlock e.id with
  | .error _ => .error (e.error "GNU Radio 4 block reflection failed for block: ")
  | .ok block =>
    if (e.library.dump block.toJson).isOk then .ok block.sent
    else .error (e.error "GNU Radio 4 block reflection failed for block: ")

theorem answer_of_none (h : e.output = none) :
    answer e = .error (e.error "GNU Radio 4 block reflection failed for block: ") := by
  unfold ReflectionSetting.output at h
  unfold answer
  cases hblock : e.factory.reflectBlock e.id with
  | error err => rfl
  | ok block =>
    simp only [hblock] at h ⊢
    cases hdump : e.library.dump block.toJson with
    | error what => rfl
    | ok text =>
      rw [hdump] at h
      cases h

theorem answer_of_some (transmits : Transmits e) {text : Bytes} (h : e.output = some text) : answer e = e.conclude text := by
  obtain ⟨block, hblock, hdump⟩ := output_eq_some h
  rw [conclude_output transmits hblock hdump, answer, hblock]
  exact if_pos (by rw [hdump]; rfl)

theorem result_of_undisturbed (transmits : Transmits e) (h : (undisturbed e).Reachable s) (hr : s.result = some r) :
    r = answer e := by
  obtain ⟨hwritten, hstanding⟩ := inv_of_undisturbed h
  obtain ⟨parent, worker, buffer, payload⟩ := s
  cases parent with
  | returned r' =>
    obtain rfl : r' = r := Option.some.inj hr
    rcases hstanding with ⟨hF, -⟩ | ⟨rfl, hverdict⟩
    · exact hF.elim
    · cases worker with
      | exited code =>
        rw [written, List.append_nil] at hwritten
        cases hwritten with
        | whole hout => exact (Option.some.inj hverdict).symm.trans (answer_of_some transmits hout).symm
        | cut hF => exact hF.elim
        | thrown hout => exact (Option.some.inj hverdict).symm.trans (answer_of_none hout).symm
      | killed signal => exact hwritten.elim
      | unborn | forked | reflecting | writing | closing | exiting => cases hverdict
  | piping | forking | forked | reading | closing | waiting => cases hr

/-! ### The end -/

def work (e : ReflectionSetting) (s : BlockReflection) : Nat :=
  s.parent.work (e.output.getD []) + s.worker.work (e.output.getD []) + s.buffer.length

theorem work_pos_of_parent {parent : ParentPoint} {output : Bytes} (h : ∀ r, parent ≠ .returned r) :
    0 < parent.work output := by
  cases parent with
  | returned r => exact absurd rfl (h r)
  | piping | forking | forked | reading | closing | waiting => exact Nat.succ_pos _

theorem work_pos_of_alive {worker : WorkerPoint} {output : Bytes} (h : worker.alive) : 0 < worker.work output := by
  cases worker with
  | unborn | exited | killed => cases h
  | forked | reflecting | writing | closing | exiting =>
    simp only [WorkerPoint.work]
    omega

theorem ParentSteps.work_lt (h : ParentSteps e s fault s') : s'.work e < s.work e := by
  cases h with
  | read hpos hle =>
    simp only [work, List.length_drop]
    omega
  | giveUp hpending hfault =>
    exact Nat.add_lt_add_right (Nat.add_lt_add_right (work_pos_of_parent hpending) _) _
  | pipe | fork | close | eof | broken | closeRead | judge =>
    simp only [work, ParentPoint.work, WorkerPoint.work]
    omega

theorem WorkerSteps.work_lt (h : WorkerSteps e s fault s') : s'.work e < s.work e := by
  cases h with
  | print hout =>
    simp only [work, WorkerPoint.work, hout, Option.getD_some]
    omega
  | move hpos hle =>
    simp only [work, WorkerPoint.work, List.length_drop, List.length_append, List.length_take]
    omega
  | kill halive =>
    exact Nat.add_lt_add_right (Nat.add_lt_add_left (work_pos_of_alive halive) _) _
  | closeRead | throw | finish | wrote | cut | closeWrite | exit =>
    simp only [work, WorkerPoint.work]
    omega

theorem work_step (h : s.step e l = some s') : s'.work e < s.work e := (step_cases h).elim (·.work_lt) (·.work_lt)

/-- Unless the parent has returned, one of the processes can go on; nothing has to go wrong for it, except
where the parent has given up already. -/
theorem progress (hcapacity : 0 < e.capacity) (h : ReflectionInv e F s) (hnone : s.result = none) :
    ∃ l, (s.step e l).isSome ∧ (l.fault = false ∨ s.parent = .waiting true) := by
  obtain ⟨-, hstanding⟩ := h
  obtain ⟨parent, worker, buffer, payload⟩ := s
  cases parent with
  | piping | forking | forked | closing => exact ⟨.parent .done, rfl, .inl rfl⟩
  | reading =>
    cases buffer with
    | cons byte buffer => exact ⟨.parent (.bytes 1), by simp [step, parentStep], .inl rfl⟩
    | nil =>
      cases worker with
      | unborn => exact absurd rfl hstanding
      | exiting | exited | killed => exact ⟨.parent .done, rfl, .inl rfl⟩
      | forked | closing => exact ⟨.worker .done, rfl, .inl rfl⟩
      | reflecting =>
        refine ⟨.worker .done, ?_, .inl rfl⟩
        cases hout : e.output <;> simp [step, workerStep, hout]
      | writing moved left =>
        cases moved with
        | succ moved => exact ⟨.worker .done, rfl, .inl rfl⟩
        | zero =>
          cases left with
          | nil => exact ⟨.worker .done, rfl, .inl rfl⟩
          | cons byte left =>
            refine ⟨.worker (.bytes 1), ?_, .inl rfl⟩
            simpa [step, workerStep, ParentPoint.reads, Nat.one_le_iff_ne_zero, Nat.pos_iff_ne_zero] using hcapacity
  | waiting failed =>
    cases failed with
    | true => exact ⟨.parent .failed, rfl, .inr rfl⟩
    | false =>
      obtain ⟨hborn, hwrites, -⟩ := hstanding.2 rfl
      cases worker with
      | unborn => exact absurd rfl hborn
      | exiting => exact ⟨.worker .done, rfl, .inl rfl⟩
      | exited | killed => exact ⟨.parent .done, rfl, .inl rfl⟩
      | forked | reflecting | writing | closing => cases hwrites
  | returned r => cases hnone

structure Believes (e : ReflectionSetting) (ls : List ReflectionLabel) (s : BlockReflection) : Prop where
  arrived : ∀ descriptor, s.result = some (.ok descriptor) → Arrived e descriptor
  undisturbed : (∀ l ∈ ls, l.fault = false) → ∀ r, s.result = some r → r = answer e

/-- A run of the two processes is over after boundedly many steps, and then the parent has returned: whatever they run
into, an error or the entry that the worker reflected, and if nothing goes wrong, that entry if there is one. -/
theorem reflection_ends (hcapacity : 0 < e.capacity) {ls : List ReflectionLabel}
    (h : (reflectionMachine e).run .init ls = some s) :
    ls.length ≤ 3 * (e.output.getD []).length + 12 ∧
      ((∀ l, s.step e l = none) → s.result.isSome) ∧
      ((∀ l ∈ ls, l.fault = false) → (∀ l, l.fault = false → s.step e l = none) → s.result.isSome) ∧
      (Transmits e → Believes e ls s) := by
  have hlength := Machine.run_length (work e) work_step h
  have hresult : ∀ {F}, ReflectionInv e F s → (∀ l, l.fault = false ∨ s.parent = .waiting true → s.step e l = none) →
      s.result.isSome := by
    intro F hinv hstuck
    by_contra hresult
    obtain ⟨l, hl, hfault⟩ := progress hcapacity hinv (Option.not_isSome_iff_eq_none.mp hresult)
    rw [hstuck l hfault] at hl
    cases hl
  have hreach := Machine.Reachable.of_run .init h
  have hundisturbed : (∀ l ∈ ls, l.fault = false) → (undisturbed e).Reachable s := fun hfaults =>
    .of_run .init (Machine.run_restrict (fun l hl => by simp [hfaults l hl]) h)
  refine ⟨Nat.le_trans (Nat.le_add_right _ _) hlength, fun hstuck => ?_, fun hfaults hstuck => ?_, fun transmits => ?_⟩
  · exact hresult (inv_of_reachable hreach) fun l _ => hstuck l
  · have hinv := inv_of_undisturbed (hundisturbed hfaults)
    refine hresult hinv fun l hl => ?_
    rcases hl with hl | hwaiting
    · exact hstuck l hl
    · have hstanding := hinv.standing
      rw [hwaiting] at hstanding
      exact absurd hstanding.1 (by simp)
  · exact ⟨fun d hd => arrived_of_result transmits hreach hd,
      fun hfaults r hr => result_of_undisturbed transmits (hundisturbed hfaults) hr⟩

def gainModel : BlockModel where
  name := []
  typeName := ascii "gr::math::Gain<float32>"
  metaInformation := []
  settings := [(ascii "gain", .real 0x3ff0000000000000)]
  dynamicInputPorts := [.port (ascii "in") (ascii "float32")]
  dynamicOutputPorts := [.port (ascii "out") (ascii "float32")]
  settings_nodup := by decide

def gainFactory : BlockFactory where
  retainedLoaders := []
  globalBlockRegistry id := if id = gainModel.typeName then some gainModel else none

def gainSetting : ReflectionSetting where
  id := gainModel.typeName
  library := .ofValue (gainModel.reflected gainModel.typeName).toJson
  errorText _ := []
  capacity := 65536
  factory := gainFactory

theorem transmits_ofValue {value : Json} (hprintable : value.printable) (hne : value.render wholeNumber ≠ [])
    (hfinite : value.readBack = value) : (JsonLibrary.ofValue value).Transmits value := by
  intro text hdump
  obtain rfl : value.render wholeNumber = text := Except.ok.inj ((if_pos hprintable).symm.trans hdump)
  refine ⟨hne, (if_pos rfl).trans (congrArg Except.ok hfinite.symm), fun part _ hpart => ?_⟩
  by_contra hpartial
  rw [show (JsonLibrary.ofValue value).parse part = .error [] from if_neg hpartial] at hpart
  cases hpart

theorem gain_readBack :
    (gainModel.reflected gainModel.typeName).toJson.readBack = (gainModel.reflected gainModel.typeName).toJson := by
  rw [← BlockDescriptor.toJson_sent, BlockDescriptor.sent_eq_self]
  intro parameter hmem
  obtain ⟨setting, hsetting, rfl⟩ := List.mem_map.mp (List.mem_mergeSort.mp hmem)
  obtain rfl := List.mem_singleton.mp hsetting
  rfl

theorem transmits_gain : Transmits gainSetting := by
  intro block hblock
  obtain ⟨_, hmodel, rfl⟩ := BlockFactory.reflectBlock_eq_ok.mp hblock
  cases hmodel
  exact transmits_ofValue (by decide +kernel) (by decide +kernel) gain_readBack

def gainRun : List ReflectionLabel :=
  let count := (gainSetting.output.getD []).length
  [.parent .done, .parent .done, .worker .done, .parent .done, .worker .done, .worker (.bytes count), .parent (.bytes 9),
    .worker .done, .worker .done, .worker .done, .worker .done, .parent (.bytes (count - 9)), .parent .done, .parent .done,
    .parent .done]

theorem gainRun_isSome : ((reflectionMachine gainSetting).run .init gainRun).isSome := by decide +kernel

def gainReflected : BlockReflection := ((reflectionMachine gainSetting).run .init gainRun).get gainRun_isSome

theorem reaches_gainReflected : (reflectionMachine gainSetting).run .init gainRun = some gainReflected :=
  (Option.some_get gainRun_isSome).symm

theorem reflection_ends_gain : gainRun.length ≤ 3 * (gainSetting.output.getD []).length + 12 ∧
    Believes gainSetting gainRun gainReflected :=
  have ⟨hlength, _, _, hbelieves⟩ := reflection_ends (by decide) reaches_gainReflected
  ⟨hlength, hbelieves transmits_gain⟩

end BlockReflection

end Gr4ControlPlane
