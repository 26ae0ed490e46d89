import Gr4ControlPlane.App.SessionService

namespace Gr4ControlPlane

@[ext]
structure Slot where
  record : Option Session
  phase : Option InternalLifecyclePhase
  deriving DecidableEq

def InternalLifecyclePhase.busy : InternalLifecyclePhase → Bool
  | .starting | .stopping => true
  | .idle | .running | .failed => false

def SessionState.phase : SessionState → InternalLifecyclePhase
  | .stopped => .idle
  | .running => .running
  | .error => .failed

@[simp] theorem SessionState.phase_not_busy (state : SessionState) : state.phase.busy = false := by
  cases state <;> rfl

@[simp] theorem SessionState.phase_inj {state state' : SessionState} :
    state.phase = state'.phase ↔ state = state' := by
  cases state <;> cases state' <;> decide

def Operation.busyPhase : Operation → InternalLifecyclePhase
  | .start | .restart => .starting
  | .stop | .remove => .stopping

@[simp] theorem Operation.busyPhase_busy (op : Operation) : op.busyPhase.busy = true := by
  cases op <;> rfl

structure Session.Stored (x : Bytes) (s : Session) : Prop where
  id : s.id = x
  lastError : s.lastError.isSome ↔ s.state = .error

namespace Slot

inductive AtRest (x : Bytes) : Slot → Prop
  | absent : AtRest x ⟨none, none⟩
  | stored {s : Session} : s.Stored x → AtRest x ⟨some s, some s.state.phase⟩

inductive InFlight (x : Bytes) (s : Session) : Slot → Prop
  | mk {phase : InternalLifecyclePhase} : s.Stored x → phase.busy → InFlight x s ⟨some s, some phase⟩

theorem InFlight.stored {x : Bytes} {s : Session} {v : Slot} (h : v.InFlight x s) : s.Stored x := by
  cases h; assumption

theorem InFlight.record {x : Bytes} {s : Session} {v : Slot} (h : v.InFlight x s) :
    v.record = some s := by
  cases h; rfl

theorem InFlight.phase {x : Bytes} {s : Session} {v : Slot} (h : v.InFlight x s) :
    ∃ phase, v.phase = some phase ∧ phase.busy := by
  cases h; exact ⟨_, rfl, by assumption⟩

theorem AtRest.not_busy {x : Bytes} {v : Slot} {phase : InternalLifecyclePhase} (h : v.AtRest x)
    (hp : v.phase = some phase) : phase.busy = false := by
  cases h with
  | absent => cases hp
  | stored _ => cases hp; exact SessionState.phase_not_busy _

theorem AtRest.inFlight {x : Bytes} {s : Session} {v : Slot} (h : v.AtRest x)
    (hs : v.record = some s) (op : Operation) : InFlight x s ⟨some s, some op.busyPhase⟩ := by
  cases h with
  | absent => cases hs
  | stored h => cases hs; exact ⟨h, op.busyPhase_busy⟩

end Slot

def Operation.committed (op : Operation) (s : Session) (now : Timestamp) : Slot :=
  match op with
  | .start | .restart =>
    ⟨some { s with state := .running, lastError := none, updatedAt := now }, some .running⟩
  | .stop => ⟨some { s with state := .stopped, lastError := none, updatedAt := now }, some .idle⟩
  | .remove => ⟨none, none⟩

def Session.failed (s : Session) (message : Bytes) (now : Timestamp) : Slot :=
  ⟨some { s with state := .error, lastError := some message, updatedAt := now }, some .failed⟩

theorem Operation.committed_atRest {op : Operation} {x : Bytes} {s : Session} {now : Timestamp}
    (h : s.Stored x) : (op.committed s now).AtRest x := by
  cases op with
  | start => exact .stored (s := { s with state := .running, lastError := none, updatedAt := now }) ⟨h.id, by simp⟩
  | stop => exact .stored (s := { s with state := .stopped, lastError := none, updatedAt := now }) ⟨h.id, by simp⟩
  | restart => exact .stored (s := { s with state := .running, lastError := none, updatedAt := now }) ⟨h.id, by simp⟩
  | remove => exact .absent

theorem Session.failed_atRest {x : Bytes} {s : Session} {message : Bytes} {now : Timestamp}
    (h : s.Stored x) : (s.failed message now).AtRest x :=
  .stored (s := { s with state := .error, lastError := some message, updatedAt := now }) ⟨h.id, by simp⟩

/-- How the first section of a lifecycle call may answer. -/
inductive AdmissionOutcome (op : Operation) (v : Slot) : Except AppError Admission → Slot → Prop
  | missing {what : Bytes} : v.record = none → AdmissionOutcome op v (.error (.notFound what)) v
  | refused {what : Bytes} {s : Session} : v.record = some s →
      (∃ phase, v.phase = some phase ∧ phase.busy) ∨
        (op = .start ∧ (s.state = .running ∨ v.phase.getD s.state.phase = .running)) →
      AdmissionOutcome op v (.error (.invalidState what)) v
  | settled {s : Session} : op = .stop → v.record = some s → s.state = .stopped →
      v.phase.getD s.state.phase = .idle → AdmissionOutcome op v (.ok (.settled s)) v
  | proceed {s : Session} : v.record = some s → (v.phase.getD s.state.phase).busy = false →
      (op = .start → s.state ≠ .running) →
      AdmissionOutcome op v (.ok (.proceed s)) ⟨some s, some op.busyPhase⟩

theorem AdmissionOutcome.record_of_proceed {op : Operation} {s : Session} {v v' : Slot}
    (h : AdmissionOutcome op v (.ok (.proceed s)) v') : v.record = some s := by
  cases h; assumption

theorem AdmissionOutcome.keeps_record {op : Operation} {r : Except AppError Admission} {v v' : Slot}
    (h : AdmissionOutcome op v r v') : v'.record = v.record := by
  cases h with
  | missing | refused | settled => rfl
  | proceed hrec => exact hrec.symm

theorem AdmissionOutcome.of_error {op : Operation} {err : AppError} {v v' : Slot}
    (h : AdmissionOutcome op v (.error err) v') : v' = v := by
  cases h <;> rfl

theorem AdmissionOutcome.of_settled {op : Operation} {s : Session} {v v' : Slot}
    (h : AdmissionOutcome op v (.ok (.settled s)) v') : v' = v := by
  cases h; rfl

theorem AdmissionOutcome.of_inFlight {op : Operation} {x : Bytes} {s : Session} {v v' : Slot}
    {r : Except AppError Admission}
    (h : AdmissionOutcome op v r v') (hv : v.InFlight x s) : (∃ err, r = .error err) ∧ v' = v := by
  obtain ⟨phase, hp, hb⟩ := hv.phase
  cases h with
  | missing h => exact ⟨⟨_, rfl⟩, rfl⟩
  | refused _ _ => exact ⟨⟨_, rfl⟩, rfl⟩
  | settled _ _ _ h =>
    rw [hp] at h
    rw [show phase = .idle from h] at hb
    cases hb
  | proceed _ h _ =>
    rw [hp] at h
    exact absurd hb (by simpa using h)

namespace SessionService

variable {service service' : SessionService} {x y : Bytes} {s : Session} {now : Timestamp}

def slot (service : SessionService) (x : Bytes) : Slot :=
  ⟨service.repository.get x, service.phases.lookup x⟩

theorem ext_slot (h : ∀ x, service.slot x = service'.slot x) : service = service' := by
  obtain ⟨⟨sessions, _⟩, phases⟩ := service
  obtain ⟨⟨sessions', _⟩, phases'⟩ := service'
  have hsessions : sessions = sessions' := Finmap.ext_lookup fun x => (Slot.ext_iff.mp (h x)).1
  have hphases : phases = phases' := Finmap.ext_lookup fun x => (Slot.ext_iff.mp (h x)).2
  subst hsessions
  subst hphases
  rfl

def SameBut (x : Bytes) (service service' : SessionService) : Prop :=
  ∀ y, y ≠ x → service'.slot y = service.slot y

theorem SameBut.refl : service.SameBut x service := fun _ _ => rfl

theorem slot_id (h : (service.slot x).record = some s) : s.id = x :=
  InMemorySessionRepository.id_of_get h

theorem slot_setPhase {phase : InternalLifecyclePhase} :
    (service.setPhase x phase).slot x = ⟨(service.slot x).record, some phase⟩ := by
  simp [slot, setPhase]

theorem sameBut_setPhase {phase : InternalLifecyclePhase} :
    service.SameBut x (service.setPhase x phase) := by
  intro y hy
  simp [slot, setPhase, Finmap.lookup_insert_of_ne _ hy]

def putSession (service : SessionService) (s : Session) (phase : InternalLifecyclePhase) : SessionService :=
  ⟨service.repository.put s, service.phases.insert s.id phase⟩

theorem slot_putSession (service : SessionService) {phase : InternalLifecyclePhase} (hid : s.id = x) :
    (service.putSession s phase).slot x = ⟨some s, some phase⟩ := by
  subst hid
  simp [slot, putSession]

theorem sameBut_putSession {phase : InternalLifecyclePhase} (hid : s.id = x) :
    service.SameBut x (service.putSession s phase) := by
  subst hid
  intro y hy
  simp [slot, putSession, InMemorySessionRepository.get_put_of_ne hy, Finmap.lookup_insert_of_ne _ hy]

theorem loadOrThrow_of_slot (h : (service.slot x).record = some s) :
    service.loadOrThrow x = .ok s := by
  unfold loadOrThrow
  rw [show service.repository.get x = some s from h]

theorem loadOrThrow_of_missing (h : (service.slot x).record = none) :
    service.loadOrThrow x = .error (.notFound (ascii "session not found: " ++ x)) := by
  unfold loadOrThrow
  rw [show service.repository.get x = none from h]

theorem loadOrThrow_eq_ok : service.loadOrThrow x = .ok s ↔ service.repository.get x = some s := by
  unfold loadOrThrow
  cases service.repository.get x <;> simp

theorem streamGate_eq_ok :
    service.streamGate x = .ok s ↔
      service.repository.get x = some s ∧ s.state = .running ∧ service.phaseFor s = .running := by
  unfold streamGate loadOrThrow
  cases hget : service.repository.get x with
  | none => simp [bind, Except.bind]
  | some stored =>
    simp only [bind, Except.bind, Option.some.injEq]
    split
    · next h =>
      refine iff_of_false nofun ?_
      rintro ⟨rfl, hstate, hphase⟩
      exact h.elim (· hstate) (· hphase)
    · next h =>
      rw [not_or, not_not, not_not] at h
      constructor
      · rintro ⟨⟩
        exact ⟨rfl, h⟩
      · rintro ⟨rfl, -⟩
        rfl

theorem phaseFor_of_slot (h : (service.slot x).record = some s) :
    service.phaseFor s = (service.slot x).phase.getD s.state.phase := by
  have hid := slot_id h
  subst hid
  unfold phaseFor slot
  cases service.phases.lookup s.id with
  | some phase => rfl
  | none => cases s.state <;> rfl

theorem storing_of_get {α : Type} {a : α} {s' : Session} {phase : InternalLifecyclePhase}
    (h : service.repository.get s.id = some s') :
    (do return (a, ← service.storeSession s phase) : Except AppError (α × SessionService)) =
      .ok (a, service.putSession s phase) := by
  unfold storeSession
  rw [InMemorySessionRepository.update_of_get h]
  rfl

theorem settle_ok {α : Type} {a : α} : service.settle (.ok (a, service')) = (.ok a, service') := rfl

def Admits (op : Operation) (x : Bytes) (service : SessionService)
    (outcome : Except AppError (Admission × SessionService)) : Prop :=
  AdmissionOutcome op (service.slot x) (service.settle outcome).1
      ((service.settle outcome).2.slot x) ∧
    service.SameBut x (service.settle outcome).2

section

variable {op : Operation} (hrec : (service.slot x).record = some s)
include hrec

theorem admits_inProgress {what : Bytes} {phase : InternalLifecyclePhase} (hb : phase.busy)
    (hp : service.phaseFor s = phase) : Admits op x service (.error (.invalidState what)) := by
  refine ⟨.refused hrec (.inl ?_), .refl⟩
  rw [phaseFor_of_slot hrec] at hp
  cases h : (service.slot x).phase with
  | some p =>
    rw [h] at hp
    exact ⟨p, rfl, by rw [show p = phase from hp]; exact hb⟩
  | none =>
    rw [h] at hp
    rw [← show s.state.phase = phase from hp] at hb
    simp at hb

theorem admits_running {what : Bytes} (h : s.state = .running ∨ service.phaseFor s = .running) :
    Admits .start x service (.error (.invalidState what)) :=
  ⟨.refused hrec (.inr ⟨rfl, phaseFor_of_slot hrec ▸ h⟩), .refl⟩

theorem admits_settled (hs : s.state = .stopped) (hp : service.phaseFor s = .idle) :
    Admits .stop x service (.ok (.settled s, service)) :=
  ⟨.settled rfl hrec hs (phaseFor_of_slot hrec ▸ hp), .refl⟩

theorem admits_proceed (h₁ : service.phaseFor s ≠ .starting) (h₂ : service.phaseFor s ≠ .stopping)
    (hstart : op = .start → s.state ≠ .running) :
    Admits op x service (.ok (.proceed s, service.setPhase x op.busyPhase)) := by
  refine ⟨?_, sameBut_setPhase⟩
  rw [settle_ok, slot_setPhase, hrec]
  refine .proceed hrec ?_ hstart
  rw [← phaseFor_of_slot hrec]
  cases hp : service.phaseFor s <;> simp_all [InternalLifecyclePhase.busy]

theorem admits_stored : Admits op x service (service.admission op x) := by
  have hload := loadOrThrow_of_slot hrec
  cases op with
  | start =>
    simp only [admission, admitStart, hload]
    change Admits .start x service (if _ then _ else _)
    split_ifs with h₁ h₂ h₃
    · exact admits_running hrec h₁
    · exact admits_inProgress hrec rfl h₂
    · exact admits_inProgress hrec rfl h₃
    · exact admits_proceed hrec h₂ h₃ fun _ h => h₁ (.inl h)
  | stop =>
    simp only [admission, admitStop, hload]
    change Admits .stop x service (if _ then _ else _)
    split_ifs with h₁ h₂ h₃
    · exact admits_inProgress hrec rfl h₁
    · exact admits_inProgress hrec rfl h₂
    · exact admits_settled hrec h₃.1 h₃.2
    · exact admits_proceed hrec h₂ h₁ nofun
  | restart =>
    simp only [admission, admitRestart, hload]
    change Admits .restart x service (if _ then _ else _)
    split_ifs with h₁ h₂
    · exact admits_inProgress hrec rfl h₁
    · exact admits_inProgress hrec rfl h₂
    · exact admits_proceed hrec h₂ h₁ nofun
  | remove =>
    simp only [admission, admitRemove, hload]
    change Admits .remove x service (if _ then _ else _)
    split_ifs with h₁ h₂
    · exact admits_inProgress hrec rfl h₁
    · exact admits_inProgress hrec rfl h₂
    · exact admits_proceed hrec h₂ h₁ nofun

end

theorem admission_outcome (op : Operation) (x : Bytes) (service : SessionService) :
    Admits op x service (service.admission op x) := by
  cases hrec : (service.slot x).record with
  | none =>
    have hload := loadOrThrow_of_missing hrec
    cases op <;> simp only [admission, admitStart, admitStop, admitRestart, admitRemove, hload] <;>
      exact ⟨.missing hrec, .refl⟩
  | some s => exact admits_stored hrec

theorem phaseFor_atRest (hv : (service.slot x).AtRest x) (hrec : (service.slot x).record = some s) :
    service.phaseFor s = s.state.phase := by
  rw [phaseFor_of_slot hrec]
  generalize service.slot x = v at hv hrec
  cases hv with
  | absent => cases hrec
  | stored => cases hrec; rfl

theorem admission_proceeds (op : Operation) (hv : (service.slot x).AtRest x)
    (hrec : (service.slot x).record = some s) (hop : op ≠ .stop) (hstart : op = .start → s.state ≠ .running) :
    service.admission op x = .ok (.proceed s, service.setPhase x op.busyPhase) := by
  have hload := loadOrThrow_of_slot hrec
  have hphase := phaseFor_atRest hv hrec
  have hstarting : s.state.phase ≠ .starting := by cases s.state <;> decide
  have hstopping : s.state.phase ≠ .stopping := by cases s.state <;> decide
  cases op with
  | start =>
    have hrunning : ¬ (s.state = .running ∨ s.state.phase = .running) := by
      rintro (h | h)
      · exact hstart rfl h
      · exact hstart rfl (SessionState.phase_inj.mp h)
    simp only [admission, admitStart, hload, bind, Except.bind, hphase, if_neg hrunning, if_neg hstarting,
      if_neg hstopping]
    rfl
  | stop => exact absurd rfl hop
  | restart =>
    simp only [admission, admitRestart, hload, bind, Except.bind, hphase, if_neg hstarting, if_neg hstopping]
    rfl
  | remove =>
    simp only [admission, admitRemove, hload, bind, Except.bind, hphase, if_neg hstarting, if_neg hstopping]
    rfl

theorem admission_of_error (op : Operation) (hv : (service.slot x).AtRest x) (hrec : (service.slot x).record = some s)
    (herr : s.state = .error) : service.admission op x = .ok (.proceed s, service.setPhase x op.busyPhase) := by
  by_cases hop : op = .stop
  · subst hop
    have hphase : service.phaseFor s = .failed := by rw [phaseFor_atRest hv hrec, herr]; rfl
    simp only [admission, admitStop, loadOrThrow_of_slot hrec, bind, Except.bind, hphase, herr, reduceCtorEq,
      false_and, if_false]
    rfl
  · exact admission_proceeds op hv hrec hop fun _ => by rw [herr]; decide

theorem activeStreamPlan_atRest {lookup : Session → Option StreamRuntimePlan} (hv : (service.slot x).AtRest x)
    (hrec : (service.slot x).record = some s) :
    service.activeStreamPlan lookup x = .ok (if s.state = .running then lookup s else none) := by
  have hphase : service.phaseFor s = s.state.phase := phaseFor_atRest hv hrec
  have hiff : s.state.phase = SessionState.running.phase ↔ s.state = .running := SessionState.phase_inj
  simp only [activeStreamPlan, loadOrThrow_of_slot hrec, bind, Except.bind, hphase, ne_eq, show InternalLifecyclePhase.running = SessionState.running.phase from rfl, hiff, or_self]
  by_cases hrun : s.state = .running
  · rw [if_neg (not_not.mpr hrun), if_pos hrun]
    rfl
  · rw [if_pos hrun, if_neg hrun]
    rfl

theorem commitState_of_stored (hrec : (service.slot x).record = some s) (state : SessionState)
    (phase : InternalLifecyclePhase) :
    service.commitState state phase x now =
      .ok (some { s with state := state, lastError := none, updatedAt := now },
        service.putSession { s with state := state, lastError := none, updatedAt := now } phase) := by
  unfold commitState
  rw [loadOrThrow_of_slot hrec]
  exact storing_of_get (slot_id hrec ▸ hrec)

theorem commit_of_stored (op : Operation) (now : Timestamp) (hrec : (service.slot x).record = some s) :
    ∃ service', service.commit op x now = .ok ((op.committed s now).record, service') ∧
      service'.slot x = op.committed s now ∧ service.SameBut x service' := by
  have hid := slot_id hrec
  cases op with
  | start => exact ⟨_, commitState_of_stored hrec .running .running, slot_putSession service hid, sameBut_putSession hid⟩
  | stop => exact ⟨_, commitState_of_stored hrec .stopped .idle, slot_putSession service hid, sameBut_putSession hid⟩
  | restart => exact ⟨_, commitState_of_stored hrec .running .running, slot_putSession service hid, sameBut_putSession hid⟩
  | remove =>
    refine ⟨⟨(service.repository.remove x).2, service.phases.erase x⟩, ?_, ?_, ?_⟩
    · unfold commit commitRemove
      rw [InMemorySessionRepository.remove_of_get hrec]
      rfl
    · simp [slot, Operation.committed]
    · intro y hy
      simp [slot, InMemorySessionRepository.get_remove_of_ne hy, Finmap.lookup_erase_ne hy]

theorem commit_of_missing (op : Operation) (hrec : (service.slot x).record = none) :
    service.commit op x now = .error (.notFound (ascii "session not found: " ++ x)) := by
  cases op with
  | start | stop | restart =>
    unfold commit commitState
    rw [loadOrThrow_of_missing hrec]
    rfl
  | remove =>
    unfold commit commitRemove
    rw [InMemorySessionRepository.remove_of_get_eq_none hrec]

theorem recordRuntimeFailure_of_missing {message : Bytes} (hrec : (service.slot x).record = none) :
    service.recordRuntimeFailure x message now =
      .error (.notFound (ascii "session not found: " ++ x)) := by
  unfold recordRuntimeFailure
  rw [loadOrThrow_of_missing hrec]
  rfl

theorem recordRuntimeFailure_of_stored (message : Bytes) (now : Timestamp) (hrec : (service.slot x).record = some s) :
    ∃ service', service.recordRuntimeFailure x message now = .ok ((), service') ∧
      service'.slot x = s.failed message now ∧ service.SameBut x service' := by
  have hid := slot_id hrec
  refine ⟨service.putSession { s with state := .error, lastError := some message, updatedAt := now } .failed,
    ?_, slot_putSession service hid, sameBut_putSession hid⟩
  unfold recordRuntimeFailure
  rw [loadOrThrow_of_slot hrec]
  exact storing_of_get (slot_id hrec ▸ hrec)

inductive CreateOutcome (x : Bytes) (v : Slot) : Except AppError Session → Slot → Prop
  | refused {err : AppError} : CreateOutcome x v (.error err) v
  | created {s : Session} : v.record = none → s.Stored x → s.state = .stopped →
      CreateOutcome x v (.ok s) ⟨some s, some .idle⟩

theorem CreateOutcome.of_error {v v' : Slot} {err : AppError} (h : CreateOutcome x v (.error err) v') :
    v' = v := by
  cases h; rfl

theorem CreateOutcome.of_inFlight {v v' : Slot} {r : Except AppError Session}
    (h : CreateOutcome x v r v') (hv : v.InFlight x s) : (∃ err, r = .error err) ∧ v' = v := by
  cases h with
  | refused => exact ⟨⟨_, rfl⟩, rfl⟩
  | created h => rw [hv.record] at h; cases h

theorem created_putSession (hget : service.repository.get x = none) (hid : s.id = x)
    (hstate : s.state = .stopped) (herr : s.lastError = none) :
    CreateOutcome x (service.slot x) (.ok s) ((service.putSession s .idle).slot x) := by
  rw [slot_putSession service hid]
  exact .created hget ⟨hid, by simp [hstate, herr]⟩ hstate

theorem create_outcome {draw : UInt64} {name grc : Bytes} {schedulerAlias : Option Bytes}
    {outcome : Except AppError (Session × SessionService)}
    (h : service.create draw name grc schedulerAlias now = some outcome) :
    CreateOutcome (generateSessionId draw) (service.slot (generateSessionId draw))
        (service.settle outcome).1 ((service.settle outcome).2.slot (generateSessionId draw)) ∧
      service.SameBut (generateSessionId draw) (service.settle outcome).2 := by
  unfold create at h
  by_cases hgrc : grc = []
  · rw [if_pos hgrc] at h
    cases h
    exact ⟨.refused, .refl⟩
  · rw [if_neg hgrc] at h
    dsimp only at h
    cases hget : service.repository.get (generateSessionId draw) with
    | some s =>
      rw [hget] at h
      cases h
    | none =>
      have hcreate : ∀ s : Session, s.id = generateSessionId draw →
          service.repository.create s = .ok (service.repository.put s) :=
        fun s hs => InMemorySessionRepository.create_of_get (hs ▸ hget)
      rw [hget, hcreate _ rfl] at h
      cases h
      exact ⟨created_putSession hget rfl rfl rfl, sameBut_putSession rfl⟩

def seen (x : Bytes) {α : Type} (p : α × SessionService) : α × Slot := (p.1, p.2.slot x)

section

variable (h : service.slot x = service'.slot x)
include h

theorem seen_error {α : Type} {err : AppError} :
    seen x (service.settle (.error err : Except AppError (α × SessionService))) =
      seen x (service'.settle (.error err)) :=
  congrArg (Prod.mk _) h

theorem seen_settled : seen x (service.settle (.ok (Admission.settled s, service))) =
    seen x (service'.settle (.ok (Admission.settled s, service'))) :=
  congrArg (Prod.mk _) h

theorem seen_proceed {phase : InternalLifecyclePhase} :
    seen x (service.settle (.ok (Admission.proceed s, service.setPhase x phase))) =
      seen x (service'.settle (.ok (Admission.proceed s, service'.setPhase x phase))) := by
  apply congrArg (Prod.mk _)
  simp only [settle_ok, slot_setPhase, h]

theorem admission_congr (op : Operation) : seen x (service.settle (service.admission op x)) =
    seen x (service'.settle (service'.admission op x)) := by
  cases hrec : (service.slot x).record with
  | none =>
    have hload := loadOrThrow_of_missing hrec
    have hload' := loadOrThrow_of_missing (h ▸ hrec)
    cases op <;> simp only [admission, admitStart, admitStop, admitRestart, admitRemove, hload, hload'] <;>
      exact seen_error h
  | some s =>
    have hload := loadOrThrow_of_slot hrec
    have hload' := loadOrThrow_of_slot (h ▸ hrec)
    have hphase : service.phaseFor s = service'.phaseFor s := by
      rw [phaseFor_of_slot hrec, phaseFor_of_slot (h ▸ hrec), h]
    cases op <;> simp only [admission, admitStart, admitStop, admitRestart, admitRemove, hload, hload'] <;>
      change seen x (service.settle (if _ then _ else _)) = seen x (service'.settle (if _ then _ else _)) <;>
      rw [hphase] <;> split_ifs <;>
      first | exact seen_error h | exact seen_settled h | exact seen_proceed h

theorem commit_congr (op : Operation) : seen x (service.settle (service.commit op x now)) =
    seen x (service'.settle (service'.commit op x now)) := by
  cases hrec : (service.slot x).record with
  | none =>
    rw [commit_of_missing op hrec, commit_of_missing op (h ▸ hrec)]
    exact seen_error h
  | some s =>
    obtain ⟨_, hc, hslot, -⟩ := commit_of_stored op now hrec
    obtain ⟨_, hc', hslot', -⟩ := commit_of_stored op now (h ▸ hrec)
    rw [hc, hc']
    exact congrArg (Prod.mk _) (hslot.trans hslot'.symm)

theorem recordRuntimeFailure_congr {message : Bytes} :
    seen x (service.settle (service.recordRuntimeFailure x message now)) =
      seen x (service'.settle (service'.recordRuntimeFailure x message now)) := by
  cases hrec : (service.slot x).record with
  | none =>
    rw [recordRuntimeFailure_of_missing hrec, recordRuntimeFailure_of_missing (h ▸ hrec)]
    exact seen_error h
  | some s =>
    obtain ⟨_, hc, hslot, -⟩ := recordRuntimeFailure_of_stored message now hrec
    obtain ⟨_, hc', hslot', -⟩ :=
      recordRuntimeFailure_of_stored message now (h ▸ hrec)
    rw [hc, hc']
    exact congrArg (Prod.mk _) (hslot.trans hslot'.symm)

end

theorem create_congr {draw : UInt64} {name grc : Bytes} {schedulerAlias : Option Bytes}
    (h : service.slot (generateSessionId draw) = service'.slot (generateSessionId draw)) :
    (service.create draw name grc schedulerAlias now).map
        (fun outcome => seen (generateSessionId draw) (service.settle outcome)) =
      (service'.create draw name grc schedulerAlias now).map
        (fun outcome => seen (generateSessionId draw) (service'.settle outcome)) := by
  have hrepo : service.repository.get (generateSessionId draw) =
      service'.repository.get (generateSessionId draw) := (Slot.ext_iff.mp h).1
  unfold create
  by_cases hgrc : grc = []
  · rw [if_pos hgrc, if_pos hgrc]
    exact congrArg some (seen_error h)
  · rw [if_neg hgrc, if_neg hgrc]
    dsimp only
    cases hget : service.repository.get (generateSessionId draw) with
    | some s => rw [← hrepo, hget]; rfl
    | none =>
      have hcreate : ∀ s : Session, s.id = generateSessionId draw →
          service.repository.create s = .ok (service.repository.put s) ∧
            service'.repository.create s = .ok (service'.repository.put s) :=
        fun s hs => ⟨InMemorySessionRepository.create_of_get (hs ▸ hget),
          InMemorySessionRepository.create_of_get (hs ▸ hrepo ▸ hget)⟩
      rw [← hrepo, hget, (hcreate _ rfl).1, (hcreate _ rfl).2]
      apply congrArg some
      apply congrArg (Prod.mk _)
      exact (slot_putSession service rfl).trans
        (slot_putSession service' rfl).symm

/-- A section depends on nothing but its own session, and changes nothing else. -/
theorem exec_congr (c : ServiceCmd) (now : Timestamp) (h : service.slot c.session = service'.slot c.session) :
    (service.exec now c).map (seen c.session) = (service'.exec now c).map (seen c.session) := by
  cases c with
  | create draw name grc schedulerAlias =>
    simp only [exec, Option.map_map]
    exact create_congr h
  | admission op id => exact congrArg some (admission_congr h op)
  | fail id message => exact congrArg some (recordRuntimeFailure_congr h)
  | commit op id => exact congrArg some (commit_congr h op)

inductive SlotChange (now : Timestamp) (v : Slot) : ServiceCmd → Slot → Prop
  | kept {c : ServiceCmd} : SlotChange now v c v
  | created {draw : UInt64} {name grc : Bytes} {schedulerAlias : Option Bytes} {s : Session} : v.record = none →
      s.state = .stopped → SlotChange now v (.create draw name grc schedulerAlias) ⟨some s, some .idle⟩
  | admitted {op : Operation} {id : Bytes} {s : Session} : v.record = some s →
      SlotChange now v (.admission op id) ⟨some s, some op.busyPhase⟩
  | failed {id message : Bytes} {s : Session} : v.record = some s →
      SlotChange now v (.fail id message) (s.failed message now)
  | committed {op : Operation} {id : Bytes} {s : Session} : v.record = some s →
      SlotChange now v (.commit op id) (op.committed s now)

theorem CreateOutcome.change {v v' : Slot} {r : Except AppError Session} {draw : UInt64} {name grc : Bytes}
    {schedulerAlias : Option Bytes} (h : CreateOutcome x v r v') :
    SlotChange now v (.create draw name grc schedulerAlias) v' := by
  cases h with
  | refused => exact .kept
  | created hnone _ hstate => exact .created hnone hstate

theorem admission_change {op : Operation} {v v' : Slot} {r : Except AppError Admission} {id : Bytes}
    (h : AdmissionOutcome op v r v') : SlotChange now v (.admission op id) v' := by
  cases h with
  | missing | refused | settled => exact .kept
  | proceed hrec => exact .admitted hrec

theorem exec_slotChange {c : ServiceCmd} {r : serviceInterface.Ans c}
    (h : service.exec now c = some (r, service')) :
    SlotChange now (service.slot c.session) c (service'.slot c.session) ∧ service.SameBut c.session service' := by
  cases c with
  | create draw name grc schedulerAlias =>
    obtain ⟨outcome, hc, heq⟩ := Option.map_eq_some_iff.mp h
    obtain ⟨hout, hsame⟩ := create_outcome hc
    rw [heq] at hout hsame
    exact ⟨hout.change, hsame⟩
  | admission op id =>
    obtain ⟨hout, hsame⟩ := admission_outcome op id service
    rw [Option.some.inj h] at hout hsame
    exact ⟨admission_change hout, hsame⟩
  | fail id message =>
    cases hrec : (service.slot id).record with
    | none =>
      have heq := Option.some.inj h
      rw [recordRuntimeFailure_of_missing hrec] at heq
      cases heq
      exact ⟨.kept, .refl⟩
    | some s =>
      obtain ⟨_, hf, hslot, hsame⟩ := recordRuntimeFailure_of_stored message now hrec
      have heq := Option.some.inj h
      rw [hf] at heq
      cases heq
      exact ⟨hslot ▸ .failed hrec, hsame⟩
  | commit op id =>
    cases hrec : (service.slot id).record with
    | none =>
      have heq := Option.some.inj h
      rw [commit_of_missing op hrec] at heq
      cases heq
      exact ⟨.kept, .refl⟩
    | some s =>
      obtain ⟨_, hf, hslot, hsame⟩ := commit_of_stored op now hrec
      have heq := Option.some.inj h
      rw [hf] at heq
      cases heq
      exact ⟨hslot ▸ .committed hrec, hsame⟩

theorem exec_sameBut {c : ServiceCmd} {r : serviceInterface.Ans c}
    (h : service.exec now c = some (r, service')) : service.SameBut c.session service' := (exec_slotChange h).2

theorem exec_stored {c : ServiceCmd} {r : serviceInterface.Ans c} (h : service.exec now c = some (r, service'))
    (hc : c ≠ .commit .remove x) (hx : (service.slot x).record.isSome) : (service'.slot x).record.isSome := by
  obtain ⟨hchange, hsame⟩ := exec_slotChange h
  by_cases hid : x = c.session
  · subst hid
    generalize service.slot c.session = v, service'.slot c.session = v' at hchange hx
    cases hchange with
    | kept => exact hx
    | created | admitted | failed => rfl
    | @committed op id s _ =>
      cases op with
      | start | stop | restart => rfl
      | remove => exact absurd rfl hc
  · rw [hsame x hid]
    exact hx

def closingAnswers : (c : ServiceCmd) → serviceInterface.Ans c → Prop
  | .fail id _, r => ∀ err, r = .error err → err = .notFound (ascii "session not found: " ++ id)
  | .commit _ id, r => ∀ err, r = .error err → err = .notFound (ascii "session not found: " ++ id)
  | .create .., _ => True
  | .admission .., _ => True

theorem exec_closingAnswers {c : ServiceCmd} {r : serviceInterface.Ans c}
    (h : service.exec now c = some (r, service')) : closingAnswers c r := by
  cases c with
  | create => trivial
  | admission => trivial
  | fail id message =>
    intro err herr
    have heq := Option.some.inj h
    cases hrec : (service.slot id).record with
    | none =>
      rw [recordRuntimeFailure_of_missing hrec] at heq
      cases heq
      cases herr
      rfl
    | some s =>
      obtain ⟨service'', hf, -⟩ := recordRuntimeFailure_of_stored message now hrec
      rw [hf] at heq
      cases heq
      cases herr
  | commit op id =>
    intro err herr
    have heq := Option.some.inj h
    cases hrec : (service.slot id).record with
    | none =>
      rw [commit_of_missing op hrec] at heq
      cases heq
      cases herr
      rfl
    | some s =>
      obtain ⟨service'', hc, -⟩ := commit_of_stored op now hrec
      rw [hc] at heq
      cases heq
      cases herr

def Served (service : SessionService) (x : Bytes) : Prop := ∃ s, service.streamGate x = .ok s

theorem served_iff : service.Served x ↔
    ∃ s, (service.slot x).record = some s ∧ s.state = .running ∧ (service.slot x).phase.getD s.state.phase = .running := by
  apply exists_congr
  intro s
  rw [streamGate_eq_ok]
  apply and_congr_right
  intro hget
  rw [phaseFor_of_slot hget]

theorem exec_not_served {c : ServiceCmd} {r : serviceInterface.Ans c} (h : service.exec now c = some (r, service'))
    (hstart : c ≠ .commit .start x) (hrestart : c ≠ .commit .restart x) (hx : ¬ service.Served x) :
    ¬ service'.Served x := by
  rw [served_iff] at hx ⊢
  obtain ⟨hchange, hsame⟩ := exec_slotChange h
  by_cases hid : x = c.session
  · subst hid
    generalize service.slot c.session = v, service'.slot c.session = v' at hchange hx
    cases hchange with
    | kept => exact hx
    | created hnone hstate =>
      rintro ⟨_, ⟨⟩, hrun, -⟩
      rw [hstate] at hrun
      cases hrun
    | @admitted op id s _ =>
      rintro ⟨_, ⟨⟩, -, hphase⟩
      cases op <;> cases hphase
    | failed =>
      rintro ⟨_, ⟨⟩, hrun, -⟩
      cases hrun
    | @committed op id s _ =>
      cases op with
      | start => exact absurd rfl hstart
      | restart => exact absurd rfl hrestart
      | stop =>
        rintro ⟨_, ⟨⟩, hrun, -⟩
        cases hrun
      | remove =>
        rintro ⟨_, ⟨⟩, -⟩
  · rwa [hsame x hid]

end SessionService

end Gr4ControlPlane
