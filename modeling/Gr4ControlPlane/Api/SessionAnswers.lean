import Gr4ControlPlane.Api.SessionApi
import Gr4ControlPlane.Api.SessionListings
import Gr4ControlPlane.App.SessionOwnership
import Gr4ControlPlane.Interleaving.Invariant

open Gr4ControlPlane.Interleaving

namespace Gr4ControlPlane.SessionRoutes

open SessionService

variable {R : Interface}

structure Sendable (x : Bytes) (s : Session) : Prop where
  stored : s.Stored x
  name : validUtf8 s.name
  scheduler : ∀ id ∈ s.schedulerAlias, validUtf8 id

def Texts (service : SessionService) : Prop := ∀ x s, (service.slot x).record = some s → Sendable x s

def Shows (op : Operation) (id : Bytes) : Option Session → Prop
  | some s => op ≠ .remove ∧ Sendable id s ∧ s.lastError = none ∧
      s.state = if op = .stop then .stopped else .running
  | none => op = .remove

def Plain (text : Bytes) : Prop := ∀ byte ∈ text, 0 < byte ∧ byte ≤ 0x7f

/-- The call was turned down with a text that ends in the session's id. -/
inductive Declined (id : Bytes) : AppError → Prop
  | notFound : Declined id (.notFound (ascii "session not found: " ++ id))
  | invalidState {text : Bytes} : Plain text → Declined id (.invalidState (text ++ id))

def issues : (callInterface R).Cmd → Prop
  | .inr (.inl (.create _ name grc schedulerAlias)) => grc ≠ [] ∧ validUtf8 name ∧ ∀ id ∈ schedulerAlias, validUtf8 id
  | _ => True

def admissionAnswer (op : Operation) (id : Bytes) : Except AppError Admission → Prop
  | .error err => Declined id err
  | .ok (.settled s) => Shows op id (some s)
  | .ok (.proceed s) => s.id = id

def commitAnswer (op : Operation) (id : Bytes) : Except AppError (Option Session) → Prop
  | .error err => Declined id err
  | .ok session => Shows op id session

def created (draw : UInt64) (name grc : Bytes) (schedulerAlias : Option Bytes) (now : Timestamp) : Session :=
  { id := generateSessionId draw, name := name, grcContent := grc, schedulerAlias := schedulerAlias, state := .stopped,
    lastError := none, createdAt := now, updatedAt := now }

def serviceAnswers : (c : ServiceCmd) → serviceInterface.Ans c → Prop
  | .create draw name grc schedulerAlias, r => ∃ now, r = .ok (created draw name grc schedulerAlias now)
  | .admission op id, r => admissionAnswer op id r
  | .fail id _, r => ∀ err, r = .error err → Declined id err
  | .commit op id, r => commitAnswer op id r

def answers : (c : (callInterface R).Cmd) → (callInterface R).Ans c → Prop
  | .inr (.inl c), r => serviceAnswers c r
  | .inr (.inr _), _ => True
  | .inl _, _ => True

section

variable {service service' : SessionService} {x id : Bytes} {s : Session} {now : Timestamp} {op : Operation}

theorem Texts.of_sameBut (h : Texts service) (hsame : service.SameBut x service')
    (hx : ∀ s, (service'.slot x).record = some s → Sendable x s) : Texts service' := by
  intro y s hs
  by_cases hy : y = x
  · subst hy
    exact hx s hs
  · rw [hsame y hy] at hs
    exact h y s hs

theorem admission_declined {err : AppError} (h : service.admission op id = .error err) : Declined id err := by
  cases hrec : (service.slot id).record with
  | none =>
    have hload := loadOrThrow_of_missing hrec
    have herr : err = .notFound (ascii "session not found: " ++ id) := by
      cases op <;>
        · simp only [admission, admitStart, admitStop, admitRestart, admitRemove, hload] at h
          exact (Except.error.inj h).symm
    exact herr ▸ .notFound
  | some s =>
    have hload := loadOrThrow_of_slot hrec
    cases op with
    | start =>
      simp only [admission, admitStart, hload] at h
      change (if _ then _ else _) = _ at h
      split_ifs at h <;> cases h <;> exact .invalidState (by unfold Plain; decide +kernel)
    | stop =>
      simp only [admission, admitStop, hload] at h
      change (if _ then _ else _) = _ at h
      split_ifs at h <;> cases h <;> exact .invalidState (by unfold Plain; decide +kernel)
    | restart =>
      simp only [admission, admitRestart, hload] at h
      change (if _ then _ else _) = _ at h
      split_ifs at h <;> cases h <;> exact .invalidState (by unfold Plain; decide +kernel)
    | remove =>
      simp only [admission, admitRemove, hload] at h
      change (if _ then _ else _) = _ at h
      split_ifs at h <;> cases h <;> exact .invalidState (by unfold Plain; decide +kernel)

theorem lastError_of_stored (h : s.Stored x) (hstate : s.state ≠ .error) : s.lastError = none := by
  rw [← Option.not_isSome_iff_eq_none, h.lastError]
  exact hstate

theorem Sendable.relabel {state : SessionState} {lastError : Option Bytes} (h : Sendable x s)
    (hl : lastError.isSome ↔ state = .error) :
    Sendable x { s with state := state, lastError := lastError, updatedAt := now } :=
  ⟨⟨h.stored.id, hl⟩, h.name, h.scheduler⟩

theorem create_sendable {draw : UInt64} {name grc : Bytes} {schedulerAlias : Option Bytes}
    {outcome : Except AppError (Session × SessionService)} (hgrc : grc ≠ []) (hname : validUtf8 name)
    (hscheduler : ∀ id ∈ schedulerAlias, validUtf8 id) (ht : Texts service)
    (h : service.create draw name grc schedulerAlias now = some outcome) :
    Texts (service.settle outcome).2 ∧ (service.settle outcome).1 = .ok (created draw name grc schedulerAlias now) := by
  obtain ⟨hcreate, hsame⟩ := create_outcome h
  have hanswer : (service.settle outcome).1 = .ok (created draw name grc schedulerAlias now) := by
    unfold create at h
    rw [if_neg hgrc] at h
    dsimp only at h
    cases hget : service.repository.get (generateSessionId draw) with
    | some s =>
      rw [hget] at h
      cases h
    | none =>
      rw [hget, InMemorySessionRepository.create_of_get hget] at h
      cases h
      rfl
  refine ⟨ht.of_sameBut hsame fun s hs => ?_, hanswer⟩
  rw [hanswer] at hcreate
  generalize (service.settle outcome).2.slot (generateSessionId draw) = v at hcreate hs
  cases hcreate with
  | created _ hstored _ =>
    cases hs
    exact ⟨hstored, hname, hscheduler⟩

theorem stopped_of_settled {v v' : Slot} (h : AdmissionOutcome op v (.ok (.settled s)) v') :
    op = .stop ∧ v.record = some s ∧ s.state = .stopped := by
  cases h with
  | settled hop hrec hstate _ => exact ⟨hop, hrec, hstate⟩

theorem admission_sendable (ht : Texts service) : admissionAnswer op id (service.settle (service.admission op id)).1 := by
  obtain ⟨hadmits, -⟩ := admission_outcome op id service
  cases hadmission : service.admission op id with
  | error err => exact admission_declined hadmission
  | ok outcome =>
    obtain ⟨admission, service'⟩ := outcome
    rw [hadmission, settle_ok] at hadmits
    cases admission with
    | proceed s => exact slot_id hadmits.record_of_proceed
    | settled s =>
      obtain ⟨rfl, hrec, hstate⟩ := stopped_of_settled hadmits
      have hs := ht id s hrec
      exact ⟨nofun, hs, lastError_of_stored hs.stored (by rw [hstate]; nofun), hstate⟩

theorem commit_sendable (ht : Texts service) :
    Texts (service.settle (service.commit op id now)).2 ∧ commitAnswer op id (service.settle (service.commit op id now)).1 := by
  cases hrec : (service.slot id).record with
  | none =>
    rw [commit_of_missing op hrec]
    exact ⟨ht, .notFound⟩
  | some s =>
    obtain ⟨service', hcommit, hslot, hsame⟩ := commit_of_stored op now hrec
    rw [hcommit, settle_ok]
    have hs := ht id s hrec
    have hstored : ∀ s', (op.committed s now).record = some s' → Sendable id s' := by
      intro s' hs'
      cases op with
      | remove => cases hs'
      | start | stop | restart =>
        cases hs'
        exact hs.relabel (by simp)
    refine ⟨ht.of_sameBut hsame fun s' hs' => hstored s' (hslot ▸ hs'), ?_⟩
    cases op with
    | remove => exact rfl
    | start | stop | restart => exact ⟨nofun, hstored _ rfl, rfl, rfl⟩

theorem exec_sendable {c : ServiceCmd} {r : serviceInterface.Ans c} (hc : issues (R := R) (.inr (.inl c)))
    (ht : Texts service) (h : service.exec now c = some (r, service')) : Texts service' ∧ serviceAnswers c r := by
  cases c with
  | create draw name grc schedulerAlias =>
    obtain ⟨hgrc, hname, hscheduler⟩ := hc
    obtain ⟨outcome, hcreate, heq⟩ := Option.map_eq_some_iff.mp h
    obtain ⟨htexts, hanswer⟩ := create_sendable hgrc hname hscheduler ht hcreate
    rw [heq] at htexts hanswer
    exact ⟨htexts, now, hanswer⟩
  | admission op id =>
    obtain ⟨hadmits, hsame⟩ := admission_outcome op id service
    have hanswer : admissionAnswer op id _ := admission_sendable ht
    have heq : service.settle (service.admission op id) = (r, service') := Option.some.inj h
    rw [heq] at hadmits hsame hanswer
    exact ⟨ht.of_sameBut hsame fun s hs => ht id s (hadmits.keeps_record ▸ hs), hanswer⟩
  | fail id message =>
    have heq : service.settle (service.recordRuntimeFailure id message now) = (r, service') := Option.some.inj h
    cases hrec : (service.slot id).record with
    | none =>
      rw [recordRuntimeFailure_of_missing hrec] at heq
      cases heq
      exact ⟨ht, fun err herr => Except.error.inj herr ▸ .notFound⟩
    | some s =>
      obtain ⟨service', hfail, hslot, hsame⟩ := recordRuntimeFailure_of_stored message now hrec
      rw [hfail, settle_ok] at heq
      cases heq
      refine ⟨ht.of_sameBut hsame fun s' hs' => ?_, fun err herr => by cases herr⟩
      rw [hslot] at hs'
      cases hs'
      exact (ht id s hrec).relabel (by simp)
  | commit op id =>
    have hsendable : Texts _ ∧ commitAnswer op id (service.settle (service.commit op id now)).1 := commit_sendable ht
    obtain ⟨htexts, hanswer⟩ := hsendable
    have heq : service.settle (service.commit op id now) = (r, service') := Option.some.inj h
    rw [heq] at htexts hanswer
    exact ⟨htexts, hanswer⟩

end

def Issues {α : Type} (a : Call R α) : Prop := a.run.All issues answers

section

variable {α β : Type} {a : Call R α}

theorem Issues.bind {f : α → Call R β} (ha : Issues a) (hf : ∀ r, Issues (f r)) : Issues (a >>= f) :=
  Program.all_bind ha hf

theorem Issues.pure (r : α) : Issues (Pure.pure r : Call R α) := trivial

theorem Issues.throw (err : AppError) : Issues (MonadExcept.throw err : Call R α) := trivial

theorem Issues.map (f : α → β) (ha : Issues a) : Issues (f <$> a) := by
  rw [map_eq_pure_bind]
  exact ha.bind fun r => .pure (f r)

theorem issues_ask (c : StreamCall) : Issues (Call.ask c : Call R _) := ⟨trivial, fun _ _ => trivial⟩

theorem issues_get (id : Bytes) : Issues (Call.get id : Call R _) := ⟨trivial, fun r _ => by cases r <;> trivial⟩

theorem issues_planGate (id : Bytes) : Issues (Call.planGate id : Call R _) :=
  ⟨trivial, fun r _ => by cases r <;> trivial⟩

theorem issues_streamGate (id : Bytes) : Issues (Call.streamGate id : Call R _) :=
  ⟨trivial, fun r _ => by cases r <;> trivial⟩

theorem issues_activeStreamPlan (id : Bytes) : Issues (Call.activeStreamPlan id : Call R _) := by
  refine (issues_planGate id).bind fun session => ?_
  cases session with
  | none => exact .pure _
  | some session =>
    refine (issues_ask (.activeStreamPlan session)).bind fun r => ?_
    cases r with
    | error thrown => exact .throw _
    | ok plan => exact .pure _

theorem issues_fetchAttempts (session : Session) (id streamId : Bytes) (attempts : Nat) :
    Issues (Call.fetchAttempts session id streamId attempts : Call R _) := by
  induction attempts with
  | zero => exact .throw _
  | succ attempts ih =>
    refine (issues_ask (.fetchHttpStream session streamId)).bind fun r => ?_
    rcases r with (what | ⟨⟩) | response
    · dsimp only
      split
      · exact .throw _
      · exact ih
    · exact .throw _
    · exact .pure _

theorem issues_streamPlansOf (sessions : List Session) : Issues (streamPlansOf sessions : Call R _) := by
  induction sessions with
  | nil => exact .pure _
  | cons session sessions ih =>
    exact (issues_activeStreamPlan session.id).bind fun plan => ih.bind fun plans => .pure _

end

section

variable {M : RuntimeMachine R} {rm : RuntimeManager R} {request : Request}

def Ends (op : Operation) (id : Bytes) : Except AppError (Option Session) → Prop
  | .error err => Declined id err ∨ ∃ what, err = .runtime what
  | .ok session => Shows op id session

theorem serve_request : (serve rm (.call (.request request)) : Call R _).run =
    (handle rm request).run.inr >>= fun r => .ret (r.map fun session => .result (.session session)) := by
  have hserve : serve rm (.call (.request request)) =
      (fun session => ClientResult.result (.session session)) <$> Call.lifecycle (handle rm request) := by
    simp [serve, dispatch]
  rw [hserve, ExceptT.run_map]
  rfl

include M

theorem handle_lifecycle (op : Operation) (id : Bytes) :
    (handle rm (.lifecycle op id)).run = .step (.inl (.admission op id)) (afterAdmission rm op id) :=
  @body_lifecycle R M rm op id

theorem handle_create (draw : UInt64) (name grc : Bytes) (schedulerAlias : Option Bytes) :
    (handle rm (.create draw name grc schedulerAlias)).run =
      .step (.inl (.create draw name grc schedulerAlias)) fun r => .ret (r.map some) :=
  @body_create R M rm draw name grc schedulerAlias

theorem issues_lifecycle (op : Operation) (id : Bytes) : Issues (Call.lifecycle (handle rm (.lifecycle op id))) := by
  refine Program.All.inr ?_
  rw [handle_lifecycle (M := M)]
  refine ⟨trivial, fun r _ => ?_⟩
  rcases r with err | (session | session)
  · trivial
  · rw [afterAdmission_proceed]
    refine Program.All.bind (Program.All.inr (Program.all_of_forall fun _ => trivial)) fun r => ?_
    rcases r with thrown | ⟨⟩
    · exact ⟨trivial, fun r _ => by rcases r with err | ⟨⟩ <;> trivial⟩
    · exact ⟨trivial, fun _ _ => trivial⟩
  · trivial

theorem lifecycle_ends (op : Operation) (id : Bytes) :
    (handle rm (.lifecycle op id)).run.Ends (fun c r => answers (.inr c) r) (Ends op id) := by
  rw [handle_lifecycle (M := M)]
  intro r hr
  rcases r with err | (session | session)
  · exact .inl hr
  · obtain rfl : session.id = id := hr
    rw [afterAdmission_proceed]
    apply Program.Ends.bind
    apply Program.Ends.of_forall
    rintro (thrown | ⟨⟩)
    · rintro (err | ⟨⟩) hanswer
      · exact Or.inl (hanswer err rfl)
      · exact Or.inr ⟨_, rfl⟩
    · rintro (err | session) hanswer
      · exact Or.inl hanswer
      · exact hanswer
  · exact hr

end

end Gr4ControlPlane.SessionRoutes
