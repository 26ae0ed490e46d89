import Gr4ControlPlane.App.SessionServiceLaws
import Gr4ControlPlane.Runtime.RuntimeOwnership

open Gr4ControlPlane.Interleaving

namespace Gr4ControlPlane

variable {R : Interface} {W G : Type}

def Operation.outcome (op : Operation) (s : Session) : Option Session :=
  match op with
  | .start | .restart => some { s with state := .running }
  | .stop => some { s with state := .stopped }
  | .remove => none

structure RuntimeContract {M : RuntimeMachine R} (rm : RuntimeManager R)
    (O : RuntimeOwnership M W G) where
  rest : Option Session → W → Prop
  begins : Operation → Session → W → Prop
  failed : Operation → Session → Trace R → Prop
  congr : ∀ {s s' w}, s.SameOrigin s' → s'.state = s.state → rest (some s) w → rest (some s') w
  created : ∀ {s w}, s.state = .stopped → rest none w → rest (some s) w
  initial : ∃ g, O.good M.init g ∧ ∀ x, rest none (O.view x M.init g)
  calls : ∀ op s w, rest (some s) w → (op = .start → s.state ≠ .running) → begins op s w →
    (SessionService.runtimeCalls rm op s).wp (O.loc s.id) (fun r w' t => match r with
      | .ok () => rest (op.outcome s) w'
      | .error _ => rest (some { s with state := .error }) w' ∧ failed op s t) w []

namespace SessionService

def servicePre (x : Bytes) : ServiceCmd → Slot → Trace (serviceInterface.sum R) → Prop
  | .create draw _ _ _, _, t => generateSessionId draw = x ∧ t = []
  | .admission _ id, _, t => id = x ∧ t = []
  | .fail id _, v, _ => id = x ∧ ∃ s, v.InFlight x s
  | .commit _ id, v, _ => id = x ∧ ∃ s, v.InFlight x s

def servicePost (x : Bytes) : (c : ServiceCmd) → Slot → serviceInterface.Ans c → Slot → Prop
  | .create .., v, r, v' => CreateOutcome x v r v'
  | .admission op _, v, r, v' => AdmissionOutcome op v r v'
  | .fail _ message, v, r, v' => r = .ok () ∧ ∃ s now, v.record = some s ∧ v' = s.failed message now
  | .commit op _, v, r, v' => (∃ a, r = .ok a) ∧ ∃ s now, v.record = some s ∧ v' = op.committed s now

def serviceAnswers : (c : ServiceCmd) → serviceInterface.Ans c → Prop
  | .admission _ id, .ok (.proceed session) => session.id = id
  | _, _ => True

theorem exec_answers {service service' : SessionService} {c : ServiceCmd} {now : Timestamp}
    {r : serviceInterface.Ans c} (h : service.exec now c = some (r, service')) : serviceAnswers c r := by
  cases c with
  | admission op id =>
    have hout : Admits op id service (service.admission op id) := admission_outcome op id service
    have hsettle : service.settle (service.admission op id) = (r, service') := Option.some.inj h
    rw [Admits, hsettle] at hout
    match r, hout.1 with
    | .error err, _ => trivial
    | .ok (.settled session), _ => trivial
    | .ok (.proceed session), hproceed => exact slot_id hproceed.record_of_proceed
  | create | fail | commit => trivial

theorem exec_post {service service' : SessionService} {x : Bytes} {c : ServiceCmd} {now : Timestamp}
    {t : Trace (serviceInterface.sum R)} {r : serviceInterface.Ans c}
    (hpre : servicePre x c (service.slot x) t) (h : service.exec now c = some (r, service')) :
    servicePost x c (service.slot x) r (service'.slot x) ∧ service.SameBut x service' := by
  cases c with
  | create draw name grc schedulerAlias =>
    obtain ⟨rfl, -⟩ := hpre
    obtain ⟨outcome, hc, heq⟩ := Option.map_eq_some_iff.mp h
    have := create_outcome hc
    rwa [heq] at this
  | admission op id =>
    obtain ⟨rfl, -⟩ := hpre
    have := admission_outcome op id service
    unfold Admits at this
    rwa [Option.some.inj h] at this
  | fail id message =>
    obtain ⟨rfl, s, hv⟩ := hpre
    obtain ⟨service'', hf, hslot, hsame⟩ :=
      recordRuntimeFailure_of_stored message now hv.record
    have heq := Option.some.inj h
    rw [hf] at heq
    cases heq
    exact ⟨⟨rfl, s, now, hv.record, hslot⟩, hsame⟩
  | commit op id =>
    obtain ⟨rfl, s, hv⟩ := hpre
    obtain ⟨service'', hc, hslot, hsame⟩ := commit_of_stored op now hv.record
    have heq := Option.some.inj h
    rw [hc] at heq
    cases heq
    exact ⟨⟨⟨_, rfl⟩, s, now, hv.record, hslot⟩, hsame⟩

variable {M : RuntimeMachine R} {rm : RuntimeManager R}

theorem exec_left {c : ServiceCmd} {e : Env M.Env} {σ σ' : SessionService × M.State}
    {r : serviceInterface.Ans c} (h : (system rm M).exec (.inl c) e σ = some (r, σ')) :
    ∃ service', σ.1.exec e.now c = some (r, service') ∧ σ' = (service', σ.2) := by
  obtain ⟨⟨r', service'⟩, hc, heq⟩ := Option.map_eq_some_iff.mp h
  cases heq
  exact ⟨service', hc, rfl⟩

theorem exec_right {c : R.Cmd} {e : Env M.Env} {σ σ' : SessionService × M.State} {r : R.Ans c}
    (h : (system rm M).exec (.inr c) e σ = some (r, σ')) :
    ∃ runtime', M.exec c e.runtime σ.2 = some (r, runtime') ∧ σ' = (σ.1, runtime') := by
  obtain ⟨⟨r', runtime'⟩, hc, heq⟩ := Option.map_eq_some_iff.mp h
  cases heq
  exact ⟨runtime', hc, rfl⟩

def systemAnswers : (c : (serviceInterface.sum R).Cmd) → (serviceInterface.sum R).Ans c → Prop
  | .inl c, r => serviceAnswers c r
  | .inr _, _ => True

theorem exec_systemAnswers {c : (serviceInterface.sum R).Cmd} {e : Env M.Env}
    {σ σ' : SessionService × M.State} {r : (serviceInterface.sum R).Ans c}
    (h : (system rm M).exec c e σ = some (r, σ')) : systemAnswers c r := by
  cases c with
  | inl c =>
    obtain ⟨service', hc, -⟩ := exec_left h
    exact exec_answers hc
  | inr c => trivial

/-- What is left of a lifecycle call once its first section has answered. -/
def afterAdmission (rm : RuntimeManager R) (op : Operation) (id : Bytes) :
    Except AppError Admission → Program (serviceInterface.sum R) (Except AppError (Option Session))
  | .error err => .ret (.error err)
  | .ok (.settled session) => .ret (.ok (some session))
  | .ok (.proceed session) => ExceptT.run do
    tryRuntime op id session (runtimeCalls rm op session)
    Action.performLeft (.commit op id) fun r => r

/-- The section a lifecycle call ends with, given how its runtime calls went. -/
def closing (op : Operation) (id : Bytes) (session : Session) :
    Except Thrown Unit → Program (serviceInterface.sum R) (Except AppError (Option Session))
  | .ok () => .step (.inl (.commit op id)) .ret
  | .error thrown => .step (.inl (.fail session.id (runtimeMessage op.action id thrown))) fun
    | .ok () => .ret (.error (.runtime (runtimeMessage op.action id thrown)))
    | .error err => .ret (.error err)

theorem afterAdmission_proceed (op : Operation) (id : Bytes) (session : Session) :
    afterAdmission rm op id (.ok (.proceed session)) =
      (runtimeCalls rm op session).run.inr >>= closing op id session := by
  change (tryRuntime op id session (runtimeCalls rm op session) >>= _).run = _
  unfold tryRuntime
  rw [bind_assoc, ExceptT.run_bind_lift]
  apply congrArg
  funext r
  rcases r with thrown | ⟨⟩
  · exact congrArg (Program.step _) (funext fun r => by rcases r with err | ⟨⟩ <;> rfl)
  · rfl

theorem body_lifecycle (op : Operation) (id : Bytes) :
    (system rm M).body (.lifecycle op id) =
      .step (.inl (.admission op id)) (afterAdmission rm op id) := by
  have : (handle rm (.lifecycle op id)).run =
      .step (.inl (.admission op id)) (afterAdmission rm op id) := by
    cases op <;>
      exact congrArg (Program.step _) (funext fun r => by rcases r with err | (s | s) <;> rfl)
  exact this

theorem body_create (draw : UInt64) (name grc : Bytes) (schedulerAlias : Option Bytes) :
    (system rm M).body (.create draw name grc schedulerAlias) =
      .step (.inl (.create draw name grc schedulerAlias)) fun r => .ret (r.map some) :=
  congrArg (Program.step _) (funext fun r => by cases r <;> rfl)

def afterOpening (rm : RuntimeManager R) : (request : Request) → serviceInterface.Ans request.opening →
    Program (serviceInterface.sum R) (Except AppError (Option Session))
  | .create .., r => .ret (r.map some)
  | .lifecycle op id, r => afterAdmission rm op id r

def sessionLocal (O : RuntimeOwnership M W G) (x : Bytes) :
    Local (serviceInterface.sum R) (Slot × W) :=
  Local.sum (servicePre x) (servicePost x) (fun v => ∃ s, v.InFlight x s) (O.loc x)

variable (rm) in
def ownership (O : RuntimeOwnership M W G) : Ownership (system rm M) Bytes (Slot × W) G where
  key := Request.session
  view x σ g := (σ.1.slot x, O.view x σ.2 g)
  good σ g := O.good σ.2 g
  loc := sessionLocal O
  sound := by
    rintro x (c | c) e ⟨service, runtime⟩ g t r ⟨service', runtime'⟩ hg hpre hexec
    · obtain ⟨service', hc, heq⟩ := exec_left hexec
      cases heq
      obtain ⟨hpost, hsame⟩ := exec_post hpre hc
      exact ⟨g, hg, ⟨hpost, rfl⟩, fun y hy => by rw [hsame y hy]⟩
    · obtain ⟨runtime', hc, heq⟩ := exec_right hexec
      cases heq
      obtain ⟨g', hg', hpost, hframe⟩ := O.sound hg hpre.2 hc
      exact ⟨g', hg', ⟨rfl, hpost⟩, fun y hy => by rw [hframe y hy]⟩

theorem exec_isSome {O : RuntimeOwnership M W G} (hready : O.Ready) {x : Bytes} {e : Env M.Env}
    {c : (serviceInterface.sum R).Cmd} {σ : SessionService × M.State} {g : G} {t : Trace (serviceInterface.sum R)}
    (ht : t ≠ []) (hg : (ownership rm O).good σ g)
    (hpre : ((ownership rm O).loc x).pre c ((ownership rm O).view x σ g) t) :
    ((system rm M).exec c e σ).isSome := by
  cases c with
  | inl c =>
    cases c with
    | create => exact absurd hpre.2 ht
    | admission | fail | commit => rfl
  | inr c => exact Option.isSome_map.trans (hready hg hpre.2)

inductive CallReport {O : RuntimeOwnership M W G} (C : RuntimeContract rm O) :
    Request → Except AppError (Option Session) → Trace (serviceInterface.sum R) → Prop
  | create {draw name grc schedulerAlias r t} : CallReport C (.create draw name grc schedulerAlias) r t
  | done {op id a t} : CallReport C (.lifecycle op id) (.ok a) t
  | refused {op id err} :
      CallReport C (.lifecycle op id) (.error err) [⟨.inl (.admission op id), .error err⟩]
  | failed {op id s message t} : s.id = id → C.failed op s (Trace.right t) →
      CallReport C (.lifecycle op id) (.error (.runtime message)) t

variable {O : RuntimeOwnership M W G} (C : RuntimeContract rm O)

def sessionRest (x : Bytes) (v : Slot × W) : Prop := v.1.AtRest x ∧ C.rest v.1.record v.2

def sessionEnds (request : Request) (r : Except AppError (Option Session)) (v : Slot × W)
    (t : Trace (serviceInterface.sum R)) : Prop :=
  sessionRest C request.session v ∧ CallReport C request r t

def sessionBegins : Request → Slot × W → Prop
  | .create .., _ => True
  | .lifecycle op _, v => ∀ s, v.1.record = some s → C.begins op s v.2

theorem sessionBegins_of (h : ∀ op s w, C.begins op s w) (request : Request) (v : Slot × W) :
    sessionBegins C request v := by
  cases request with
  | create => trivial
  | lifecycle op id => exact fun s _ => h op s v.2

theorem rest_stored {s : Session} {w : W} {state : SessionState} {lastError : Option Bytes} {now : Timestamp}
    (h : C.rest (some { s with state := state }) w) :
    C.rest (some { s with state := state, lastError := lastError, updatedAt := now }) w :=
  C.congr (s := { s with state := state }) ⟨rfl, rfl, rfl, rfl, rfl⟩ rfl h

theorem rest_committed {op : Operation} {s : Session} {w : W} {now : Timestamp}
    (h : C.rest (op.outcome s) w) : C.rest (op.committed s now).record w := by
  cases op with
  | remove => exact h
  | start => exact rest_stored C h
  | stop => exact rest_stored C h
  | restart => exact rest_stored C h

theorem create_wp {draw : UInt64} {name grc : Bytes} {schedulerAlias : Option Bytes} {v : Slot × W}
    (hv : sessionRest C (generateSessionId draw) v) :
    ((system rm M).body (.create draw name grc schedulerAlias)).wp
      (sessionLocal O (generateSessionId draw)) (sessionEnds C (.create draw name grc schedulerAlias)) v [] := by
  obtain ⟨v, w⟩ := v
  rw [body_create]
  refine ⟨⟨rfl, rfl⟩, ?_⟩
  rintro r ⟨v', w'⟩ ⟨hpost, rfl⟩ -
  generalize hr : r = r' at hpost
  cases hpost with
  | refused => subst hr; exact ⟨hv, .create⟩
  | @created s hnone hs hstate =>
    subst hr
    refine ⟨⟨?_, C.created hstate (hnone ▸ hv.2)⟩, .create⟩
    exact (show SessionState.phase s.state = .idle by rw [hstate]; rfl) ▸ Slot.AtRest.stored hs

theorem tryRuntime_wp {op : Operation} {x : Bytes} {s : Session} {v : Slot} {w : W}
    {t : Trace (serviceInterface.sum R)} {calls : Action R Thrown Unit}
    {Q : Except AppError Unit → Slot × W → Trace (serviceInterface.sum R) → Prop}
    (hv : v.InFlight x s)
    (hcalls : calls.wp (O.loc x) (fun r w' t => match r with
      | .ok () => C.rest (op.outcome s) w'
      | .error _ => C.rest (some { s with state := .error }) w' ∧ C.failed op s t) w t.right)
    (hok : ∀ w' t', C.rest (op.outcome s) w' → Q (.ok ()) (v, w') t')
    (herr : ∀ message now w' t', C.rest (s.failed message now).record w' → C.failed op s (Trace.right t') →
      Q (.error (.runtime message)) (s.failed message now, w') t') :
    (tryRuntime op x s calls).wp (sessionLocal O x) Q (v, w) t := by
  unfold tryRuntime
  rw [Action.wp_bind, Action.wp_lift]
  refine Program.wp_inr ⟨s, hv⟩ (Program.wp_mono ?_ hcalls)
  rintro (thrown | ⟨⟩) w' t' hr T rfl
  · refine Action.wp_seq (Action.wp_performLeft.mpr ⟨⟨hv.stored.id, s, hv⟩, ?_⟩)
    rintro r v' ⟨rfl, s', now, hrec, rfl⟩
    obtain rfl : s = s' := Option.some.inj (hv.record.symm.trans hrec)
    exact herr _ now _ _ (rest_stored C hr.1) hr.2
  · exact hok w' T hr

theorem proceed_wp {op : Operation} {id : Bytes} {s : Session} {v : Slot} {w : W}
    {t : Trace (serviceInterface.sum R)}
    {Q : Except AppError (Option Session) → Slot × W → Trace (serviceInterface.sum R) → Prop}
    (hflight : v.InFlight id s) (ht : Trace.right t = []) (hrest : C.rest (some s) w)
    (hstart : op = .start → s.state ≠ .running) (hb : C.begins op s w)
    (hok : ∀ a now w' t, C.rest (op.outcome s) w' → Q (.ok a) (op.committed s now, w') t)
    (herr : ∀ message now w' t, C.rest (s.failed message now).record w' → C.failed op s (Trace.right t) →
      Q (.error (.runtime message)) (s.failed message now, w') t) :
    (afterAdmission rm op id (.ok (.proceed s))).wp (sessionLocal O id) Q (v, w) t := by
  obtain rfl : s.id = id := hflight.stored.id
  have hcalls := C.calls op s w hrest hstart hb
  rw [← ht] at hcalls
  refine Action.wp_seq (tryRuntime_wp C hflight hcalls ?_ herr)
  intro w' t' hout
  refine Action.wp_performLeft.mpr ⟨⟨rfl, s, hflight⟩, ?_⟩
  rintro r v' ⟨⟨a, rfl⟩, s', now, hrec, rfl⟩
  obtain rfl : s = s' := Option.some.inj (hflight.record.symm.trans hrec)
  exact hok a now w' _ hout

theorem lifecycle_wp {op : Operation} {id : Bytes} {v : Slot × W} (hv : sessionRest C id v)
    (hb : sessionBegins C (.lifecycle op id) v) :
    ((system rm M).body (.lifecycle op id)).wp (sessionLocal O id)
      (sessionEnds C (.lifecycle op id)) v [] := by
  obtain ⟨v, w⟩ := v
  rw [body_lifecycle]
  refine ⟨⟨rfl, rfl⟩, ?_⟩
  rintro r ⟨v', w'⟩ ⟨hpost, hw⟩ -
  obtain rfl : w' = w := hw
  generalize hr : r = r' at hpost
  cases hpost with
  | missing h => subst hr; exact ⟨hv, .refused⟩
  | refused h h' => subst hr; exact ⟨hv, .refused⟩
  | settled _ _ _ _ => subst hr; exact ⟨hv, .done⟩
  | @proceed s h hphase hstart =>
    subst hr
    have hflight := hv.1.inFlight h op
    have hrest : C.rest (some s) w' := by
      have := hv.2
      rwa [h] at this
    refine proceed_wp C hflight rfl hrest hstart (hb s h) ?_ ?_
    · intro a now w'' t hout
      exact ⟨⟨Operation.committed_atRest hflight.stored, rest_committed C hout⟩, .done⟩
    · intro message now w'' t hout hfail
      exact ⟨⟨Session.failed_atRest hflight.stored, hout⟩, .failed hflight.stored.id hfail⟩

def discipline : Discipline (ownership rm O) where
  rest := sessionRest C
  begins := sessionBegins C
  ends := sessionEnds C
  report := CallReport C
  body
    | .create .., _, hv, _ => create_wp C hv
    | .lifecycle .., _, hv, hb => lifecycle_wp C hv hb
  settles h := h.1
  reports h := h.2

section

variable {C} {c c' : Config (system rm M)} {g : G}

theorem inFlight_of_active (h : Owned (ownership rm O) (discipline C) c g) {th : Thread (system rm M)}
    (hth : th ∈ c.threads) (ha : th.active) :
    ∃ s, (c.shared.1.slot th.op.session).InFlight th.op.session s := by
  obtain ⟨hne, hwp⟩ := h.active th hth ha
  obtain ⟨cmd, k, hp⟩ := Thread.active_iff.mp ha
  rw [hp] at hwp
  have hpre := hwp.1
  match cmd, hpre with
  | .inl (.create ..), hpre => exact absurd hpre.2 hne
  | .inl (.admission ..), hpre => exact absurd hpre.2 hne
  | .inl (.fail ..), hpre => exact hpre.2
  | .inl (.commit ..), hpre => exact hpre.2
  | .inr _, hpre => exact hpre.1

theorem inFlight_of_busy (h : Owned (ownership rm O) (discipline C) c g) {x : Bytes}
    (hb : (ownership rm O).Busy c x) : ∃ s, (c.shared.1.slot x).InFlight x s := by
  obtain ⟨th, hth, ha, rfl⟩ := hb
  exact inFlight_of_active h hth ha

theorem slot_cases (h : Owned (ownership rm O) (discipline C) c g) (x : Bytes) :
    (¬ (ownership rm O).Busy c x ∧ (c.shared.1.slot x).AtRest x) ∨
      ((ownership rm O).Busy c x ∧ ∃ s, (c.shared.1.slot x).InFlight x s) := by
  by_cases hb : (ownership rm O).Busy c x
  · exact .inr ⟨hb, inFlight_of_busy h hb⟩
  · exact .inl ⟨hb, (h.idle x hb).1⟩

theorem opening_exec {request : Request} {e : Env M.Env} {th : Thread (system rm M)} {σ σ' : SessionService × M.State}
    (hadv : (Thread.start request).advance e σ = some (th, σ')) :
    ∃ r service', σ.1.exec e.now request.opening = some (r, service') ∧ σ' = (service', σ.2) ∧
      th.trace = [⟨.inl request.opening, r⟩] ∧ th.prog = afterOpening rm request r := by
  obtain ⟨cmd, k, r, hp, hexec, rfl⟩ := Thread.advance_cases hadv
  cases request with
  | create draw name grc schedulerAlias =>
    cases (body_create draw name grc schedulerAlias).symm.trans hp
    obtain ⟨service', hc, hσ'⟩ := exec_left hexec
    exact ⟨r, service', hc, hσ', rfl, rfl⟩
  | lifecycle op id =>
    cases (body_lifecycle op id).symm.trans hp
    obtain ⟨service', hc, hσ'⟩ := exec_left hexec
    exact ⟨r, service', hc, hσ', rfl, rfl⟩

theorem opening_post {request : Request} {e : Env M.Env} {th : Thread (system rm M)}
    (hadv : (Thread.start request).advance e c.shared = some (th, c'.shared)) :
    ∃ r service', c'.shared = (service', c.shared.2) ∧
      th.trace = [⟨.inl request.opening, r⟩] ∧ th.prog = afterOpening rm request r ∧
      servicePost request.session request.opening (c.shared.1.slot request.session) r
        (service'.slot request.session) ∧
      c.shared.1.SameBut request.session service' := by
  obtain ⟨r, service', hc, hc', htrace, hprog⟩ := opening_exec hadv
  have hpre : servicePre request.session request.opening (c.shared.1.slot request.session)
      ([] : Trace (serviceInterface.sum R)) := by
    cases request <;> exact ⟨rfl, rfl⟩
  exact ⟨r, service', hc', htrace, hprog, exec_post hpre hc⟩

theorem refuses_busy {request : Request} {e : Env M.Env} (hg : O.good c.shared.2 g) {s : Session}
    (hv : (c.shared.1.slot request.session).InFlight request.session s) :
    (discipline C).Refuses request e c.shared c'.shared g := by
  intro th hadv
  obtain ⟨r, service', hc', htrace, hprog, hpost, hsame⟩ := opening_post hadv
  -- the answer is an error and the service is as it was, whichever section came first
  have hkept : service'.slot request.session = c.shared.1.slot request.session →
      ∃ g', (ownership rm O).good c'.shared g' ∧
        ∀ y, (ownership rm O).view y c'.shared g' = (ownership rm O).view y c.shared g := by
    intro hx
    rw [hc']
    refine ⟨g, hg, fun y => ?_⟩
    by_cases hy : y = request.session
    · exact congrArg (·, _) (hy ▸ hx)
    · exact congrArg (·, _) (hsame y hy)
  rw [hprog, htrace]
  cases request with
  | create draw name grc schedulerAlias =>
    obtain ⟨⟨err, rfl⟩, hslot⟩ := CreateOutcome.of_inFlight hpost hv
    exact ⟨⟨.error err, rfl, .create⟩, hkept hslot⟩
  | lifecycle op id =>
    obtain ⟨⟨err, rfl⟩, hslot⟩ := AdmissionOutcome.of_inFlight hpost hv
    exact ⟨⟨.error err, rfl, .refused⟩, hkept hslot⟩

theorem reach_owned {ok : Config (system rm M) → Label (system rm M) → Config (system rm M) → Prop}
    (hadm : ∀ {c l c'}, ok c l c' → (ownership rm O).Admitted c')
    (hbegin : ∀ {c c' g request e}, Owned (ownership rm O) (discipline C) c g →
      c.step (.invoke request e) = some c' → ok c (.invoke request e) c' →
      ¬ (ownership rm O).Busy c request.session →
      sessionBegins C request ((ownership rm O).view request.session c.shared g))
    (h : Reach ok ⟨(empty, M.init), []⟩ c) : ∃ g, Owned (ownership rm O) (discipline C) c g := by
  refine Owned.reach ?_ hadm ?_ h
  · obtain ⟨g, hg, hrest⟩ := C.initial
    exact ⟨g, Owned.initial hg fun x => ⟨.absent, hrest x⟩⟩
  · intro c c' g request e hown hs hok
    rcases slot_cases hown request.session with ⟨hfree, -⟩ | ⟨-, s, hv⟩
    · exact .inl ⟨hfree, hbegin hown hs hok hfree⟩
    · exact .inr (refuses_busy hown.good hv)

theorem step_slot {l : Label (system rm M)} (h : Owned (ownership rm O) (discipline C) c g)
    (hs : c.step l = some c') (x : Bytes) : c'.shared.1.slot x = c.shared.1.slot x ∨
      ∃ cmd r, servicePost x cmd (c.shared.1.slot x) r (c'.shared.1.slot x) := by
  cases l with
  | invoke request e =>
    obtain ⟨th, hadv, -⟩ := Config.step_invoke hs
    obtain ⟨r, service', hc', -, -, hpost, hsame⟩ := opening_post hadv
    rw [hc']
    by_cases hx : x = request.session
    · subst hx; exact .inr ⟨_, r, hpost⟩
    · exact .inl (hsame x hx)
  | run i e =>
    obtain ⟨th, th', hi, hadv, -⟩ := Config.step_run hs
    have hwp := (h.active th (List.mem_of_getElem? hi) (Thread.advance_active hadv)).2
    obtain ⟨cmd, k, r, hp, hexec, -⟩ := Thread.advance_cases hadv
    rw [hp] at hwp
    cases cmd with
    | inl cmd =>
      obtain ⟨service', hc, hc'⟩ := exec_left hexec
      obtain ⟨hpost, hsame⟩ := exec_post hwp.1 hc
      rw [hc']
      by_cases hx : x = th.op.session
      · subst hx; exact .inr ⟨_, r, hpost⟩
      · exact .inl (hsame x hx)
    | inr cmd =>
      obtain ⟨runtime', -, hc'⟩ := exec_right hexec
      exact .inl (by rw [hc'])

end

end SessionService

end Gr4ControlPlane
