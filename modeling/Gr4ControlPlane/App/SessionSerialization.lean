import Gr4ControlPlane.App.RuntimeBlocks

/-! Interleaved calls come to the same as calls made one after another: exclusion rests on
the phases alone, and each call touches nothing but its own session. -/

open Gr4ControlPlane.Interleaving

namespace Gr4ControlPlane.SessionService

def ofSlot (x : Bytes) (v : Slot) : SessionService where
  repository :=
    match v.record with
    | some s => if s.id = x then InMemorySessionRepository.empty.put s else .empty
    | none => .empty
  phases :=
    match v.phase with
    | some phase => Finmap.singleton x phase
    | none => ∅

theorem slot_ofSlot {x : Bytes} {v : Slot} (h : ∀ s, v.record = some s → s.id = x) :
    (ofSlot x v).slot x = v := by
  obtain ⟨record, phase⟩ := v
  have hrecord : (ofSlot x ⟨record, phase⟩).repository.get x = record := by
    cases record with
    | none => rfl
    | some s =>
      have hid := h s rfl
      subst hid
      simp [ofSlot]
  have hphase : (ofSlot x ⟨record, phase⟩).phases.lookup x = phase := by
    cases phase with
    | none => rfl
    | some phase => simp [ofSlot]
  exact Slot.ext hrecord hphase

structure SessionView where
  slot : Slot
  seen : List RuntimeEvent

def sessionView (x : Bytes) (σ : SessionService × List RuntimeEvent) : SessionView :=
  ⟨σ.1.slot x, σ.2.filter (·.session = x)⟩

def viewAct : (c : (serviceInterface.sum outcomeInterface).Cmd) → Env (Except Thrown Unit) →
    SessionView → Option ((serviceInterface.sum outcomeInterface).Ans c × SessionView)
  | .inl c, e, v => ((ofSlot c.session v.slot).exec e.now c).map fun p =>
      (p.1, { v with slot := p.2.slot c.session })
  | .inr c, e, v => some (e.runtime, { v with seen := v.seen ++ [⟨c.1, c.2.id, e.runtime⟩] })

def aboutSession (x : Bytes) : (serviceInterface.sum outcomeInterface).Cmd → Prop
  | .inl c => c.session = x
  | .inr c => c.2.id = x

theorem exec_sessionView {x : Bytes} {c : (serviceInterface.sum outcomeInterface).Cmd}
    (hx : aboutSession x c) (e : Env (Except Thrown Unit)) (σ : SessionService × List RuntimeEvent) :
    (OutcomeSystem.exec c e σ).map (fun p => (p.1, sessionView x p.2)) =
      viewAct c e (sessionView x σ) := by
  cases c with
  | inl c =>
    have hx : c.session = x := hx
    subst hx
    have hcongr := exec_congr c e.now
      (slot_ofSlot (v := σ.1.slot c.session) fun s => slot_id)
    have hseen := congrArg (Option.map fun q => (q.1, SessionView.mk q.2 (σ.2.filter (·.session = c.session)))) hcongr
    rw [Option.map_map, Option.map_map] at hseen
    simp only [viewAct, Option.map_map]
    exact hseen.symm
  | inr c =>
    have hx : c.2.id = x := hx
    subst hx
    simp [viewAct, sessionView]

theorem exec_frame {x y : Bytes} {c : (serviceInterface.sum outcomeInterface).Cmd}
    {e : Env (Except Thrown Unit)} {σ σ' : SessionService × List RuntimeEvent}
    {r : (serviceInterface.sum outcomeInterface).Ans c} (hx : aboutSession x c)
    (h : OutcomeSystem.exec c e σ = some (r, σ')) (hy : y ≠ x) :
    sessionView y σ' = sessionView y σ := by
  cases c with
  | inl c =>
    have hx : c.session = x := hx
    subst hx
    obtain ⟨service', hc, rfl⟩ := exec_left h
    exact congrArg (SessionView.mk · _) (exec_sameBut hc y hy)
  | inr c =>
    have hx : c.2.id = x := hx
    subst hx
    obtain ⟨runtime', hc, rfl⟩ := exec_right h
    cases hc
    simp [sessionView, Ne.symm hy]

def CallsAbout {α : Type} (x : Bytes) (a : Action outcomeInterface Thrown α) : Prop :=
  a.run.All (fun c : RuntimeCall × Session => c.2.id = x) fun _ _ => True

theorem runtimeCalls_about (op : Operation) {session : Session} {x : Bytes} (hid : session.id = x) :
    CallsAbout x (runtimeCalls outcomeRuntime op session) := by
  have hcall : ∀ (call : RuntimeCall) (s : Session), s.id = x →
      CallsAbout x (outcomeRuntime.call call s) := by
    intro call s hs
    rw [outcomeRuntime_call]
    exact ⟨hs, fun _ _ => trivial⟩
  have hstart : ∀ s : Session, s.id = x → CallsAbout x (startCalls outcomeRuntime s) :=
    fun s hs => Program.all_bind (hcall .prepare s hs) fun _ => hcall .start s hs
  have hstopped : ∀ f : Session → Action outcomeInterface Thrown Unit,
      (∀ s : Session, s.id = x → CallsAbout x (f s)) →
      CallsAbout x (stopIfRunning outcomeRuntime session >>= f) := by
    intro f hf
    unfold stopIfRunning
    split
    · simp only [bind_assoc, pure_bind]
      exact Program.all_bind (hcall .stop session hid) fun _ => hf _ hid
    · exact hf session hid
  cases op with
  | start => exact hstart session hid
  | stop => exact hcall .stop session hid
  | restart => exact hstopped _ fun s hs => Program.all_bind (hcall .destroy s hs) fun _ => hstart s hs
  | remove => exact hstopped _ fun s hs => hcall .destroy s hs

theorem body_about (request : Request) :
    (OutcomeSystem.body request).All (aboutSession request.session) systemAnswers := by
  cases request with
  | create draw name grc schedulerAlias =>
    rw [body_create]
    exact ⟨rfl, fun _ _ => trivial⟩
  | lifecycle op id =>
    rw [body_lifecycle]
    refine ⟨rfl, fun r hr => ?_⟩
    match r, hr with
    | .error err, _ => trivial
    | .ok (.settled session), _ => trivial
    | .ok (.proceed session), hid =>
      rw [afterAdmission_proceed]
      refine Program.All.bind (Program.All.inr (runtimeCalls_about op hid)) fun r => ?_
      · rcases r with thrown | ⟨⟩
        · exact ⟨hid, fun r _ => by rcases r with err | ⟨⟩ <;> trivial⟩
        · exact ⟨rfl, fun _ _ => trivial⟩

def sessions : Keyed OutcomeSystem Bytes SessionView where
  key := Request.session
  view := sessionView
  act := viewAct
  addressed := aboutSession
  answers := systemAnswers
  exec_view := exec_sessionView
  frame := exec_frame
  possible := exec_systemAnswers
  body := body_about

def tookPart (th : Thread OutcomeSystem) : Bool :=
  match th.trace.getLast? with
  | some ⟨.inl (.create ..), r⟩ => r.isOk
  | some ⟨.inl (.admission ..), .ok (.proceed _)⟩ => true
  | _ => false

theorem tookPart_advance {th th' : Thread OutcomeSystem} {e : Env (Except Thrown Unit)}
    {σ σ' : SessionService × List RuntimeEvent} (h : th.advance e σ = some (th', σ'))
    (hne : th.trace ≠ []) : tookPart th' = tookPart th := by
  obtain ⟨c, k, r, -, -, rfl⟩ := Thread.advance_cases h
  unfold tookPart
  rw [List.getLast?_cons_of_ne_nil hne]

variable {c c' : Config OutcomeSystem}

theorem invoke_tookPart (h : Reachable outcomeRuntime outcomeMachine c) {request : Request}
    {e : Env (Except Thrown Unit)} {th : Thread OutcomeSystem}
    (hadv : (Thread.start request).advance e c.shared = some (th, c'.shared)) :
    (tookPart th → ¬ ∃ i, UnderWay c request.session i) ∧
      (¬ tookPart th → th.active = false ∧
        sessionView request.session c'.shared = sessionView request.session c.shared) := by
  obtain ⟨r, service', hc', htrace, hprog, hpost, -⟩ := opening_post hadv
  have hview : service'.slot request.session = c.shared.1.slot request.session →
      sessionView request.session c'.shared = sessionView request.session c.shared := by
    intro hslot
    rw [hc']
    exact congrArg (SessionView.mk · _) hslot
  have hbusy : (∃ i, UnderWay c request.session i) →
      ∃ s, (c.shared.1.slot request.session).InFlight request.session s := by
    intro hi
    rcases h.slot_cases request.session with ⟨hfree, -⟩ | ⟨-, hv⟩
    · exact absurd hi hfree
    · exact hv
  cases request with
  | create draw name grc schedulerAlias =>
    rcases r with err | s
    · have hpart : ¬ tookPart th := by simp [tookPart, htrace, Request.opening, Except.isOk, Except.toBool]
      refine ⟨fun h => absurd h hpart, fun _ => ⟨?_, hview hpost.of_error⟩⟩
      simp [Thread.active, hprog, afterOpening, Except.map, Program.finished]
    · have hpart : tookPart th := by simp [tookPart, htrace, Request.opening, Except.isOk, Except.toBool]
      refine ⟨fun _ hi => ?_, fun hnot => absurd hpart hnot⟩
      obtain ⟨s', hv⟩ := hbusy hi
      obtain ⟨⟨err, herr⟩, -⟩ := CreateOutcome.of_inFlight hpost hv
      cases herr
  | lifecycle op id =>
    rcases r with err | s | s
    · have hpart : ¬ tookPart th := by simp [tookPart, htrace, Request.opening]
      refine ⟨fun h => absurd h hpart, fun _ => ⟨?_, hview hpost.of_error⟩⟩
      simp [Thread.active, hprog, afterOpening, afterAdmission, Program.finished]
    · have hpart : tookPart th := by simp [tookPart, htrace, Request.opening]
      refine ⟨fun _ hi => ?_, fun hnot => absurd hpart hnot⟩
      obtain ⟨s', hv⟩ := hbusy hi
      obtain ⟨⟨err, herr⟩, -⟩ := AdmissionOutcome.of_inFlight hpost hv
      cases herr
    · have hpart : ¬ tookPart th := by simp [tookPart, htrace, Request.opening]
      refine ⟨fun h => absurd h hpart, fun _ => ⟨?_, hview hpost.of_settled⟩⟩
      simp [Thread.active, hprog, afterOpening, afterAdmission, Program.finished]

theorem Reachable.serial (h : Reachable outcomeRuntime outcomeMachine c) :
    Serial sessions tookPart (empty, []) c := by
  induction h with
  | init =>
    exact ⟨by simp, by simp, by simp, fun x => .nil⟩
  | @step c l c' hc hs _ ih =>
    cases l with
    | run i e =>
      refine ih.run_step hs fun hth hadv => tookPart_advance hadv ?_
      obtain ⟨g, hown⟩ := Reachable.owned hc
      exact (hown.active _ hth (Thread.advance_active hadv)).1
    | invoke request e =>
      refine ih.invoke hs (fun hadv hpart u hu hua hkey => ?_) fun hadv => (invoke_tookPart hc hadv).2
      exact (invoke_tookPart hc hadv).1 hpart ((busy_iff_underWay hc).mp ⟨u, hu, hua, hkey⟩)

theorem perform_seen {th th' : Thread OutcomeSystem} {e : Env (Except Thrown Unit)} {v v' : SessionView}
    (h : th.perform sessions e v = some (th', v')) :
    ∃ new, v'.seen = v.seen ++ new ∧ madeCalls th' = madeCalls th ++ new := by
  unfold Thread.perform at h
  split at h
  · cases h
  · next cmd k hp =>
    obtain ⟨⟨r, w⟩, hact, heq⟩ := Option.map_eq_some_iff.mp h
    cases heq
    cases cmd with
    | inl cmd =>
      obtain ⟨p, -, heq⟩ := Option.map_eq_some_iff.mp hact
      cases heq
      exact ⟨[], (List.append_nil _).symm, (List.append_nil _).symm⟩
    | inr cmd =>
      cases hact
      exact ⟨[⟨cmd.1, cmd.2.id, e.runtime⟩], rfl, by simp [madeCalls, runtimeEvents, Trace.right]⟩

theorem replay_seen {u th : Thread OutcomeSystem} {es : List (Env (Except Thrown Unit))} {v w : SessionView}
    (h : u.replay sessions es v = some (th, w)) :
    ∃ new, w.seen = v.seen ++ new ∧ madeCalls th = madeCalls u ++ new := by
  induction es generalizing u v with
  | nil =>
    cases h
    exact ⟨[], (List.append_nil _).symm, (List.append_nil _).symm⟩
  | cons e es ih =>
    obtain ⟨⟨u', v'⟩, hp, h⟩ := Option.bind_eq_some_iff.mp h
    obtain ⟨new, hseen, hmade⟩ := perform_seen hp
    obtain ⟨new', hseen', hmade'⟩ := ih h
    exact ⟨new ++ new', by rw [hseen', hseen, List.append_assoc],
      by rw [hmade', hmade, List.append_assoc]⟩

theorem replayed_seen {ths : List (Thread OutcomeSystem)} {v w : SessionView}
    (h : Replayed sessions ths v w) : w.seen = v.seen ++ ths.flatMap madeCalls := by
  induction h with
  | nil => simp
  | cons hr _ ih =>
    obtain ⟨new, hseen, hmade⟩ := replay_seen hr
    rw [ih, hseen, List.flatMap_cons, hmade, List.append_assoc]
    rfl

theorem owedCalls_of_tookPart {th : Thread OutcomeSystem} (h : ¬ tookPart th) : owedCalls th = [] := by
  have hnone : admitted th = none := by
    unfold tookPart at h
    unfold admitted
    split <;> simp_all
  simp [owedCalls, hnone]

theorem madeCalls_of_tookPart (h : Reachable outcomeRuntime outcomeMachine c) {th : Thread OutcomeSystem}
    (hth : th ∈ c.threads) (hnot : ¬ tookPart th) : madeCalls th = [] := by
  obtain ⟨ending, hblock, -⟩ := h.block hth
  rw [owedCalls_of_tookPart hnot] at hblock
  generalize madeCalls th = es at hblock
  cases hblock
  rfl

theorem flatMap_filter_of_eq_nil {α β : Type} {p : α → Bool} {f : α → List β} {l : List α}
    (h : ∀ a ∈ l, ¬ p a → f a = []) : (l.filter p).flatMap f = l.flatMap f := by
  induction l with
  | nil => rfl
  | cons a l ih =>
    have hl := ih fun b hb => h b (List.mem_cons_of_mem a hb)
    by_cases hp : p a
    · rw [List.filter_cons_of_pos hp, List.flatMap_cons, List.flatMap_cons, hl]
    · rw [List.filter_cons_of_neg hp, List.flatMap_cons, h a List.mem_cons_self hp, hl, List.nil_append]

theorem Reachable.seen_eq (h : Reachable outcomeRuntime outcomeMachine c) (x : Bytes) :
    c.shared.2.filter (·.session = x) = (c.threads.filter (·.op.session = x)).flatMap madeCalls := by
  have hseen := replayed_seen (h.serial.replayed x)
  rw [← flatMap_filter_of_eq_nil (p := tookPart) fun th hth => madeCalls_of_tookPart h (List.mem_filter.mp hth).1]
  rw [List.filter_filter]
  exact hseen

def Succeeds (service : SessionService) (now : Timestamp) : ServiceCmd → Prop
  | .commit op id => ∃ a service', service.exec now (.commit op id) = some (.ok a, service')
  | .fail id message => ∃ service', service.exec now (.fail id message) = some (.ok (), service')
  | .create .. | .admission .. => False

/-- The section a call under way ends with finds the session it was admitted on. -/
theorem Reachable.closing_succeeds (h : Reachable outcomeRuntime outcomeMachine c)
    {th : Thread OutcomeSystem} (hth : th ∈ c.threads) {cmd : ServiceCmd} {k}
    (hp : th.prog = .step (.inl cmd) k) (now : Timestamp) :
    (∃ s, c.shared.1.repository.get th.op.session = some s) ∧ Succeeds c.shared.1 now cmd := by
  obtain ⟨g, hown⟩ := Reachable.owned h
  obtain ⟨hne, hwp⟩ := hown.active th hth (Thread.active_iff.mpr ⟨_, k, hp⟩)
  rw [hp] at hwp
  have hpre : servicePre th.op.session cmd (c.shared.1.slot th.op.session) th.trace := hwp.1
  cases cmd with
  | create => exact absurd hpre.2 hne
  | admission => exact absurd hpre.2 hne
  | fail id message =>
    obtain ⟨hid, s, hv⟩ := hpre
    obtain ⟨service', hf, -⟩ := recordRuntimeFailure_of_stored message now hv.record
    rw [← hid] at hf
    exact ⟨⟨s, hv.record⟩, service', congrArg (fun r => some (c.shared.1.settle r)) hf⟩
  | commit op id =>
    obtain ⟨hid, s, hv⟩ := hpre
    obtain ⟨service', hc, -⟩ := commit_of_stored op now hv.record
    rw [← hid] at hc
    exact ⟨⟨s, hv.record⟩, _, service', congrArg (fun r => some (c.shared.1.settle r)) hc⟩

theorem Reachable.admitted_result (h : Reachable outcomeRuntime outcomeMachine c)
    {th : Thread OutcomeSystem} (hth : th ∈ c.threads) {op : Operation} {id : Bytes}
    (hop : th.op = .lifecycle op id) (hpart : tookPart th) {r : Except AppError (Option Session)}
    (hr : th.result = some r) : (∃ a, r = .ok a) ∨ ∃ message, r = .error (.runtime message) := by
  obtain ⟨g, hown⟩ := Reachable.owned h
  have hret : th.prog = .ret r := Thread.prog_of_result hr
  have hreport : CallReport (.free outcomeRuntime outcomeMachine) th.op r th.trace :=
    hown.closed th hth r hret
  rw [hop] at hreport
  generalize htrace : th.trace = t at hreport
  cases hreport with
  | done => exact .inl ⟨_, rfl⟩
  | failed => exact .inr ⟨_, rfl⟩
  | refused => simp [tookPart, htrace] at hpart

/-- At most one call works on a session at a time, and the runtime sees whole blocks. -/
structure Exclusive (c : Config OutcomeSystem) : Prop where
  one : ∀ x i j, UnderWay c x i → UnderWay c x j → i = j
  inTurn : ∀ (i j : Nat) (th th' : Thread OutcomeSystem), c.threads[i]? = some th → c.threads[j]? = some th' → i < j → tookPart th' →
    th.op.session = th'.op.session → th.active = false
  seen : ∀ x, c.shared.2.filter (·.session = x) =
    (c.threads.filter (·.op.session = x)).flatMap madeCalls
  block : ∀ th ∈ c.threads, ∃ ending, Block th.op.session (owedCalls th) (madeCalls th) ending ∧
    (th.active = false → ending ≠ .pending)

structure Settles (c : Config OutcomeSystem) : Prop where
  stored : ∀ th ∈ c.threads, ∀ cmd k, th.prog = .step (.inl cmd) k → ∀ now,
    (∃ s, c.shared.1.repository.get th.op.session = some s) ∧ Succeeds c.shared.1 now cmd
  result : ∀ th ∈ c.threads, ∀ op id, th.op = .lifecycle op id → tookPart th → ∀ r, th.result = some r →
    (∃ a, r = .ok a) ∨ ∃ message, r = .error (.runtime message)

/-- The calls in an order that keeps those on each session as they were. -/
def InSessionOrder (ths order : List (Thread OutcomeSystem)) : Prop :=
  order.Perm ths ∧ ∀ x, order.filter (·.op.session = x) = ths.filter (·.op.session = x)

theorem envs_ne_nil (h : Reachable outcomeRuntime outcomeMachine c) {th : Thread OutcomeSystem}
    (hth : th ∈ c.threads) (hpart : tookPart th) : th.envs ≠ [] := by
  have hlen : th.envs.length = th.trace.length := by
    refine Reach.each (P := fun th => th.envs.length = th.trace.length) h (fun _ => rfl) ?_ th hth
    intro th th' e σ σ' hlen hadv
    obtain ⟨cmd, k, r, -, -, rfl⟩ := Thread.advance_cases hadv
    simp [hlen]
  intro henvs
  have htrace : th.trace = [] := List.length_eq_zero_iff.mp (by rw [← hlen, henvs]; rfl)
  simp [tookPart, htrace] at hpart

theorem serial_run (h : Reachable outcomeRuntime outcomeMachine c) {order : List (Thread OutcomeSystem)}
    (ho : InSessionOrder (c.threads.filter tookPart) order) :
    ∃ c', Config.run ⟨(empty, []), []⟩ (serialLabels 0 order) = some c' ∧ c'.threads = order ∧
      c'.shared.1 = c.shared.1 ∧
      ∀ x, c'.shared.2.filter (·.session = x) = c.shared.2.filter (·.session = x) := by
  have hne : ∀ th ∈ order, th.envs ≠ [] := by
    intro th hth
    have hmem := List.mem_filter.mp (ho.1.mem_iff.mp hth)
    exact envs_ne_nil h hmem.1 hmem.2
  have hreplayed : ∀ x, Replayed sessions (order.filter fun th => decide (th.op.session = x))
      (sessionView x (empty, [])) (sessionView x c.shared) := by
    intro x
    rw [ho.2 x, List.filter_filter]
    exact (List.filter_congr fun th _ => Bool.and_comm ..) ▸ h.serial.replayed x
  obtain ⟨c', hrun, hths, hview⟩ :=
    run_serial (D := sessions) (c := (⟨(empty, []), []⟩ : Config OutcomeSystem)) hne hreplayed
  refine ⟨c', hrun, by simpa using hths, ext_slot fun x => ?_, fun x => ?_⟩
  · exact congrArg SessionView.slot (hview x)
  · exact congrArg SessionView.seen (hview x)

/-- However the calls of any number of clients interleave, they come to the same as made one
after another in any order that keeps the calls on each session in turn: that of their
admissions, or that in which they ended. -/
theorem calls_serialize (h : Reachable outcomeRuntime outcomeMachine c) :
    Exclusive c ∧ Settles c ∧ ∀ order, InSessionOrder (c.threads.filter tookPart) order →
      ∃ c', Config.run ⟨(empty, []), []⟩ (serialLabels 0 order) = some c' ∧ c'.threads = order ∧
        c'.shared.1 = c.shared.1 ∧
        ∀ x, c'.shared.2.filter (·.session = x) = c.shared.2.filter (·.session = x) :=
  ⟨⟨fun _ _ _ hi hj => hi.unique h hj, fun _ _ _ _ hi hj => h.serial.last hi hj, h.seen_eq,
      fun _ => h.block⟩,
    ⟨fun _ hth _ _ hp => h.closing_succeeds hth hp, fun _ hth _ _ hop hpart _ => h.admitted_result hth hop hpart⟩,
    fun _ => serial_run h⟩

def twoSessionsRun : List (Label OutcomeSystem) :=
  let thrown : Except Thrown Unit := .error (.exception (ascii "no device"))
  [.invoke (.create 7 (ascii "rx") (ascii "blocks: []") none) ⟨1, .ok ()⟩,
    .invoke (.create 8 (ascii "tx") (ascii "blocks: []") none) ⟨2, .ok ()⟩,
    .invoke (.lifecycle .start (generateSessionId 7)) ⟨3, .ok ()⟩,
    .invoke (.lifecycle .start (generateSessionId 8)) ⟨4, .ok ()⟩,
    .run 2 ⟨5, .ok ()⟩, .run 3 ⟨6, .ok ()⟩, .run 3 ⟨7, .ok ()⟩, .run 2 ⟨8, thrown⟩,
    .run 3 ⟨9, .ok ()⟩, .run 2 ⟨10, .ok ()⟩,
    .invoke (.lifecycle .restart (generateSessionId 8)) ⟨11, .ok ()⟩, .run 4 ⟨12, .ok ()⟩]

def twoSessions : Config OutcomeSystem :=
  (Config.run ⟨(empty, []), []⟩ twoSessionsRun).get (by decide)

theorem reachable_twoSessions : Reachable outcomeRuntime outcomeMachine twoSessions :=
  .of_run .init (Option.some_get _).symm

theorem calls_serialize_twoSessions :
    twoSessions.shared.2.map (·.call) = [.prepare, .prepare, .start, .start, .stop] ∧
      Exclusive twoSessions ∧ Settles twoSessions ∧
      ∃ c', Config.run ⟨(empty, []), []⟩ (serialLabels 0 (twoSessions.threads.filter tookPart)) = some c' ∧
        c'.shared.1 = twoSessions.shared.1 := by
  obtain ⟨hexclusive, hsettles, hserial⟩ := calls_serialize reachable_twoSessions
  obtain ⟨c', hrun, -, hservice, -⟩ := hserial _ ⟨.refl _, fun _ => rfl⟩
  exact ⟨by decide, hexclusive, hsettles, c', hrun, hservice⟩

end Gr4ControlPlane.SessionService
