import Gr4ControlPlane.App.SessionSerialization

open Gr4ControlPlane.Interleaving

namespace Gr4ControlPlane

variable {x : Bytes}

namespace Block

variable {cs : List RuntimeCall} {es : List RuntimeEvent} {k : Ending}

theorem last_of_thrown (h : Block x cs es k) {ev : RuntimeEvent} (hev : ev ∈ es) {e : Thrown}
    (he : ev.outcome = .error e) : ∃ before, es = before ++ [ev] ∧ ∀ earlier ∈ before, earlier.outcome = .ok () := by
  induction h with
  | completed => cases hev
  | pending => cases hev
  | thrown =>
    obtain rfl := List.mem_singleton.mp hev
    exact ⟨[], rfl, nofun⟩
  | @ok call _ _ _ _ ih =>
    rcases List.mem_cons.mp hev with rfl | hev
    · cases he
    · obtain ⟨before, rfl, hok⟩ := ih hev
      exact ⟨⟨call, x, .ok ()⟩ :: before, rfl, List.forall_mem_cons.mpr ⟨rfl, hok⟩⟩

theorem thrown_of_mem (h : Block x cs es k) {ev : RuntimeEvent} (hev : ev ∈ es) {e : Thrown}
    (he : ev.outcome = .error e) : k = .thrown := by
  induction h with
  | completed => cases hev
  | pending => cases hev
  | thrown => rfl
  | ok _ ih =>
    rcases List.mem_cons.mp hev with rfl | hev
    · cases he
    · exact ih hev

theorem events_of_completed (h : Block x cs es .completed) : es = cs.map fun call => ⟨call, x, .ok ()⟩ := by
  generalize hk : Ending.completed = k at h
  induction h with
  | completed => rfl
  | pending => cases hk
  | thrown => cases hk
  | ok _ ih => rw [List.map_cons, ← ih hk]

end Block

def Relays {α : Type} (a : Action outcomeInterface Thrown α) : Prop :=
  ∀ t thrown, a.run.Follows t (.ret (.error thrown)) → ∃ cmd before, t = ⟨cmd, .error thrown⟩ :: before

section

variable {α β : Type} {a : Action outcomeInterface Thrown α}

theorem Relays.pure (v : α) : Relays (Pure.pure v) := by
  intro t thrown h
  cases h.of_ret.2

theorem Relays.bind {f : α → Action outcomeInterface Thrown β} (ha : Relays a) (hf : ∀ v, Relays (f v)) :
    Relays (a >>= f) := by
  intro t thrown h
  rw [ExceptT.run_bind] at h
  rcases h.of_bind with ⟨q, hq, heq⟩ | ⟨r, t₁, t₂, h₁, h₂, rfl⟩
  · match q, hq, heq with
    | .ret (.ok v), _, heq =>
      obtain ⟨cmd, before, hnil⟩ := hf v [] thrown (heq ▸ .nil)
      cases hnil
    | .ret (.error e), hq, heq =>
      cases heq
      exact ha t thrown hq
  · cases r with
    | ok v =>
      obtain ⟨cmd, before, rfl⟩ := hf v t₂ thrown h₂
      exact ⟨cmd, before ++ t₁, rfl⟩
    | error e =>
      obtain ⟨rfl, heq⟩ := h₂.of_ret
      cases heq
      exact ha t₁ thrown h₁

theorem relays_call (call : RuntimeCall) (session : Session) : Relays (outcomeRuntime.call call session) := by
  intro t thrown h
  rw [outcomeRuntime_call] at h
  rcases h.of_step with ⟨-, heq⟩ | ⟨r, t', h', rfl⟩
  · cases heq
  · obtain ⟨rfl, heq⟩ := h'.of_ret
    cases heq
    exact ⟨_, [], rfl⟩

theorem relays_stopIfRunning (session : Session) : Relays (SessionService.stopIfRunning outcomeRuntime session) := by
  unfold SessionService.stopIfRunning
  split
  · exact (relays_call .stop session).bind fun _ => .pure _
  · exact .pure session

theorem relays_runtimeCalls (op : Operation) (session : Session) :
    Relays (SessionService.runtimeCalls outcomeRuntime op session) := by
  have hbuild : ∀ s : Session, Relays (SessionService.startCalls outcomeRuntime s) :=
    fun s => (relays_call .prepare s).bind fun _ => relays_call .start s
  cases op with
  | start => exact hbuild session
  | stop => exact relays_call .stop session
  | restart => exact (relays_stopIfRunning session).bind fun s => (relays_call .destroy s).bind fun _ => hbuild s
  | remove => exact (relays_stopIfRunning session).bind fun s => relays_call .destroy s

end

namespace SessionService

theorem closing_follows {J : Interface} {op : Operation} {id : Bytes} {session : Session} {r : Except Thrown Unit}
    {t : Trace (serviceInterface.sum J)} {q} (h : (closing op id session r).Follows t q) :
    q = closing op id session r ∨ q.finished := by
  rcases r with thrown | ⟨⟩
  · rcases h.of_step with ⟨-, hq⟩ | ⟨r, t', h, -⟩
    · exact .inl hq
    · rcases r with err | ⟨⟩ <;> exact .inr (by rw [h.of_ret.2]; rfl)
  · rcases h.of_step with ⟨-, hq⟩ | ⟨r, t', h, -⟩
    · exact .inl hq
    · exact .inr (by rw [h.of_ret.2]; rfl)

inductive Stage (op : Operation) (id : Bytes) (s : Session) (th : Thread OutcomeSystem) : Prop
  | calling {cmd k} : (runtimeCalls outcomeRuntime op s).run.Follows (Trace.right th.trace) (.step cmd k) →
      th.prog = .step (.inr cmd) (fun r => (k r).inr >>= closing op id s) → Stage op id s th
  | past {r t t'} : (runtimeCalls outcomeRuntime op s).run.Follows (Trace.right th.trace) (.ret r) →
      th.trace = t ++ t' → (closing op id s r).Follows t th.prog → Stage op id s th

variable {c c' : Config OutcomeSystem} {th : Thread OutcomeSystem} {op : Operation} {id : Bytes} {s : Session}

theorem Reachable.proceeded (h : Reachable outcomeRuntime outcomeMachine c) (hth : th ∈ c.threads)
    (hop : th.op = .lifecycle op id) (ha : admitted th = some s) :
    ∃ t, th.trace = t ++ [⟨.inl (.admission op id), .ok (.proceed s)⟩] ∧
      (afterAdmission outcomeRuntime op id (.ok (.proceed s))).Follows t th.prog := by
  have hf := h.follows th hth
  rw [hop, body_lifecycle] at hf
  rcases hf.of_step with ⟨ht, -⟩ | ⟨r, t, hf, ht⟩
  · simp [admitted, ht] at ha
  · rcases r with err | (session | session)
    · simp [admitted, ht] at ha
    · obtain rfl : session = s := by simpa [admitted, ht] using ha
      exact ⟨t, ht, hf⟩
    · simp [admitted, ht] at ha

theorem Reachable.admitted_id (h : Reachable outcomeRuntime outcomeMachine c) (hth : th ∈ c.threads)
    (hop : th.op = .lifecycle op id) (ha : admitted th = some s) : s.id = id := by
  obtain ⟨t, ht, -⟩ := h.proceeded hth hop ha
  exact Reach.answers h exec_systemAnswers th hth ⟨.inl (.admission op id), .ok (.proceed s)⟩ (by simp [ht])

theorem Reachable.stage (h : Reachable outcomeRuntime outcomeMachine c) (hth : th ∈ c.threads)
    (hop : th.op = .lifecycle op id) (ha : admitted th = some s) : Stage op id s th := by
  obtain ⟨t, ht, hf⟩ := h.proceeded hth hop ha
  have hright : Trace.right th.trace = Trace.right t := by
    rw [ht, right_append]
    exact List.append_nil _
  rw [afterAdmission_proceed] at hf
  rcases hf.of_bind with ⟨q, hq, hprog⟩ | ⟨r, t₁, t₂, h₁, h₂, rfl⟩
  · obtain ⟨q', hq', rfl⟩ := hq.of_inr
    rw [← hright] at hq'
    cases q' with
    | ret r =>
      have hclosing : th.prog = closing op id s r := hprog
      exact .past hq' (List.nil_append _).symm (hclosing ▸ .nil)
    | step cmd k => exact .calling hq' hprog
  · obtain ⟨q', hq', heq⟩ := h₁.of_inr
    cases q' with
    | step cmd k => cases heq
    | ret r' =>
      cases heq
      rw [List.append_assoc] at ht
      refine .past ?_ ht h₂
      rwa [hright, right_append, closing_right h₂, List.nil_append]

theorem Reachable.admitted_of_made (h : Reachable outcomeRuntime outcomeMachine c) (hth : th ∈ c.threads)
    {ev : RuntimeEvent} (hev : ev ∈ madeCalls th) :
    ∃ op id s, th.op = .lifecycle op id ∧ admitted th = some s := by
  obtain ⟨ending, hblock, -⟩ := h.block hth
  unfold owedCalls at hblock
  split at hblock
  · next op id s hop ha => exact ⟨op, id, s, hop, ha⟩
  · generalize madeCalls th = es at hblock hev
    cases hblock
    cases hev

theorem Stage.of_thrown (hst : Stage op id s th) (hid : s.id = id) {ev : RuntimeEvent} (hev : ev ∈ madeCalls th)
    {thrown : Thrown} (hthrown : ev.outcome = .error thrown) :
    ∃ t t', th.trace = t ++ t' ∧ (closing op id s (.error thrown)).Follows t th.prog := by
  cases hst with
  | calling hf _ => cases (makes_runtimeCalls op hid _ _ hf).thrown_of_mem hev hthrown
  | @past r t t' hf ht hclosing =>
    have hblock := makes_runtimeCalls op hid _ _ hf
    cases r with
    | ok u => cases hblock.thrown_of_mem hev hthrown
    | error e =>
      obtain ⟨cmd, before, hright⟩ := relays_runtimeCalls op s _ _ hf
      obtain ⟨before', hmade, -⟩ := hblock.last_of_thrown hev hthrown
      have hlast : runtimeEvents (Trace.right th.trace) =
          runtimeEvents before ++ [⟨cmd.1, cmd.2.id, .error e⟩] := by
        rw [hright]
        exact runtimeEvents_append before [⟨cmd, .error e⟩]
      have hsplit : before' ++ [ev] = runtimeEvents before ++ [⟨cmd.1, cmd.2.id, .error e⟩] := hmade.symm.trans hlast
      obtain ⟨-, rfl⟩ := List.append_singleton_inj.mp hsplit
      cases hthrown
      exact ⟨t, t', ht, hclosing⟩

theorem tookPart_of_admitted (ha : admitted th = some s) : tookPart th := by
  unfold admitted at ha
  unfold tookPart
  split at ha <;> simp_all

def systemClosingAnswers : (cmd : (serviceInterface.sum outcomeInterface).Cmd) →
    (serviceInterface.sum outcomeInterface).Ans cmd → Prop
  | .inl cmd, r => closingAnswers cmd r
  | .inr _, _ => True

theorem Reachable.closing_answers (h : Reachable outcomeRuntime outcomeMachine c) (hth : th ∈ c.threads)
    {cmd : ServiceCmd} {r : serviceInterface.Ans cmd}
    (hev : (⟨.inl cmd, r⟩ : Event (serviceInterface.sum outcomeInterface)) ∈ th.trace) : closingAnswers cmd r := by
  refine Reach.answers (A := systemClosingAnswers) h ?_ th hth _ hev
  intro cmd e σ r σ' hexec
  cases cmd with
  | inl cmd =>
    obtain ⟨service', hc, -⟩ := exec_left hexec
    exact exec_closingAnswers hc
  | inr cmd => trivial

/-- A call that is over and has seen a runtime call throw has thrown its message. -/
theorem Reachable.failed_result (h : Reachable outcomeRuntime outcomeMachine c) (hth : th ∈ c.threads)
    (hop : th.op = .lifecycle op id) (ha : admitted th = some s) {ev : RuntimeEvent} (hev : ev ∈ madeCalls th)
    {thrown : Thrown} (hthrown : ev.outcome = .error thrown) (hover : th.active = false) :
    th.result = some (.error (.runtime (runtimeMessage op.action id thrown))) := by
  obtain ⟨a, hret⟩ := Thread.inactive_iff.mp hover
  have hresult : th.result = some a := by rw [Thread.result, hret]
  obtain ⟨t, t', ht, hf⟩ := (h.stage hth hop ha).of_thrown (h.admitted_id hth hop ha) hev hthrown
  rw [hret] at hf
  rcases hf.of_step with ⟨-, hprog⟩ | ⟨r, t₁, hf', rfl⟩
  · cases hprog
  · have hclosing : closingAnswers (.fail s.id (runtimeMessage op.action id thrown)) r :=
      h.closing_answers hth (by simp [ht])
    rcases r with err | ⟨⟩
    · obtain ⟨-, heq⟩ := hf'.of_ret
      cases heq
      rcases h.admitted_result hth hop (tookPart_of_admitted ha) hresult with ⟨a, herr⟩ | ⟨message, herr⟩
      · cases herr
      · cases herr
        cases hclosing _ rfl
    · obtain ⟨-, heq⟩ := hf'.of_ret
      cases heq
      exact hresult

theorem slot_of_sessionView {y : Bytes} {σ σ' : SessionService × List RuntimeEvent}
    (h : sessionView y σ' = sessionView y σ) : σ'.1.slot y = σ.1.slot y :=
  congrArg SessionView.slot h

theorem Reachable.slot_of_invoke (h : Reachable outcomeRuntime outcomeMachine c) {request : Request}
    {e : Env (Except Thrown Unit)} (hs : c.step (.invoke request e) = some c')
    (hx : request.session ≠ x ∨ ∃ i, UnderWay c x i) : c'.shared.1.slot x = c.shared.1.slot x := by
  obtain ⟨new, hadv, -⟩ := Config.step_invoke hs
  by_cases hsession : request.session = x
  · subst hsession
    obtain ⟨r, service', hc', htrace, -, hpost, -⟩ := opening_post hadv
    by_cases hpart : tookPart new
    · exact absurd (hx.resolve_left fun hne => hne rfl) ((invoke_tookPart h hadv).1 hpart)
    · exact slot_of_sessionView ((invoke_tookPart h hadv).2 hpart).2
  · exact slot_of_sessionView (Thread.advance_frame (Thread.start_addressed (D := sessions) request) hadv (Ne.symm hsession))

theorem Reachable.slot_of_run (h : Reachable outcomeRuntime outcomeMachine c) {i : Nat}
    (hi : c.threads[i]? = some th) {e : Env (Except Thrown Unit)} (hs : c.step (.run i e) = some c')
    (hx : th.op.session ≠ x ∨ ∃ cmd k, th.prog = .step (.inr cmd) k) : c'.shared.1.slot x = c.shared.1.slot x := by
  obtain ⟨u, u', hu, hadv, -⟩ := Config.step_run hs
  obtain rfl : th = u := Option.some.inj (hi.symm.trans hu)
  rcases hx with hne | ⟨cmd, k, hp⟩
  · exact slot_of_sessionView
      (Thread.advance_frame (h.serial.addressed th (List.mem_of_getElem? hi)) hadv (Ne.symm hne))
  · obtain ⟨cmd', k', r, hp', hexec, -⟩ := Thread.advance_cases hadv
    cases hp.symm.trans hp'
    obtain ⟨runtime', -, hc'⟩ := exec_right hexec
    rw [hc']

theorem Stage.of_section (hst : Stage op id s th) {cmd : ServiceCmd} {k} (hp : th.prog = .step (.inl cmd) k) :
    ∃ r, (runtimeCalls outcomeRuntime op s).run.Follows (Trace.right th.trace) (.ret r) ∧
      closing op id s r = .step (.inl cmd) k := by
  cases hst with
  | calling _ hp' => cases hp'.symm.trans hp
  | @past r t t' hcalls _ hf =>
    refine ⟨r, hcalls, ?_⟩
    rw [hp] at hf
    rcases closing_follows hf with heq | hfin
    · exact heq.symm
    · cases hfin

theorem Stage.ends (hst : Stage op id s th) {cmd : ServiceCmd} {k} (hp : th.prog = .step (.inl cmd) k)
    (r : serviceInterface.Ans cmd) : (k r).finished := by
  obtain ⟨outcome, -, heq⟩ := hst.of_section hp
  rcases outcome with thrown | ⟨⟩
  · cases heq
    rcases r with err | ⟨⟩ <;> rfl
  · cases heq
    rfl

theorem Reachable.admitted_stored (h : Reachable outcomeRuntime outcomeMachine c) {i : Nat}
    (hi : c.threads[i]? = some th) (hact : th.active) (hop : th.op = .lifecycle op id) (ha : admitted th = some s) :
    c.shared.1.repository.get id = some s := by
  induction h generalizing i th with
  | init => simp at hi
  | @step c l c' hc hs _ ih =>
    replace hc : Reachable outcomeRuntime outcomeMachine c := hc
    have hid : th.op.session = id := by rw [hop]; rfl
    -- only the call itself could change its session, and it does so with its last section
    have hkept : c'.shared.1.slot id = c.shared.1.slot id → c.threads[i]? = some th →
        c'.shared.1.repository.get id = some s := fun hslot hi => (Slot.ext_iff.mp hslot).1.trans (ih hi hact hop ha)
    cases l with
    | invoke request e =>
      obtain ⟨new, hadv, hths⟩ := Config.step_invoke hs
      rcases Config.lookup_invoke (hths ▸ hi) with hi | ⟨-, rfl⟩
      · exact hkept (hc.slot_of_invoke hs (.inr ⟨i, th, hi, hact, op, hop⟩)) hi
      · obtain ⟨r, service', hc', htrace, -, hpost, -⟩ := opening_post hadv
        obtain rfl : request = .lifecycle op id := by
          obtain ⟨_, _, _, -, -, rfl⟩ := Thread.advance_cases hadv
          exact hop
        rw [admitted, htrace] at ha
        rcases r with err | (session | session) <;> cases ha
        have hrec := hpost.keeps_record.trans hpost.record_of_proceed
        rw [hc']
        exact hrec
    | run j e =>
      obtain ⟨u, u', hj, hadv, hths⟩ := Config.step_run hs
      have hlt : j < c.threads.length := (List.getElem?_eq_some_iff.mp hj).1
      rcases Config.lookup_run hlt (hths ▸ hi) with ⟨rfl, rfl⟩ | ⟨hne, hi⟩
      · obtain ⟨cmd, k, r, hp, -, rfl⟩ := Thread.advance_cases hadv
        have hmem : u ∈ c.threads := List.mem_of_getElem? hj
        have hua := Thread.advance_active hadv
        have hadmitted : admitted u = some s := by
          obtain ⟨g, hown⟩ := hc.owned
          rw [← ha, admitted, admitted, List.getLast?_cons_of_ne_nil (hown.active u hmem hua).1]
        cases cmd with
        | inl cmd =>
          have hfin := (hc.stage hmem hop hadmitted).ends hp r
          simp [Thread.active, hfin] at hact
        | inr cmd =>
          exact (Slot.ext_iff.mp (hc.slot_of_run hj hs (.inr ⟨cmd, k, hp⟩))).1.trans (ih hj hua hop hadmitted)
      · refine hkept (hc.slot_of_run hj hs (.inl ?_)) hi
        intro hsession
        obtain ⟨op', hop'⟩ := lifecycle_of_active hc (List.mem_of_getElem? hj) (Thread.advance_active hadv)
        have hj' : UnderWay c id j := ⟨u, hj, Thread.advance_active hadv, op', hop'.trans (by rw [hsession])⟩
        exact hne (UnderWay.unique hc hj' ⟨th, hi, hact, op, hop⟩).symm

/-- No call on session `x` begins. -/
def QuietOn (x : Bytes) (_ : Config OutcomeSystem) (l : Label OutcomeSystem) (_ : Config OutcomeSystem) : Prop :=
  ∀ request e, l = .invoke request e → request.session ≠ x

theorem Reachable.quiet_step (h : Reachable outcomeRuntime outcomeMachine c) {l : Label OutcomeSystem}
    (hs : c.step l = some c') (hquiet : QuietOn x c l c') (hidle : ¬ ∃ i, UnderWay c x i) :
    c'.shared.1.slot x = c.shared.1.slot x ∧ ¬ ∃ i, UnderWay c' x i := by
  cases l with
  | invoke request e =>
    have hne : request.session ≠ x := hquiet request e rfl
    refine ⟨h.slot_of_invoke hs (.inl hne), ?_⟩
    rintro ⟨i, th, hi, hact, op, hop⟩
    obtain ⟨new, hadv, hths⟩ := Config.step_invoke hs
    rcases Config.lookup_invoke (hths ▸ hi) with hi | ⟨-, rfl⟩
    · exact hidle ⟨i, th, hi, hact, op, hop⟩
    · obtain ⟨_, _, _, -, -, rfl⟩ := Thread.advance_cases hadv
      exact hne (by rw [show request = .lifecycle op x from hop]; rfl)
  | run j e =>
    obtain ⟨u, u', hj, hadv, hths⟩ := Config.step_run hs
    have hlt : j < c.threads.length := (List.getElem?_eq_some_iff.mp hj).1
    have hne : u.op.session ≠ x := by
      intro hsession
      obtain ⟨op, hop⟩ := lifecycle_of_active h (List.mem_of_getElem? hj) (Thread.advance_active hadv)
      exact hidle ⟨j, u, hj, Thread.advance_active hadv, op, hop.trans (by rw [hsession])⟩
    refine ⟨h.slot_of_run hj hs (.inl hne), ?_⟩
    rintro ⟨i, th, hi, hact, op, hop⟩
    rcases Config.lookup_run hlt (hths ▸ hi) with ⟨rfl, rfl⟩ | ⟨-, hi⟩
    · obtain ⟨_, _, _, -, -, rfl⟩ := Thread.advance_cases hadv
      exact hne (by rw [show u.op = .lifecycle op x from hop]; rfl)
    · exact hidle ⟨i, th, hi, hact, op, hop⟩

theorem Reachable.quiet_run (h : Reachable outcomeRuntime outcomeMachine c) (hidle : ¬ ∃ i, UnderWay c x i)
    {d : Config OutcomeSystem} (hd : Reach (QuietOn x) c d) :
    Reachable outcomeRuntime outcomeMachine d ∧ d.shared.1.slot x = c.shared.1.slot x ∧ ¬ ∃ i, UnderWay d x i := by
  induction hd with
  | init => exact ⟨h, rfl, hidle⟩
  | step _ hs hquiet ih =>
    obtain ⟨hreach, hslot, hidle'⟩ := ih
    obtain ⟨hslot', hidle''⟩ := hreach.quiet_step hs hquiet hidle'
    exact ⟨hreach.step hs trivial, hslot'.trans hslot, hidle''⟩

theorem exec_of_section {cmd : ServiceCmd} {r : serviceInterface.Ans cmd} {service' : SessionService}
    {e : Env (Except Thrown Unit)} {σ : SessionService × List RuntimeEvent}
    (h : σ.1.exec e.now cmd = some (r, service')) :
    OutcomeSystem.exec (.inl cmd) e σ = some (r, (service', σ.2)) := congrArg (Option.map _) h

def Admissible (c : Config OutcomeSystem) (op : Operation) (x : Bytes) : Prop :=
  ∀ e, ∃ c' th, c.step (.invoke (.lifecycle op x) e) = some c' ∧ c'.threads = c.threads ++ [th] ∧
    (admitted th).isSome

theorem admissible_of_error {s : Session} (hv : (c.shared.1.slot x).AtRest x)
    (hrec : (c.shared.1.slot x).record = some s) (herr : s.state = .error) (op : Operation) : Admissible c op x := by
  intro e
  have hadmission := admission_of_error op hv hrec herr
  have hsection : c.shared.1.exec e.now (.admission op x) =
      some (.ok (.proceed s), c.shared.1.setPhase x op.busyPhase) :=
    congrArg (fun outcome => some (c.shared.1.settle outcome)) hadmission
  have hexec := exec_of_section hsection
  have hprog : (Thread.start (.lifecycle op x) : Thread OutcomeSystem).prog =
      .step (.inl (.admission op x)) (afterAdmission outcomeRuntime op x) := body_lifecycle op x
  have hadv := Thread.advance_of_exec hprog hexec
  exact ⟨_, _, Config.step_of_invoke hadv, rfl, rfl⟩

theorem Reachable.admissible (h : Reachable outcomeRuntime outcomeMachine c) {s : Session}
    (hslot : c.shared.1.slot x = ⟨some s, some .failed⟩) (herr : s.state = .error) {d : Config OutcomeSystem}
    (hd : Reach (QuietOn x) c d) (op : Operation) : Admissible d op x := by
  have hphase : c.shared.1.phases.lookup x = some .failed := (Slot.ext_iff.mp hslot).2
  have hfree : ¬ ∃ i, UnderWay c x i := by
    rw [← h.busy_iff x, hphase]
    simp
  obtain ⟨hreach, hkept, hfree'⟩ := h.quiet_run hfree hd
  exact admissible_of_error (hreach.atRest hfree') (Slot.ext_iff.mp (hkept.trans hslot)).1 herr op

/-- What the call `i` leaves behind that ends with `thrown` on the session it was admitted on as `s`. -/
structure LeftFailed (c c' : Config OutcomeSystem) (i : Nat) (op : Operation) (s : Session) (thrown : Thrown)
    (now : Timestamp) : Prop where
  result : c'.threads[i]?.bind Thread.result = some (.error (.runtime (runtimeMessage op.action s.id thrown)))
  record : c'.shared.1.repository.get s.id = some { s with
    state := .error, lastError := some (runtimeMessage op.action s.id thrown), updatedAt := now }
  phase : c'.shared.1.phases.lookup s.id = some .failed
  others : ∀ y, y ≠ s.id → c'.shared.1.repository.get y = c.shared.1.repository.get y ∧
    c'.shared.1.phases.lookup y = c.shared.1.phases.lookup y
  admissible : ∀ d, Reach (QuietOn s.id) c' d → ∀ next, Admissible d next s.id

theorem Reachable.fail_step (h : Reachable outcomeRuntime outcomeMachine c) {i : Nat}
    (hi : c.threads[i]? = some th) (hact : th.active) (hop : th.op = .lifecycle op id) (ha : admitted th = some s)
    {ev : RuntimeEvent} (hev : ev ∈ madeCalls th) {thrown : Thrown} (hthrown : ev.outcome = .error thrown)
    (e : Env (Except Thrown Unit)) : ∃ c', c.step (.run i e) = some c' ∧ LeftFailed c c' i op s thrown e.now := by
  have hmem : th ∈ c.threads := List.mem_of_getElem? hi
  obtain rfl : s.id = id := h.admitted_id hmem hop ha
  have hrec : (c.shared.1.slot s.id).record = some s := h.admitted_stored hi hact hop ha
  obtain ⟨t, t', -, hf⟩ := (h.stage hmem hop ha).of_thrown rfl hev hthrown
  have hprog : th.prog = closing op s.id s (.error thrown) := by
    rcases closing_follows hf with hprog | hfin
    · exact hprog
    · simp [Thread.active, hfin] at hact
  obtain ⟨service', hfail, hslot, hsame⟩ :=
    recordRuntimeFailure_of_stored (runtimeMessage op.action s.id thrown) e.now hrec
  have hsection : c.shared.1.exec e.now (.fail s.id (runtimeMessage op.action s.id thrown)) = some (.ok (), service') :=
    congrArg (fun outcome => some (c.shared.1.settle outcome)) hfail
  have hexec := exec_of_section hsection
  have hs := Config.step_of_run hi (Thread.advance_of_exec hprog hexec)
  refine ⟨_, hs, ?_, (Slot.ext_iff.mp hslot).1, (Slot.ext_iff.mp hslot).2, ?_, ?_⟩
  · have hlt : i < c.threads.length := (List.getElem?_eq_some_iff.mp hi).1
    simp only [List.getElem?_set_self hlt, Option.bind_some]
    rfl
  · exact fun y hy => Slot.ext_iff.mp (hsame y hy)
  · exact fun d hd => Reachable.admissible (h.step hs trivial) hslot rfl hd

theorem Reachable.admitted_of_active (h : Reachable outcomeRuntime outcomeMachine c) (hth : th ∈ c.threads)
    (hact : th.active) : ∃ op s, th.op = .lifecycle op th.op.session ∧ admitted th = some s := by
  obtain ⟨op, hop⟩ := lifecycle_of_active h hth hact
  obtain ⟨g, hown⟩ := h.owned
  obtain ⟨cmd, k, hp⟩ := Thread.active_iff.mp hact
  have hf := h.follows th hth
  rw [hop, body_lifecycle] at hf
  rcases hf.of_step with ⟨ht, -⟩ | ⟨r, t, hf, ht⟩
  · exact absurd ht (hown.active th hth hact).1
  · rw [hp] at hf
    rcases r with err | (s | s)
    · cases hf.of_ret.2
    · exact ⟨op, s, hop, by simp [admitted, ht]⟩
    · cases hf.of_ret.2

theorem Stage.of_commit (hst : Stage op id s th) (hid : s.id = id) {op' : Operation} {k}
    (hp : th.prog = .step (.inl (.commit op' x)) k) :
    op' = op ∧ madeCalls th = (op.calls s).map (⟨·, id, .ok ()⟩) := by
  obtain ⟨outcome, hcalls, heq⟩ := hst.of_section hp
  rcases outcome with thrown | ⟨⟩
  · cases heq
  · cases heq
    exact ⟨rfl, (makes_runtimeCalls op hid _ _ hcalls).events_of_completed⟩

theorem Reachable.removed (h : Reachable outcomeRuntime outcomeMachine c) {l : Label OutcomeSystem}
    (hs : c.step l = some c') (hx : Stores x c) (hx' : ¬ Stores x c') :
    ∃ i e th s, l = .run i e ∧ c.threads[i]? = some th ∧ th.op = .lifecycle .remove x ∧ admitted th = some s ∧
      madeCalls th = (Operation.calls .remove s).map (⟨·, x, .ok ()⟩) := by
  cases l with
  | invoke request e =>
    obtain ⟨new, hadv, -⟩ := Config.step_invoke hs
    obtain ⟨r, service', hc, hc', -⟩ := opening_exec hadv
    refine absurd (exec_stored hc ?_ hx) (by rwa [Stores, hc'] at hx')
    cases request <;> nofun
  | run i e =>
    obtain ⟨th, th', hi, hadv, -⟩ := Config.step_run hs
    obtain ⟨cmd, k, r, hp, hexec, -⟩ := Thread.advance_cases hadv
    cases cmd with
    | inr cmd =>
      obtain ⟨runtime', -, hc'⟩ := exec_right hexec
      exact absurd hx (by rwa [Stores, hc'] at hx')
    | inl cmd =>
      obtain ⟨service', hc, hc'⟩ := exec_left hexec
      by_cases hcmd : cmd = .commit .remove x
      · subst hcmd
        have hmem : th ∈ c.threads := List.mem_of_getElem? hi
        obtain ⟨op, s, hop, ha⟩ := h.admitted_of_active hmem (Thread.advance_active hadv)
        have hid := h.admitted_id hmem hop ha
        obtain ⟨rfl, hmade⟩ := (h.stage hmem hop ha).of_commit hid hp
        have hsession : x = th.op.session := by
          have hadd := h.serial.addressed th hmem
          rw [Thread.Addressed, hp] at hadd
          exact hadd.1
        rw [← hsession] at hop hmade
        exact ⟨i, e, th, s, rfl, hi, hop, ha, hmade⟩
      · exact absurd (exec_stored hc hcmd hx) (by rwa [Stores, hc'] at hx')

structure FailsCleanly (c : Config OutcomeSystem) : Prop where
  cutShort : ∀ th ∈ c.threads, ∀ ev ∈ madeCalls th, ∀ thrown, ev.outcome = .error thrown →
    ∃ before, madeCalls th = before ++ [ev] ∧ ∀ earlier ∈ before, earlier.outcome = .ok ()
  recorded : ∀ i th, c.threads[i]? = some th → th.active → ∀ ev ∈ madeCalls th, ∀ thrown,
    ev.outcome = .error thrown → ∃ op s, th.op = .lifecycle op s.id ∧ admitted th = some s ∧
      c.shared.1.repository.get s.id = some s ∧
      ∀ e, ∃ c', c.step (.run i e) = some c' ∧ LeftFailed c c' i op s thrown e.now
  ended : ∀ th ∈ c.threads, th.active = false → ∀ ev ∈ madeCalls th, ∀ thrown, ev.outcome = .error thrown →
    ∃ op id, th.op = .lifecycle op id ∧ th.result = some (.error (.runtime (runtimeMessage op.action id thrown)))
  removed : ∀ l c' x, c.step l = some c' → Stores x c → ¬ Stores x c' →
    ∃ i e th s, l = .run i e ∧ c.threads[i]? = some th ∧ th.op = .lifecycle .remove x ∧ admitted th = some s ∧
      madeCalls th = (Operation.calls .remove s).map (⟨·, x, .ok ()⟩) ∧
      (madeCalls th).getLast? = some ⟨.destroy, x, .ok ()⟩

/-- Whichever runtime call of whichever operation throws, in whatever state: the call ends with the
error, its record tells of it, and the session can be worked on again. -/
theorem runtime_failures (h : Reachable outcomeRuntime outcomeMachine c) : FailsCleanly c where
  cutShort th hth ev hev thrown hthrown := by
    obtain ⟨ending, hblock, -⟩ := h.block hth
    exact hblock.last_of_thrown hev hthrown
  recorded i th hi hact ev hev thrown hthrown := by
    have hmem : th ∈ c.threads := List.mem_of_getElem? hi
    obtain ⟨op, id, s, hop, ha⟩ := h.admitted_of_made hmem hev
    obtain rfl : s.id = id := h.admitted_id hmem hop ha
    exact ⟨op, s, hop, ha, h.admitted_stored hi hact hop ha, h.fail_step hi hact hop ha hev hthrown⟩
  ended th hth hover ev hev thrown hthrown := by
    obtain ⟨op, id, s, hop, ha⟩ := h.admitted_of_made hth hev
    exact ⟨op, id, hop, h.failed_result hth hop ha hev hthrown hover⟩
  removed l c' x hs hx hx' := by
    obtain ⟨i, e, th, s, hl, hi, hop, ha, hmade⟩ := h.removed hs hx hx'
    refine ⟨i, e, th, s, hl, hi, hop, ha, hmade, ?_⟩
    rw [hmade, Operation.calls, List.map_append]
    exact List.getLast?_concat

def startFailing : Config OutcomeSystem :=
  (Config.run ⟨(empty, []), []⟩ (twoSessionsRun.take 8)).get (by decide)

theorem runtime_failures_startFailing :
    (∃ th ∈ startFailing.threads, th.active ∧ madeCalls th =
      [⟨.prepare, generateSessionId 7, .ok ()⟩,
        ⟨.start, generateSessionId 7, .error (.exception (ascii "no device"))⟩]) ∧ FailsCleanly startFailing :=
  ⟨by decide, runtime_failures (.of_run .init (Option.some_get _).symm)⟩

end SessionService

end Gr4ControlPlane
