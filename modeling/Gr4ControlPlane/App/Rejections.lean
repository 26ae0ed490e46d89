import Gr4ControlPlane.App.LockedSections
import Gr4ControlPlane.App.SessionIsolation

open Gr4ControlPlane.Interleaving

namespace Gr4ControlPlane.SessionService

variable {R : Interface} {α β : Type}

def IsSection : (callInterface R).Cmd → Prop
  | .inl (.inl _) => True
  | .inl (.inr _) => False
  | .inr (.inl _) => True
  | .inr (.inr _) => False

def readThrows : (c : ReadCmd) → readInterface.Ans c → Prop
  | .list, _ => False
  | .get _, r => ∃ err, r = .error err
  | .planGate _, r => ∃ err, r = .error err
  | .streamGate _, r => ∃ err, r = .error err

def serviceThrows : (c : ServiceCmd) → serviceInterface.Ans c → Prop
  | .create .., r => ∃ err, r = .error err
  | .admission .., r => ∃ err, r = .error err
  | .fail .., r => ∃ err, r = .error err
  | .commit .., r => ∃ err, r = .error err

def SectionThrows : (c : (callInterface R).Cmd) → (callInterface R).Ans c → Prop
  | .inl (.inl c), r => readThrows c r
  | .inl (.inr _), _ => False
  | .inr (.inl c), r => serviceThrows c r
  | .inr (.inr _), _ => False

theorem settle_of_error {outcome : Except AppError (α × SessionService)} {service service' : SessionService}
    {err : AppError} (h : service.settle outcome = (.error err, service')) : service' = service := by
  rcases outcome with err' | ⟨a, service''⟩
  · cases h
    rfl
  · cases h

theorem exec_of_throws {service service' : SessionService} {now : Timestamp} {c : ServiceCmd}
    {r : serviceInterface.Ans c} (h : service.exec now c = some (r, service')) (hr : serviceThrows c r) :
    service' = service := by
  cases c with
  | create draw name grc schedulerAlias =>
    obtain ⟨err, rfl⟩ := hr
    obtain ⟨outcome, -, heq⟩ := Option.map_eq_some_iff.mp h
    exact settle_of_error heq
  | admission op id =>
    obtain ⟨err, rfl⟩ := hr
    exact settle_of_error (Option.some.inj h)
  | fail id message =>
    obtain ⟨err, rfl⟩ := hr
    exact settle_of_error (Option.some.inj h)
  | commit op id =>
    obtain ⟨err, rfl⟩ := hr
    exact settle_of_error (Option.some.inj h)

def sectionAnswers : (c : (callInterface R).Cmd) → (callInterface R).Ans c → Prop
  | .inl _, _ => True
  | .inr (.inl c), r => closingAnswers c r
  | .inr (.inr _), _ => True

/-- The errors of requests that are turned down for what they are, or for the state of their session. -/
inductive Refusal : AppError → Prop
  | validation {what : Bytes} : Refusal (.validation what)
  | invalidState {what : Bytes} : Refusal (.invalidState what)

def NotRefused (r : Except AppError α) : Prop := ∀ err, r = .error err → ¬ Refusal err

inductive AfterSection (c : (callInterface R).Cmd) (r : (callInterface R).Ans c) :
    Program (callInterface R) (Except AppError α) → Prop
  | threw {err : AppError} : SectionThrows c r → AfterSection c r (.ret (.error err))
  | done {v : α} : AfterSection c r (.ret (.ok v))
  | goesOn {c' k} : (Program.step c' k).Ends sectionAnswers NotRefused → AfterSection c r (.step c' k)

def Gated (a : Call R α) : Prop :=
  ∃ c k, a.run = .step c k ∧ IsSection c ∧ ∀ r, AfterSection c r (k r)

theorem NotRefused.map {r : Except AppError α} (h : NotRefused r) (f : α → β) : NotRefused (r.map f) := by
  intro err herr
  cases r with
  | ok a => cases herr
  | error err' => exact h err (congrArg Except.error (Except.error.inj herr))

theorem AfterSection.map {c : (callInterface R).Cmd} {r : (callInterface R).Ans c}
    {p : Program (callInterface R) (Except AppError α)} (h : AfterSection c r p) (f : α → β) :
    AfterSection c r (p >>= fun r => .ret (r.map f)) := by
  cases h with
  | threw hthrows => exact .threw hthrows
  | done => exact .done
  | goesOn hends =>
    refine AfterSection.goesOn (Program.Ends.bind (hends.mono fun r hr => ?_))
    exact hr.map f

theorem Gated.map {a : Call R α} (h : Gated a) (f : α → β) : Gated (f <$> a) := by
  obtain ⟨c, k, hrun, hc, hk⟩ := h
  refine ⟨c, fun r => k r >>= fun r => .ret (r.map f), ?_, hc, fun r => (hk r).map f⟩
  rw [ExceptT.run_map, hrun]
  rfl

section

variable (rm : RuntimeManager R)

theorem afterAdmission_ends (op : Operation) (id : Bytes) (session : Session) :
    ((afterAdmission rm op id (.ok (.proceed session))).inr : Program (callInterface R) _).Ends
      sectionAnswers NotRefused := by
  rw [afterAdmission_proceed]
  apply Program.Ends.inr
  apply Program.Ends.bind
  apply Program.Ends.of_forall
  rintro (thrown | ⟨⟩)
  · rintro (err | ⟨⟩) hanswer
    · rintro _ ⟨⟩ hrefusal
      cases hanswer err rfl
      cases hrefusal
    · rintro _ ⟨⟩ ⟨⟩
  · intro r hanswer err herr hrefusal
    cases hanswer err herr
    cases hrefusal

theorem afterAdmission_section (op : Operation) (id : Bytes) (r : Except AppError Admission) :
    AfterSection (R := R) (.inr (.inl (.admission op id))) r (afterAdmission rm op id r).inr := by
  rcases r with err | (session | session)
  · exact .threw ⟨err, rfl⟩
  · have hends := afterAdmission_ends rm op id session
    rw [afterAdmission_proceed] at hends ⊢
    cases hp : (runtimeCalls rm op session).run with
    | ret r =>
      rw [hp] at hends
      rcases r with thrown | ⟨⟩ <;> exact .goesOn hends
    | step c k =>
      rw [hp] at hends
      exact .goesOn hends
  · exact .done

theorem handle_gated (M : RuntimeMachine R) (request : Request) : Gated (Call.lifecycle (handle rm request)) := by
  cases request with
  | create draw name grc schedulerAlias =>
    have hbody : (system rm M).body (.create draw name grc schedulerAlias) = _ := body_create draw name grc schedulerAlias
    refine ⟨.inr (.inl (.create draw name grc schedulerAlias)), _, congrArg Program.inr hbody, trivial, fun r => ?_⟩
    rcases r with err | session
    · exact .threw ⟨err, rfl⟩
    · exact .done
  | lifecycle op id =>
    have hbody : (system rm M).body (.lifecycle op id) = _ := body_lifecycle op id
    exact ⟨.inr (.inl (.admission op id)), _, congrArg Program.inr hbody, trivial, afterAdmission_section rm op id⟩

end

theorem fetchAttempts_ends (session : Session) (id streamId : Bytes) (attempts : Nat) :
    (Call.fetchAttempts session id streamId attempts : Call R HttpStreamResponse).run.Ends sectionAnswers NotRefused := by
  induction attempts with
  | zero => rintro _ ⟨⟩ ⟨⟩
  | succ attempts ih =>
    rintro ((what | ⟨⟩) | response) -
    · change Program.Ends _ _ (ExceptT.run (if _ then _ else _))
      split
      · rintro _ ⟨⟩ ⟨⟩
      · exact ih
    · rintro _ ⟨⟩ ⟨⟩
    · rintro _ ⟨⟩

theorem dispatch_gated (rm : RuntimeManager R) (M : RuntimeMachine R) (call : SessionCall) :
    Gated (dispatch rm call) := by
  cases call with
  | request request => exact (handle_gated rm M request).map _
  | get id =>
    apply Gated.map
    refine ⟨.inl (.inl (.get id)), _, rfl, trivial, ?_⟩
    rintro (err | session)
    · exact .threw ⟨err, rfl⟩
    · exact .done
  | activeStreamPlan id =>
    apply Gated.map
    refine ⟨.inl (.inl (.planGate id)), _, rfl, trivial, ?_⟩
    rintro (err | (_ | session))
    · exact .threw ⟨err, rfl⟩
    · exact .done
    · refine .goesOn ?_
      rintro (thrown | plan) -
      · rintro _ ⟨⟩ ⟨⟩
      · rintro _ ⟨⟩
  | fetchHttpStream id streamId =>
    apply Gated.map
    refine ⟨.inl (.inl (.streamGate id)), _, rfl, trivial, ?_⟩
    rintro (err | session)
    · exact .threw ⟨err, rfl⟩
    · exact .goesOn (fetchAttempts_ends session id streamId Call.kTransientFetchRetries)
  | resolveWebsocketStream id streamId =>
    apply Gated.map
    refine ⟨.inl (.inl (.streamGate id)), _, rfl, trivial, ?_⟩
    rintro (err | session)
    · exact .threw ⟨err, rfl⟩
    · refine .goesOn ?_
      rintro (thrown | route) -
      · rintro _ ⟨⟩ ⟨⟩
      · rintro _ ⟨⟩

section

variable {M : RuntimeMachine R} (rm : RuntimeManager R) (streams : StreamMachine M)

abbrev sectionSystem : System (callInterface R) := lockedSystem streams fun call => (dispatch rm call).run

variable {rm streams}

theorem state_of_throws {c : (callInterface R).Cmd} {e : Env M.Env} {σ σ' : SessionService × M.State}
    {r : (callInterface R).Ans c} (h : (sectionSystem rm streams).exec c e σ = some (r, σ')) (hr : SectionThrows c r) :
    σ' = σ := by
  rw [lockedSystem_exec rm] at h
  match c, r, h, hr with
  | .inl (.inl c), r, h, _ =>
    cases h
    rfl
  | .inr (.inl c), r, h, hr =>
    have hsection : (system rm M).exec (.inl c) e σ = some (r, σ') := h
    obtain ⟨service', hc, rfl⟩ := exec_left hsection
    exact congrArg (·, σ.2) (exec_of_throws hc hr)

theorem exec_sectionAnswers {c : (callInterface R).Cmd} {e : Env M.Env} {σ σ' : SessionService × M.State}
    {r : (callInterface R).Ans c} (h : (sectionSystem rm streams).exec c e σ = some (r, σ')) : sectionAnswers c r := by
  rw [lockedSystem_exec rm] at h
  match c, r, h with
  | .inl c, r, _ => trivial
  | .inr (.inl c), r, h =>
    have hsection : (system rm M).exec (.inl c) e σ = some (r, σ') := h
    obtain ⟨service', hc, -⟩ := exec_left hsection
    exact exec_closingAnswers hc
  | .inr (.inr c), r, _ => trivial

def Rejected (th : Thread (sectionSystem rm streams)) : Prop :=
  ∃ err, th.result = some (.error err) ∧
    (Refusal err ∨ (∃ what, err = .notFound what) ∧ th.trace.length = 1)

theorem rejected_section {c : Config (sectionSystem rm streams)} (h : Reach (fun _ _ _ => True) ⟨(empty, M.init), []⟩ c)
    {th : Thread (sectionSystem rm streams)} (hth : th ∈ c.threads) (hr : Rejected th) :
    ∃ cmd r, th.trace = [⟨cmd, r⟩] ∧ IsSection cmd ∧ SectionThrows cmd r := by
  obtain ⟨err, hresult, herr⟩ := hr
  have hret : th.prog = .ret (.error err) := Thread.prog_of_result hresult
  obtain ⟨cmd, k, hrun, hsection, hafter⟩ := dispatch_gated rm M th.op
  have hf : ((dispatch rm th.op).run).Follows th.trace th.prog := h.follows th hth
  rw [hrun, hret] at hf
  rcases hf.of_step with ⟨-, hp⟩ | ⟨r, t, hf, ht⟩
  · cases hp
  · have hafter := hafter r
    generalize k r = p at hafter hf
    cases hafter with
    | threw hthrows =>
      obtain ⟨rfl, -⟩ := hf.of_ret
      exact ⟨cmd, r, ht, hsection, hthrows⟩
    | done => cases hf.of_ret.2
    | goesOn hends =>
      have hanswers : ∀ ev ∈ t, sectionAnswers ev.1 ev.2 := fun ev hev =>
        Reach.answers h exec_sectionAnswers th hth ev (by simp [ht, hev])
      have hnot : NotRefused (.error err) := hends.follows hf hanswers
      rcases herr with hrefusal | ⟨-, hlen⟩
      · exact absurd hrefusal (hnot err rfl)
      · obtain rfl : t = [] := by simpa [ht] using hlen
        cases hf

/-- In the run the `i`-th call, which is `th`, is one step, and that leaves the state and the other
calls as it finds them. -/
def OnlyStep (ls : List (Label (sectionSystem rm streams))) (i : Nat) (th : Thread (sectionSystem rm streams)) : Prop :=
  ∃ before e after c, ls = before ++ .invoke th.op e :: after ∧
    Config.run ⟨(empty, M.init), []⟩ before = some c ∧ c.threads.length = i ∧
    c.step (.invoke th.op e) = some ⟨c.shared, c.threads ++ [th]⟩ ∧ ∀ e', .run i e' ∉ after

theorem OnlyStep.snoc {ls : List (Label (sectionSystem rm streams))} {i : Nat} {th : Thread (sectionSystem rm streams)}
    (h : OnlyStep ls i th) {l : Label (sectionSystem rm streams)} (hl : ∀ e, l ≠ .run i e) :
    OnlyStep (ls ++ [l]) i th := by
  obtain ⟨before, e, after, c, rfl, hrun, hlen, hstep, hafter⟩ := h
  refine ⟨before, e, after ++ [l], c, by simp, hrun, hlen, hstep, fun e' he' => ?_⟩
  rcases List.mem_append.mp he' with he' | he'
  · exact hafter e' he'
  · exact hl e' (List.mem_singleton.mp he').symm

theorem rejected_onlyStep {ls : List (Label (sectionSystem rm streams))} {c : Config (sectionSystem rm streams)}
    (h : Config.run ⟨(empty, M.init), []⟩ ls = some c) {i : Nat} {th : Thread (sectionSystem rm streams)}
    (hi : c.threads[i]? = some th) (hr : Rejected th) : OnlyStep ls i th := by
  induction ls using List.reverseRecOn generalizing c with
  | nil =>
    cases h
    cases hi
  | append_singleton ls l ih =>
    have hreach : Reach (fun _ _ _ => True) ⟨(empty, M.init), []⟩ c := .of_run .init h
    obtain ⟨cmd, r, htrace, -, hthrows⟩ := rejected_section hreach (List.mem_of_getElem? hi) hr
    rw [Config.run_append] at h
    obtain ⟨d, hd, h⟩ := Option.bind_eq_some_iff.mp h
    have hs : d.step l = some c := by simpa [Config.run] using h
    -- the last step is the only one of this call, or one of another call after it
    cases l with
    | invoke call e =>
      obtain ⟨new, hadv, hths⟩ := Config.step_invoke hs
      rcases Config.lookup_invoke (hths ▸ hi) with hi | ⟨rfl, rfl⟩
      · refine (ih hd hi).snoc ?_
        intro e' h
        cases h
      · obtain ⟨cmd', k, r', -, hexec, rfl⟩ := Thread.advance_cases hadv
        cases htrace
        have hshared : c.shared = d.shared := state_of_throws hexec hthrows
        refine ⟨ls, e, [], d, rfl, hd, rfl, ?_, fun e' => List.not_mem_nil⟩
        rw [← hshared, ← hths]
        exact hs
    | run j e =>
      obtain ⟨u, u', hj, hadv, hths⟩ := Config.step_run hs
      have hlt : j < d.threads.length := (List.getElem?_eq_some_iff.mp hj).1
      rcases Config.lookup_run hlt (hths ▸ hi) with ⟨rfl, rfl⟩ | ⟨hne, hi⟩
      · have hbegun : u.trace ≠ [] := (Reach.of_run .init hd).begun u (List.mem_of_getElem? hj)
        obtain ⟨cmd', k, r', -, -, rfl⟩ := Thread.advance_cases hadv
        exact absurd (List.cons.inj htrace).2 hbegun
      · refine (ih hd hi).snoc ?_
        intro e' h
        exact hne (Label.run.inj h).1.symm

/-- Whatever else is under way, a call that is turned down has no effect, and asks nothing of the
runtime manager. -/
theorem rejected_no_effect {ls : List (Label (sectionSystem rm streams))} {c : Config (sectionSystem rm streams)}
    (h : Config.run ⟨(empty, M.init), []⟩ ls = some c) {i : Nat} {th : Thread (sectionSystem rm streams)}
    (hi : c.threads[i]? = some th) (hr : Rejected th) :
    OnlyStep ls i th ∧ ∀ ev ∈ th.trace, IsSection ev.1 := by
  have hreach : Reach (fun _ _ _ => True) ⟨(empty, M.init), []⟩ c := .of_run .init h
  obtain ⟨cmd, r, htrace, hsection, -⟩ := rejected_section hreach (List.mem_of_getElem? hi) hr
  exact ⟨rejected_onlyStep h hi hr, by simp [htrace, hsection]⟩

end

def refusedStopRun : List (Label (sectionSystem outcomeRuntime scriptedRuntime.streams)) :=
  let done : Option (Except Thrown Unit) := some (.ok ())
  [.invoke (.request (.create 7 (ascii "fm") (ascii "blocks: []") none)) ⟨1, done⟩,
    .invoke (.request (.lifecycle .start (generateSessionId 7))) ⟨2, done⟩,
    .invoke (.request (.lifecycle .stop (generateSessionId 7))) ⟨3, done⟩,
    .run 1 ⟨4, done⟩]

def refusedStop : Config (sectionSystem outcomeRuntime scriptedRuntime.streams) :=
  (Config.run ⟨(empty, []), []⟩ refusedStopRun).get (by decide +kernel)

theorem rejected_no_effect_refusedStop :
    ∃ th, refusedStop.threads[2]? = some th ∧ OnlyStep refusedStopRun 2 th ∧ ∀ ev ∈ th.trace, IsSection ev.1 :=
  let th := refusedStop.threads[2]?.get (by decide +kernel)
  have hi : refusedStop.threads[2]? = some th := (Option.some_get _).symm
  have hr : Rejected th := ⟨.invalidState (ascii "session start in progress: " ++ generateSessionId 7),
    by decide +kernel, .inl .invalidState⟩
  ⟨th, hi, rejected_no_effect (Option.some_get _).symm hi hr⟩

end Gr4ControlPlane.SessionService
