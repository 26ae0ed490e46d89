import Gr4ControlPlane.App.SessionInvariants
import Gr4ControlPlane.Interleaving.Serialization

open Gr4ControlPlane.Interleaving

namespace Gr4ControlPlane

inductive Ending
  | pending | completed | thrown
  deriving DecidableEq

/-- The calls of a block on session `x` that have been made so far. -/
inductive Block (x : Bytes) : List RuntimeCall → List RuntimeEvent → Ending → Prop
  | completed : Block x [] [] .completed
  | pending {call calls} : Block x (call :: calls) [] .pending
  | thrown {call calls e} : Block x (call :: calls) [⟨call, x, .error e⟩] .thrown
  | ok {call calls events ending} : Block x calls events ending →
      Block x (call :: calls) (⟨call, x, .ok ()⟩ :: events) ending

namespace Block

variable {x : Bytes} {cs ds : List RuntimeCall} {es fs : List RuntimeEvent} {k : Ending}

theorem append (h : Block x cs es .completed) (h' : Block x ds fs k) :
    Block x (cs ++ ds) (es ++ fs) k := by
  generalize hk : Ending.completed = k' at h
  induction h with
  | completed => exact h'
  | pending => cases hk
  | thrown => cases hk
  | ok _ ih => exact .ok (ih hk)

theorem cut (h : Block x cs es k) (hk : k ≠ .completed) : Block x (cs ++ ds) es k := by
  induction h with
  | completed => exact absurd rfl hk
  | pending => exact .pending
  | thrown => exact .thrown
  | ok _ ih => exact .ok (ih hk)

end Block

def Operation.calls (op : Operation) (session : Session) : List RuntimeCall :=
  match op with
  | .start => [.prepare, .start]
  | .stop => [.stop]
  | .restart => (if session.state = .running then [.stop] else []) ++ [.destroy, .prepare, .start]
  | .remove => (if session.state = .running then [.stop] else []) ++ [.destroy]

def runtimeEvents (t : Trace outcomeInterface) : List RuntimeEvent :=
  t.reverse.map fun ⟨(call, session), outcome⟩ => ⟨call, session.id, outcome⟩

@[simp] theorem runtimeEvents_nil : runtimeEvents [] = [] := rfl

@[simp] theorem runtimeEvents_append (t₁ t₂ : Trace outcomeInterface) :
    runtimeEvents (t₂ ++ t₁) = runtimeEvents t₁ ++ runtimeEvents t₂ := by
  simp [runtimeEvents]

def Program.ending {α : Type} : Program outcomeInterface (Except Thrown α) → Ending
  | .ret (.ok _) => .completed
  | .ret (.error _) => .thrown
  | .step _ _ => .pending

def Makes {α : Type} (x : Bytes) (a : Action outcomeInterface Thrown α) (cs : List RuntimeCall) : Prop :=
  ∀ t q, a.run.Follows t q → Block x cs (runtimeEvents t) (Program.ending q)

section

variable {α β : Type} {x : Bytes} {cs ds : List RuntimeCall} {a : Action outcomeInterface Thrown α}

theorem Makes.bind {f : α → Action outcomeInterface Thrown β} (ha : Makes x a cs)
    (hf : ∀ v, Makes x (f v) ds) : Makes x (a >>= f) (cs ++ ds) := by
  intro t q h
  rw [ExceptT.run_bind] at h
  rcases h.of_bind with ⟨q', hq', rfl⟩ | ⟨r, t₁, t₂, h₁, h₂, rfl⟩
  · have hblock := ha t q' hq'
    match q', hblock with
    | .ret (.ok v), hblock =>
      simpa using hblock.append (hf v [] _ .nil)
    | .ret (.error e), hblock => exact hblock.cut nofun
    | .step c k, hblock => exact hblock.cut nofun
  · have hblock := ha t₁ (.ret r) h₁
    rw [runtimeEvents_append]
    cases r with
    | ok v => exact hblock.append (hf v t₂ q h₂)
    | error e =>
      obtain ⟨rfl, rfl⟩ := h₂.of_ret
      rw [runtimeEvents_nil, List.append_nil]
      exact hblock.cut nofun

theorem makes_call (call : RuntimeCall) {session : Session} (hid : session.id = x) :
    Makes x (outcomeRuntime.call call session) [call] := by
  intro t q h
  rw [outcomeRuntime_call] at h
  rcases h.of_step with ⟨rfl, rfl⟩ | ⟨outcome, t', h', rfl⟩
  · exact .pending
  · obtain ⟨rfl, rfl⟩ := h'.of_ret
    cases outcome with
    | ok u => exact hid ▸ .ok .completed
    | error e => exact hid ▸ .thrown

theorem makes_stopIfRunning {session : Session} {f : Session → Action outcomeInterface Thrown β}
    (hid : session.id = x) (hf : ∀ s : Session, s.id = x → Makes x (f s) ds) :
    Makes x (SessionService.stopIfRunning outcomeRuntime session >>= f)
      ((if session.state = .running then [.stop] else []) ++ ds) := by
  unfold SessionService.stopIfRunning
  split
  · simp only [bind_assoc, pure_bind]
    exact (makes_call .stop hid).bind fun _ => hf _ hid
  · exact hf session hid

theorem makes_runtimeCalls (op : Operation) {session : Session} (hid : session.id = x) :
    Makes x (SessionService.runtimeCalls outcomeRuntime op session) (op.calls session) := by
  have hbuild : ∀ s : Session, s.id = x → Makes x (SessionService.startCalls outcomeRuntime s) [.prepare, .start] :=
    fun s hs => (makes_call .prepare hs).bind fun _ => makes_call .start hs
  cases op with
  | start => exact hbuild session hid
  | stop => exact makes_call .stop hid
  | restart => exact makes_stopIfRunning hid fun s hs => (makes_call .destroy hs).bind fun _ => hbuild s hs
  | remove => exact makes_stopIfRunning hid fun s hs => makes_call .destroy hs

end

namespace SessionService

abbrev OutcomeSystem : System (serviceInterface.sum outcomeInterface) := system outcomeRuntime outcomeMachine

def admitted (th : Thread OutcomeSystem) : Option Session :=
  match th.trace.getLast? with
  | some ⟨.inl (.admission _ _), .ok (.proceed session)⟩ => some session
  | _ => none

/-- The calls a call owes its runtime manager. -/
def owedCalls (th : Thread OutcomeSystem) : List RuntimeCall :=
  match th.op, admitted th with
  | .lifecycle op _, some session => op.calls session
  | _, _ => []

def madeCalls (th : Thread OutcomeSystem) : List RuntimeEvent := runtimeEvents th.trace.right

variable {J : Interface} {α : Type}

theorem right_append {t₁ t₂ : Trace (serviceInterface.sum J)} :
    Trace.right (t₂ ++ t₁) = Trace.right t₂ ++ Trace.right t₁ :=
  List.filterMap_append

theorem closing_right {op : Operation} {id : Bytes} {session : Session} {r : Except Thrown Unit}
    {t : Trace (serviceInterface.sum J)} {q} (h : (closing op id session r).Follows t q) :
    t.right = [] := by
  rcases r with thrown | ⟨⟩
  · rcases h.of_step with ⟨rfl, -⟩ | ⟨r, t', h', rfl⟩
    · rfl
    · rcases r with err | ⟨⟩ <;> obtain ⟨rfl, -⟩ := h'.of_ret <;> rfl
  · rcases h.of_step with ⟨rfl, -⟩ | ⟨r, t', h', rfl⟩
    · rfl
    · obtain ⟨rfl, -⟩ := h'.of_ret
      rfl

theorem afterAdmission_block {op : Operation} {id : Bytes} {session : Session} (hid : session.id = id)
    {t : Trace (serviceInterface.sum outcomeInterface)} {q}
    (h : (afterAdmission outcomeRuntime op id (.ok (.proceed session))).Follows t q) :
    ∃ ending, Block id (op.calls session) (runtimeEvents t.right) ending ∧
      (q.finished → ending ≠ .pending) := by
  have hending : ∀ r : Except Thrown Unit, Program.ending (.ret r) ≠ .pending := by
    rintro (thrown | ⟨⟩) <;> nofun
  rw [afterAdmission_proceed] at h
  rcases h.of_bind with ⟨q', hq', rfl⟩ | ⟨r, t₁, t₂, h₁, h₂, rfl⟩
  · obtain ⟨q'', hq'', rfl⟩ := hq'.of_inr
    refine ⟨_, makes_runtimeCalls op hid _ _ hq'', fun hfin => ?_⟩
    match q'', hfin with
    | .ret r, _ => exact hending r
    | .step c k, hfin => cases hfin
  · obtain ⟨q'', hq'', heq⟩ := h₁.of_inr
    match q'', hq'', heq with
    | .ret r', hq'', _ =>
      rw [right_append, closing_right h₂, List.nil_append]
      exact ⟨_, makes_runtimeCalls op hid _ _ hq'', fun _ => hending r'⟩

theorem Reachable.block {c : Config OutcomeSystem} (h : Reachable outcomeRuntime outcomeMachine c)
    {th : Thread OutcomeSystem} (hth : th ∈ c.threads) :
    ∃ ending, Block th.op.session (owedCalls th) (madeCalls th) ending ∧
      (th.active = false → ending ≠ .pending) := by
  have hf := h.follows th hth
  have hanswers := Reach.answers h exec_systemAnswers th hth
  obtain ⟨op, prog, trace, envs⟩ := th
  cases op with
  | create draw name grc schedulerAlias =>
    rw [body_create] at hf
    refine ⟨.completed, ?_, nofun⟩
    rcases hf.of_step with ⟨rfl, -⟩ | ⟨r, t', h', rfl⟩
    · exact .completed
    · obtain ⟨rfl, -⟩ := h'.of_ret
      exact .completed
  | lifecycle op id =>
    rw [body_lifecycle] at hf
    rcases hf.of_step with ⟨rfl, -⟩ | ⟨r, t', h', rfl⟩
    · exact ⟨.completed, .completed, nofun⟩
    · have hid := hanswers ⟨.inl (.admission op id), r⟩ (by simp)
      match r, h', hid with
      | .error err, h', _ =>
        obtain ⟨rfl, -⟩ := h'.of_ret
        exact ⟨.completed, .completed, nofun⟩
      | .ok (.settled session), h', _ =>
        obtain ⟨rfl, -⟩ := h'.of_ret
        exact ⟨.completed, .completed, nofun⟩
      | .ok (.proceed session), h', hid =>
        obtain ⟨ending, hblock, hend⟩ := afterAdmission_block hid h'
        refine ⟨ending, ?_, fun ha => hend (by simpa [Thread.active] using ha)⟩
        have hmade : madeCalls ⟨.lifecycle op id, prog, t' ++
            [⟨.inl (.admission op id), .ok (.proceed session)⟩], envs⟩ = runtimeEvents t'.right := by
          unfold madeCalls
          rw [right_append]
          exact congrArg runtimeEvents (List.append_nil _)
        have howed : owedCalls ⟨.lifecycle op id, prog, t' ++
            [⟨.inl (.admission op id), .ok (.proceed session)⟩], envs⟩ = op.calls session := by
          simp [owedCalls, admitted]
        rw [hmade, howed]
        exact hblock

end SessionService

end Gr4ControlPlane
