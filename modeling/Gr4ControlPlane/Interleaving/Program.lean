import Mathlib.Logic.Basic

/-! Programs over atomic commands.  A program is a tree whose nodes are the points
at which other calls may run; it is run command by command by `System` and reasoned
about through the part of the shared state it owns. -/

namespace Gr4ControlPlane.Interleaving

structure Interface where
  Cmd : Type
  Ans : Cmd → Type

abbrev Event (I : Interface) := Σ c : I.Cmd, I.Ans c

abbrev Trace (I : Interface) := List (Event I)

inductive Program (I : Interface) (α : Type) : Type
  | ret : α → Program I α
  | step : (c : I.Cmd) → (I.Ans c → Program I α) → Program I α

variable {I J : Interface} {α β ε V W : Type}

namespace Program

def bind : Program I α → (α → Program I β) → Program I β
  | .ret a, f => f a
  | .step c k, f => .step c fun r => (k r).bind f

instance : Monad (Program I) where
  pure := .ret
  bind := .bind

def call (c : I.Cmd) : Program I (I.Ans c) := .step c .ret

def finished : Program I α → Bool
  | .ret _ => true
  | .step _ _ => false

@[simp] theorem ret_bind (a : α) (f : α → Program I β) : (Program.ret a >>= f) = f a := rfl

@[simp] theorem step_bind (c : I.Cmd) (k : I.Ans c → Program I α) (f : α → Program I β) :
    (Program.step c k >>= f) = .step c fun r => k r >>= f := rfl

theorem bind_ret (p : Program I α) : (p >>= Program.ret) = p := by
  induction p with
  | ret a => rfl
  | step c k ih => exact congrArg (Program.step c) (funext ih)

theorem bind_assoc (p : Program I α) (f : α → Program I β) (g : β → Program I ε) :
    (p >>= f >>= g) = p >>= fun a => f a >>= g := by
  induction p with
  | ret a => rfl
  | step c k ih => exact congrArg (Program.step c) (funext ih)

instance : LawfulMonad (Program I) :=
  LawfulMonad.mk' (Program I) bind_ret (fun _ _ => rfl) bind_assoc

end Program

def Interface.sum (I J : Interface) : Interface where
  Cmd := I.Cmd ⊕ J.Cmd
  Ans := Sum.elim I.Ans J.Ans

def Program.inr : Program J α → Program (I.sum J) α
  | .ret a => .ret a
  | .step c k => .step (.inr c) fun r => (k r).inr

def Trace.right : Trace (I.sum J) → Trace J :=
  List.filterMap fun
    | ⟨.inl _, _⟩ => none
    | ⟨.inr c, r⟩ => some ⟨c, r⟩

theorem Trace.mem_right {c : J.Cmd} {r : J.Ans c} {t : Trace (I.sum J)}
    (h : (⟨.inr c, r⟩ : Event (I.sum J)) ∈ t) : (⟨c, r⟩ : Event J) ∈ t.right :=
  List.mem_filterMap.mpr ⟨_, h, rfl⟩

abbrev Action (I : Interface) (ε α : Type) := ExceptT ε (Program I) α

namespace Action

def call (c : I.Cmd) : Action I ε (I.Ans c) := ExceptT.lift (Program.call c)

def perform (c : I.Cmd) (f : I.Ans c → Except ε α) : Action I ε α :=
  ExceptT.mk (.step c fun r => .ret (f r))

/-- `try { x }`, with the exception handed back as a value. -/
def attempt (x : Action I ε α) : Action I ε (Except ε α) := ExceptT.lift x.run

end Action

/-- The part of the shared state that a call owns, as that call sees it: what it owes
before a command, what the command may then do to the view, and which events the run
is assumed to produce. -/
structure Local (I : Interface) (V : Type) where
  pre : I.Cmd → V → Trace I → Prop
  post : (c : I.Cmd) → V → I.Ans c → V → Prop
  admits : Trace I → Event I → Prop

/-- Weakest precondition of a program run on its own view while other calls run. -/
def Program.wp (L : Local I V) (Q : α → V → Trace I → Prop) :
    Program I α → V → Trace I → Prop
  | .ret a, v, t => Q a v t
  | .step c k, v, t => L.pre c v t ∧
      ∀ r v', L.post c v r v' → L.admits t ⟨c, r⟩ → (k r).wp L Q v' (⟨c, r⟩ :: t)

variable {L : Local I V} {Q R : α → V → Trace I → Prop} {v : V} {t : Trace I}

@[simp] theorem Program.wp_ret (a : α) : (Program.ret a).wp L Q v t ↔ Q a v t := .rfl

theorem Program.wp_step {c : I.Cmd} {k : I.Ans c → Program I α} :
    (Program.step c k).wp L Q v t ↔ L.pre c v t ∧
      ∀ r v', L.post c v r v' → L.admits t ⟨c, r⟩ → (k r).wp L Q v' (⟨c, r⟩ :: t) := .rfl

theorem Program.wp_bind (p : Program I α) (f : α → Program I β)
    {Q : β → V → Trace I → Prop} :
    (p >>= f).wp L Q v t ↔ p.wp L (fun a => (f a).wp L Q) v t := by
  induction p generalizing v t with
  | ret a => rfl
  | step c k ih =>
    rw [Program.step_bind, Program.wp_step, Program.wp_step]
    simp only [ih]

theorem Program.wp_mono {p : Program I α} (h : ∀ a v t, Q a v t → R a v t)
    (hp : p.wp L Q v t) : p.wp L R v t := by
  induction p generalizing v t with
  | ret a => exact h a v t hp
  | step c k ih => exact ⟨hp.1, fun r v' hr ha => ih r (hp.2 r v' hr ha)⟩

namespace Action

def wp (L : Local I V) (Q : Except ε α → V → Trace I → Prop) (x : Action I ε α) :
    V → Trace I → Prop :=
  x.run.wp L Q

variable {x : Action I ε α} {Q R : Except ε α → V → Trace I → Prop}

theorem wp_mono (h : ∀ a v t, Q a v t → R a v t) (hx : x.wp L Q v t) : x.wp L R v t :=
  Program.wp_mono h hx

theorem wp_bind (f : α → Action I ε β) {Q : Except ε β → V → Trace I → Prop} :
    (x >>= f).wp L Q v t ↔ x.wp L (fun
      | .ok a => (f a).wp L Q
      | .error e => Q (.error e)) v t := by
  unfold wp
  rw [ExceptT.run_bind, Program.wp_bind]
  constructor
  · apply Program.wp_mono
    intro a v t h
    cases a <;> exact h
  · apply Program.wp_mono
    intro a v t h
    cases a <;> exact h

theorem wp_seq {f : α → Action I ε β} {Q : Except ε β → V → Trace I → Prop}
    (h : x.wp L (fun
      | .ok a => (f a).wp L Q
      | .error e => Q (.error e)) v t) : (x >>= f).wp L Q v t := (wp_bind f).mpr h

theorem wp_lift {p : Program I α} :
    Action.wp L Q (ExceptT.lift p : Action I ε α) v t ↔ p.wp L (fun a => Q (.ok a)) v t := by
  unfold wp
  rw [ExceptT.run_lift, map_eq_pure_bind, Program.wp_bind]
  rfl

theorem wp_attempt {Q : Except ε (Except ε α) → V → Trace I → Prop} :
    x.attempt.wp L Q v t ↔ x.wp L (fun r => Q (.ok r)) v t := wp_lift

theorem wp_perform {c : I.Cmd} {f : I.Ans c → Except ε α} :
    (perform c f).wp L Q v t ↔ L.pre c v t ∧
      ∀ r v', L.post c v r v' → L.admits t ⟨c, r⟩ → Q (f r) v' (⟨c, r⟩ :: t) := .rfl

theorem wp_call {c : I.Cmd} {Q : Except ε (I.Ans c) → V → Trace I → Prop} :
    (call c : Action I ε (I.Ans c)).wp L Q v t ↔ L.pre c v t ∧
      ∀ r v', L.post c v r v' → L.admits t ⟨c, r⟩ → Q (.ok r) v' (⟨c, r⟩ :: t) := .rfl

end Action

/-- Two interfaces side by side, each with its own view; the second one is only used
while the first view satisfies `busy`. -/
def Local.sum (pre : I.Cmd → V → Trace (I.sum J) → Prop)
    (post : (c : I.Cmd) → V → I.Ans c → V → Prop) (busy : V → Prop) (B : Local J W) :
    Local (I.sum J) (V × W) where
  pre
    | .inl c, v, t => pre c v.1 t
    | .inr c, v, t => busy v.1 ∧ B.pre c v.2 t.right
  post
    | .inl c, v, r, v' => post c v.1 r v'.1 ∧ v'.2 = v.2
    | .inr c, v, r, v' => v'.1 = v.1 ∧ B.post c v.2 r v'.2
  admits
    | _, ⟨.inl _, _⟩ => True
    | t, ⟨.inr c, r⟩ => B.admits t.right ⟨c, r⟩

theorem Program.wp_inr {pre : I.Cmd → V → Trace (I.sum J) → Prop}
    {post : (c : I.Cmd) → V → I.Ans c → V → Prop} {busy : V → Prop} {B : Local J W}
    {Q : α → V × W → Trace (I.sum J) → Prop} {v : V} {w : W} {t : Trace (I.sum J)}
    {p : Program J α} (hb : busy v)
    (h : p.wp B (fun a w' t' => ∀ T : Trace (I.sum J), T.right = t' → Q a (v, w') T) w t.right) :
    (p.inr : Program (I.sum J) α).wp (Local.sum pre post busy B) Q (v, w) t := by
  induction p generalizing w t with
  | ret a => exact h t rfl
  | step c k ih =>
    refine ⟨⟨hb, h.1⟩, ?_⟩
    rintro r ⟨v', w'⟩ ⟨rfl, hpost⟩ hadm
    exact ih r (h.2 r w' hpost hadm)

def Action.performLeft (c : I.Cmd) (f : I.Ans c → Except ε α) : Action (I.sum J) ε α :=
  ExceptT.mk (.step (.inl c) fun r => .ret (f r))

theorem Action.wp_performLeft {pre : I.Cmd → V → Trace (I.sum J) → Prop}
    {post : (c : I.Cmd) → V → I.Ans c → V → Prop} {busy : V → Prop} {B : Local J W}
    {Q : Except ε α → V × W → Trace (I.sum J) → Prop} {v : V} {w : W} {t : Trace (I.sum J)}
    {c : I.Cmd} {f : I.Ans c → Except ε α} :
    (performLeft c f : Action (I.sum J) ε α).wp (Local.sum pre post busy B) Q (v, w) t ↔
      pre c v t ∧ ∀ r v', post c v r v' → Q (f r) (v', w) (⟨.inl c, r⟩ :: t) := by
  constructor
  · exact fun h => ⟨h.1, fun r v' hr => h.2 r (v', w) ⟨hr, rfl⟩ trivial⟩
  · rintro ⟨hpre, h⟩
    refine ⟨hpre, ?_⟩
    rintro r ⟨v', w'⟩ ⟨hr, rfl⟩ -
    exact h r v' hr

end Gr4ControlPlane.Interleaving
