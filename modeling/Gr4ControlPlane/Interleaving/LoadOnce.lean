import Mathlib.Data.List.Forall2

/-! A value that is loaded by the first call that can: its calls take a mutex, and those that find
no value try to load one. -/

namespace Gr4ControlPlane.Interleaving.LoadOnce

variable {ε α β γ Q : Type}

def load (build : β → α) (source : Except ε β) : Option α → Except ε α × Option α
  | some a => (.ok a, some a)
  | none =>
    match source with
    | .error err => (.error err, none)
    | .ok b => (.ok (build b), some (build b))

structure Client (ε α γ Q : Type) where
  refuse : Q → Option γ
  reply : Q → Except ε α → γ

variable (client : Client ε α γ Q) (build : β → α)

def Client.answer (result : Except ε α) (q : Q) : γ := (client.refuse q).getD (client.reply q result)

def call (kept : Option α) (q : Q) (source : Except ε β) : γ × Option α :=
  match client.refuse q with
  | some answer => (answer, kept)
  | none => (client.reply q (load build source kept).1, (load build source kept).2)

def replies : Option α → List (Q × Except ε β) → List γ
  | _, [] => []
  | kept, (q, source) :: calls => (call client build kept q source).1 :: replies (call client build kept q source).2 calls

variable {client build} {calls : List (Q × Except ε β)}

theorem call_some (a : α) (q : Q) (source : Except ε β) :
    call client build (some a) q source = (client.answer (.ok a) q, some a) := by
  unfold call Client.answer
  cases client.refuse q <;> rfl

theorem replies_some (a : α) : replies client build (some a) calls = calls.map fun c => client.answer (.ok a) c.1 := by
  induction calls with
  | nil => rfl
  | cons c calls ih =>
    rw [replies, call_some, ih]
    rfl

theorem call_none {q : Q} {source : Except ε β} (hq : client.refuse q = none → ∃ err, source = .error err) :
    call client build none q source = (client.answer (source.map build) q, none) := by
  unfold call Client.answer
  cases hrefuse : client.refuse q with
  | some answer => rfl
  | none =>
    obtain ⟨err, rfl⟩ := hq hrefuse
    rfl

/-- The calls fail, each for its own reason, until one of those that read the value has loaded it, and from then on all
are answered from that value. -/
inductive Loads (reads : Q → Prop) (failed : Q → Except ε β → γ → Prop) (answered : β → Q → γ → Prop) :
    List (Q × Except ε β) → List γ → Prop
  | nil : Loads reads failed answered [] []
  | failed {q source calls answer given} : failed q source answer → Loads reads failed answered calls given →
      Loads reads failed answered ((q, source) :: calls) (answer :: given)
  | loaded {q b calls given} : reads q → List.Forall₂ (fun c answer => answered b c.1 answer) ((q, .ok b) :: calls) given →
      Loads reads failed answered ((q, .ok b) :: calls) given

theorem loads_replies {failed : Q → Except ε β → γ → Prop} {answered : β → Q → γ → Prop}
    (hfailed : ∀ q source, (client.refuse q = none → ∃ err, source = .error err) →
      failed q source (client.answer (source.map build) q))
    (hanswered : ∀ c ∈ calls, ∀ b, c.2 = .ok b → ∀ q, answered b q (client.answer (.ok (build b)) q)) :
    Loads (client.refuse · = none) failed answered calls (replies client build none calls) := by
  induction calls with
  | nil => exact .nil
  | cons c calls ih =>
    obtain ⟨q, source⟩ := c
    obtain ⟨hhead, htail⟩ := List.forall_mem_cons.mp hanswered
    by_cases hq : client.refuse q = none → ∃ err, source = .error err
    · rw [replies, call_none hq]
      exact .failed (hfailed q source hq) (ih htail)
    · obtain ⟨hrefuse, hsource⟩ := Classical.not_imp.mp hq
      cases source with
      | error err => exact absurd ⟨err, rfl⟩ hsource
      | ok b =>
        have hcall : call client build none q (.ok b) = (client.answer (.ok (build b)) q, some (build b)) := by
          unfold call Client.answer
          rw [hrefuse]
          rfl
        refine .loaded hrefuse ?_
        rw [replies, hcall, replies_some]
        refine .cons (hhead b rfl q) ?_
        rw [List.forall₂_map_right_iff, List.forall₂_same]
        exact fun c _ => hhead b rfl c.1

end Gr4ControlPlane.Interleaving.LoadOnce
