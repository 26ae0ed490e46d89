import Gr4ControlPlane.Runtime.RuntimeManager
import Gr4ControlPlane.Interleaving.Ownership

open Gr4ControlPlane.Interleaving

namespace Gr4ControlPlane

variable {R : Interface} {W G : Type}

structure RuntimeOwnership (M : RuntimeMachine R) (W G : Type) where
  view : Bytes → M.State → G → W
  good : M.State → G → Prop
  loc : Bytes → Local R W
  sound : ∀ {x c e σ g t r σ'}, good σ g → (loc x).pre c (view x σ g) t →
    M.exec c e σ = some (r, σ') →
    ∃ g', good σ' g' ∧ (loc x).post c (view x σ g) r (view x σ' g') ∧
      ∀ y, y ≠ x → view y σ' g' = view y σ g

def RuntimeOwnership.Ready {M : RuntimeMachine R} (O : RuntimeOwnership M W G) : Prop :=
  ∀ {x c e σ g t}, O.good σ g → (O.loc x).pre c (O.view x σ g) t → (M.exec c e σ).isSome

abbrev RuntimeManager.system (rm : RuntimeManager R) (M : RuntimeMachine R) : System R where
  State := M.State
  Env := M.Env
  Op := RuntimeCall × Session
  Result := Except Thrown Unit
  body op := (rm.call op.1 op.2).run
  exec := M.exec

def RuntimeOwnership.ownership {M : RuntimeMachine R} (rm : RuntimeManager R) (O : RuntimeOwnership M W G) :
    Ownership (rm.system M) Bytes W G where
  key op := op.2.id
  view := O.view
  good := O.good
  loc := O.loc
  sound := O.sound

/-- A call begins only when no other call on its session is under way, as the session
service sees to it. -/
def PerSession {rm : RuntimeManager R} {M : RuntimeMachine R} (c : Config (rm.system M)) :
    Label (rm.system M) → Prop
  | .invoke op _ => ∀ th ∈ c.threads, th.active → th.op.2.id ≠ op.2.id
  | .run _ _ => True

instance {rm : RuntimeManager R} {M : RuntimeMachine R} (c : Config (rm.system M)) :
    (l : Label (rm.system M)) → Decidable (PerSession c l)
  | .invoke op _ => inferInstanceAs (Decidable (∀ th ∈ c.threads, th.active → th.op.2.id ≠ op.2.id))
  | .run _ _ => inferInstanceAs (Decidable True)

end Gr4ControlPlane
