import Gr4ControlPlane.Domain.Session
import Mathlib.Data.Finmap

namespace Gr4ControlPlane

/-- `sessions_`: the stored records, each under its own id. -/
structure InMemorySessionRepository where
  sessions : Finmap fun _ : Bytes => Session
  named : ∀ id session, sessions.lookup id = some session → session.id = id

namespace InMemorySessionRepository

def empty : InMemorySessionRepository := ⟨∅, fun _ _ h => by simp at h⟩

variable (repository : InMemorySessionRepository)

def put (session : Session) : InMemorySessionRepository where
  sessions := repository.sessions.insert session.id session
  named id s h := by
    by_cases hid : id = session.id
    · subst hid
      rw [Finmap.lookup_insert] at h
      rw [Option.some.inj h]
    · rw [Finmap.lookup_insert_of_ne _ hid] at h
      exact repository.named id s h

/-- The exception is a `std::runtime_error` with the given text. -/
def create (session : Session) : Except Bytes InMemorySessionRepository :=
  if session.id ∈ repository.sessions then .error (ascii "session already exists: " ++ session.id)
  else .ok (repository.put session)

def get (id : Bytes) : Option Session := repository.sessions.lookup id

def update (session : Session) : Except Bytes InMemorySessionRepository :=
  if session.id ∈ repository.sessions then .ok (repository.put session)
  else .error (ascii "unknown session: " ++ session.id)

def remove (id : Bytes) : Bool × InMemorySessionRepository where
  fst := decide (id ∈ repository.sessions)
  snd :=
    { sessions := repository.sessions.erase id
      named := fun x s h => by
        by_cases hx : x = id
        · subst hx
          simp at h
        · rw [Finmap.lookup_erase_ne hx] at h
          exact repository.named x s h }

variable {repository} {s : Session} {x : Bytes}

theorem id_of_get (h : repository.get x = some s) : s.id = x := repository.named x s h

theorem mem_of_get (h : repository.get x = some s) : x ∈ repository.sessions :=
  Finmap.mem_of_lookup_eq_some h

theorem get_eq_none : repository.get x = none ↔ x ∉ repository.sessions := Finmap.lookup_eq_none

@[simp] theorem get_empty : empty.get x = none := rfl

@[simp] theorem get_put : (repository.put s).get s.id = some s := Finmap.lookup_insert _

theorem get_put_of_ne (h : x ≠ s.id) : (repository.put s).get x = repository.get x :=
  Finmap.lookup_insert_of_ne _ h

@[simp] theorem get_remove : (repository.remove x).2.get x = none := Finmap.lookup_erase _ _

theorem get_remove_of_ne {y : Bytes} (h : y ≠ x) : (repository.remove x).2.get y = repository.get y :=
  Finmap.lookup_erase_ne h

theorem create_of_get (h : repository.get s.id = none) : repository.create s = .ok (repository.put s) :=
  if_neg (get_eq_none.mp h)

theorem update_of_get {s' : Session} (h : repository.get s.id = some s') :
    repository.update s = .ok (repository.put s) :=
  if_pos (mem_of_get h)

theorem remove_of_get (h : repository.get x = some s) :
    repository.remove x = (true, (repository.remove x).2) := by
  ext1
  · simp [remove, mem_of_get h]
  · rfl

theorem remove_of_get_eq_none (h : repository.get x = none) :
    repository.remove x = (false, (repository.remove x).2) := by
  ext1
  · simp [remove, get_eq_none.mp h]
  · rfl

theorem remove_of_missing (h : repository.get x = none) : repository.remove x = (false, repository) := by
  have hsessions : repository.sessions.erase x = repository.sessions := by
    apply Finmap.ext_lookup
    intro y
    by_cases hy : y = x
    · subst hy
      rw [Finmap.lookup_erase]
      exact h.symm
    · exact Finmap.lookup_erase_ne hy
  rw [remove_of_get_eq_none h]
  apply congrArg (Prod.mk false)
  obtain ⟨sessions, named⟩ := repository
  simpa only [remove, InMemorySessionRepository.mk.injEq] using hsessions

end InMemorySessionRepository

end Gr4ControlPlane
