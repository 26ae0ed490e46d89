import Mathlib.Algebra.GroupWithZero.Nat
import Mathlib.Data.List.Basic

/-! An action that is run once: its callers take a mutex, the first of them finds the flag
unset and runs the parts of the action in order, the others leave.  Since the mutex is held
throughout, nobody comes back from a call before the action is over. -/

namespace Gr4ControlPlane.Interleaving

namespace OneShot

inductive Point
  | lock | test | part (k : Nat) | unlock | returned
  deriving DecidableEq

def Point.inside : Point → Bool
  | .lock | .returned => false
  | .test | .part _ | .unlock => true

end OneShot

structure OneShot where
  flag : Bool
  locked : Bool
  calls : List OneShot.Point
  /-- The parts run so far. -/
  log : List Nat
  deriving DecidableEq

namespace OneShot

def init : OneShot := ⟨false, false, [], []⟩

section

variable (n : Nat) (o : OneShot)

def call : OneShot := { o with calls := o.calls ++ [.lock] }

def nextPart (k : Nat) : Point := if k < n then .part k else .unlock

def advance : Point → Option (Point × OneShot)
  | .lock => if o.locked then none else some (.test, { o with locked := true })
  | .test => some (if o.flag then .unlock else nextPart n 0, { o with flag := true })
  | .part k => some (nextPart n (k + 1), { o with log := o.log ++ [k] })
  | .unlock => some (.returned, { o with locked := false })
  | .returned => none

def step (i : Nat) : Option OneShot :=
  o.calls[i]?.bind fun p => (o.advance n p).map fun (p', o') => { o' with calls := o.calls.set i p' }

def Point.work : Point → Nat
  | .lock => n + 3
  | .test => n + 2
  | .part k => n - k + 1
  | .unlock => 1
  | .returned => 0

def work : Nat := (o.calls.map (Point.work n)).sum

end

def Others (h : Nat) (Q : Point → Prop) (calls : List Point) : Prop := ∀ j q, j ≠ h → calls[j]? = some q → Q q

inductive Valid (n : Nat) : OneShot → Prop
  | idle {calls} : (∀ q ∈ calls, q = .lock) → Valid n ⟨false, false, calls, []⟩
  | testing {calls h} : calls[h]? = some .test → Others h (· = .lock) calls → Valid n ⟨false, true, calls, []⟩
  | running {calls h k} : calls[h]? = some (.part k) → k < n → Others h (· = .lock) calls →
      Valid n ⟨true, true, calls, List.range k⟩
  | finished {calls} : (∀ q ∈ calls, q = .lock ∨ q = .returned) → Valid n ⟨true, false, calls, List.range n⟩
  | leaving {calls h p} : calls[h]? = some p → p = .test ∨ p = .unlock →
      Others h (fun q => q = .lock ∨ q = .returned) calls → Valid n ⟨true, true, calls, List.range n⟩

section

variable {n : Nat} {o o' : OneShot} {i : Nat} {calls : List Point} {Q Q' : Point → Prop} {p q : Point}

theorem step_cases (h : o.step n i = some o') :
    ∃ p p' a, o.calls[i]? = some p ∧ o.advance n p = some (p', a) ∧ o' = { a with calls := o.calls.set i p' } := by
  obtain ⟨p, hp, h⟩ := Option.bind_eq_some_iff.mp h
  obtain ⟨⟨p', a⟩, ha, rfl⟩ := Option.map_eq_some_iff.mp h
  exact ⟨p, p', a, hp, ha, rfl⟩

theorem Others.of_all (h : ∀ q ∈ calls, Q q) : Others i Q calls := fun _ q _ hq => h q (List.mem_of_getElem? hq)

theorem Others.set (h : Others i Q calls) : Others i Q (calls.set i p) := by
  intro j q hj hq
  rw [List.getElem?_set_ne hj.symm] at hq
  exact h j q hj hq

theorem Others.all (h : Others i Q calls) (hp : Q p) : ∀ q ∈ calls.set i p, Q q := by
  intro q hq
  obtain ⟨j, hj⟩ := List.mem_iff_getElem?.mp hq
  by_cases hji : j = i
  · subst hji
    rw [List.getElem?_set] at hj
    split at hj
    · split at hj
      · cases hj
        exact hp
      · cases hj
    · contradiction
  · rw [List.getElem?_set_ne (Ne.symm hji)] at hj
    exact h j q hji hj

theorem getElem?_set_self_of (h : calls[i]? = some p) : (calls.set i q)[i]? = some q :=
  List.getElem?_set_self (List.getElem?_eq_some_iff.mp h).1

theorem Others.append (h : Others i Q calls) (hi : calls[i]? = some p) (hq : Q q) :
    (calls ++ [q])[i]? = some p ∧ Others i Q (calls ++ [q]) := by
  have hlt : i < calls.length := (List.getElem?_eq_some_iff.mp hi).1
  refine ⟨(List.getElem?_append_left hlt).trans hi, fun j r hj hr => ?_⟩
  rw [List.getElem?_append] at hr
  split at hr
  · exact h j r hj hr
  · rw [List.getElem?_singleton] at hr
    split at hr
    · cases hr
      exact hq
    · cases hr

theorem Valid.init : Valid n init := .idle fun q hq => by cases hq

theorem Valid.call (h : Valid n o) : Valid n o.call := by
  cases h with
  | idle hall => exact .idle fun q hq => by simpa using (List.mem_append.mp hq).imp_left (hall q)
  | testing hh hothers =>
    obtain ⟨hh, hothers⟩ := hothers.append hh rfl
    exact .testing hh hothers
  | running hh hk hothers =>
    obtain ⟨hh, hothers⟩ := hothers.append hh rfl
    exact .running hh hk hothers
  | finished hall =>
    refine .finished fun q hq => ?_
    rcases List.mem_append.mp hq with hq | hq
    · exact hall q hq
    · exact .inl (List.mem_singleton.mp hq)
  | leaving hh hp hothers =>
    obtain ⟨hh, hothers⟩ := hothers.append hh (.inl rfl)
    exact .leaving hh hp hothers

theorem Valid.next {k : Nat} (hh : calls[i]? = some p) (hk : k ≤ n) (hothers : Others i (· = .lock) calls) :
    Valid n ⟨true, true, calls.set i (nextPart n k), List.range k⟩ := by
  unfold nextPart
  split
  · next hlt => exact .running (getElem?_set_self_of hh) hlt hothers.set
  · next hge =>
    obtain rfl : k = n := by omega
    exact .leaving (getElem?_set_self_of hh) (.inr rfl) fun j q hj hq => .inl (hothers.set j q hj hq)

theorem Valid.step (h : Valid n o) (hs : o.step n i = some o') : Valid n o' := by
  obtain ⟨p, p', a, hp, ha, rfl⟩ := step_cases hs
  cases h with
  | idle hall =>
    obtain rfl := hall p (List.mem_of_getElem? hp)
    cases ha
    exact .testing (getElem?_set_self_of hp) (Others.of_all hall).set
  | @testing calls h hh hothers =>
    by_cases hi : i = h
    · subst hi
      cases hh.symm.trans hp
      cases ha
      exact Valid.next (k := 0) hp (Nat.zero_le n) hothers
    · -- the mutex is taken
      obtain rfl := hothers i p hi hp
      cases ha
  | @running calls h k hh hk hothers =>
    by_cases hi : i = h
    · subst hi
      cases hh.symm.trans hp
      cases ha
      rw [← List.range_succ]
      exact Valid.next hp hk hothers
    · obtain rfl := hothers i p hi hp
      cases ha
  | finished hall =>
    rcases hall p (List.mem_of_getElem? hp) with rfl | rfl
    · cases ha
      exact .leaving (getElem?_set_self_of hp) (.inl rfl) (Others.of_all hall).set
    · cases ha
  | @leaving calls h q hh hq hothers =>
    by_cases hi : i = h
    · subst hi
      cases hh.symm.trans hp
      rcases hq with rfl | rfl
      · cases ha
        exact .leaving (getElem?_set_self_of hp) (.inr rfl) hothers.set
      · cases ha
        exact .finished (hothers.all (.inr rfl))
    · rcases hothers i p hi hp with rfl | rfl <;> cases ha

theorem Valid.log_prefix (h : Valid n o) : o.log <+: List.range n := by
  cases h with
  | idle | testing => exact List.nil_prefix
  | @running _ _ k _ hk _ =>
    have htake := List.take_prefix k (List.range n)
    rwa [List.take_range, Nat.min_eq_left (Nat.le_of_lt hk)] at htake
  | finished | leaving => exact List.prefix_rfl

theorem Valid.returned (h : Valid n o) (hr : .returned ∈ o.calls) : o.log = List.range n := by
  obtain ⟨j, hj⟩ := List.mem_iff_getElem?.mp hr
  have hlock : ∀ {h : Nat} {calls : List Point} {p : Point}, calls[h]? = some p → p ≠ .returned →
      Others h (· = .lock) calls → calls[j]? ≠ some .returned := by
    intro h calls p hh hp hothers hj
    by_cases hjh : j = h
    · exact hp (Option.some.inj (hh.symm.trans (hjh ▸ hj)))
    · cases hothers j _ hjh hj
  cases h with
  | idle hall => cases hall _ hr
  | testing hh hothers => exact absurd hj (hlock hh nofun hothers)
  | running hh hk hothers => exact absurd hj (hlock hh nofun hothers)
  | finished | leaving => rfl

theorem returned_step {j : Nat} (h : o.step n i = some o') (hj : o.calls[j]? = some .returned) :
    o'.calls[j]? = some .returned := by
  obtain ⟨p, p', a, hp, ha, rfl⟩ := step_cases h
  have hij : i ≠ j := by
    rintro rfl
    cases hp.symm.trans hj
    cases ha
  exact (List.getElem?_set_ne hij).trans hj

theorem returned_call {j : Nat} (hj : o.calls[j]? = some .returned) : o.call.calls[j]? = some .returned :=
  (List.getElem?_append_left (List.getElem?_eq_some_iff.mp hj).1).trans hj

theorem length_step (h : o.step n i = some o') : o'.calls.length = o.calls.length := by
  obtain ⟨p, p', a, -, -, rfl⟩ := step_cases h
  exact List.length_set

theorem work_nextPart (k : Nat) : (nextPart n k).work n ≤ n - k + 1 := by
  unfold nextPart
  split
  · exact Nat.le_refl _
  · exact Nat.le_add_left 1 _

theorem Valid.work_advance {p' : Point} {a : OneShot} (h : Valid n o) (hp : o.calls[i]? = some p)
    (ha : o.advance n p = some (p', a)) : p'.work n < p.work n := by
  cases p with
  | lock =>
    rw [advance] at ha
    split at ha
    · cases ha
    · cases ha
      exact Nat.lt_succ_self _
  | test =>
    cases ha
    split
    · exact Nat.lt_of_lt_of_le Nat.one_lt_two (Nat.le_add_left 2 n)
    · exact Nat.lt_of_le_of_lt (work_nextPart 0) (by simp [Point.work])
  | part k =>
    cases ha
    have hk : k < n := by
      cases h with
      | idle hall => cases hall _ (List.mem_of_getElem? hp)
      | finished hall => simpa using hall _ (List.mem_of_getElem? hp)
      | @testing _ h hh hothers =>
        by_cases hih : i = h
        · cases hh.symm.trans (hih ▸ hp)
        · cases hothers i _ hih hp
      | @running _ h k' hh hk hothers =>
        by_cases hih : i = h
        · cases hh.symm.trans (hih ▸ hp)
          exact hk
        · cases hothers i _ hih hp
      | @leaving _ h q hh hq hothers =>
        by_cases hih : i = h
        · cases hh.symm.trans (hih ▸ hp)
          simp at hq
        · simpa using hothers i _ hih hp
    refine Nat.lt_of_le_of_lt (work_nextPart (k + 1)) ?_
    show n - (k + 1) + 1 < n - k + 1
    omega
  | unlock =>
    cases ha
    exact Nat.one_pos
  | returned => cases ha

theorem sum_set_lt {l : List Nat} {a b : Nat} (hi : l[i]? = some a) (h : b < a) : (l.set i b).sum < l.sum := by
  induction l generalizing i with
  | nil => cases hi
  | cons x xs ih =>
    cases i with
    | zero =>
      cases hi
      simpa using h
    | succ i => simpa using ih hi

theorem Valid.work_step (h : Valid n o) (hs : o.step n i = some o') : o'.work n < o.work n := by
  obtain ⟨p, p', a, hp, ha, rfl⟩ := step_cases hs
  have hlt := h.work_advance hp ha
  unfold OneShot.work
  rw [List.map_set]
  exact sum_set_lt (by rw [List.getElem?_map, hp, Option.map_some]) hlt

theorem work_call : o.call.work n = o.work n + (n + 3) := by
  simp [OneShot.work, OneShot.call, Point.work]

theorem Valid.progress (h : Valid n o) (hp : o.calls[i]? = some p) (hret : p ≠ .returned) :
    ∃ j o', o.step n j = some o' := by
  have hstep : ∀ {j : Nat} {q p' a}, o.calls[j]? = some q → o.advance n q = some (p', a) → ∃ j o', o.step n j = some o' := by
    intro j q p' a hq ha
    exact ⟨j, { a with calls := o.calls.set j p' }, by rw [OneShot.step, hq, Option.bind_some, ha, Option.map_some]⟩
  cases h with
  | idle hall =>
    obtain rfl := hall p (List.mem_of_getElem? hp)
    exact hstep hp rfl
  | testing hh | running hh => exact hstep hh rfl
  | finished hall =>
    obtain rfl := (hall p (List.mem_of_getElem? hp)).resolve_right hret
    exact hstep hp rfl
  | leaving hh hq =>
    rcases hq with rfl | rfl <;> exact hstep hh rfl

end

end OneShot

end Gr4ControlPlane.Interleaving
