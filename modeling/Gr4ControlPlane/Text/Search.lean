import Mathlib.Data.List.Basic

namespace Gr4ControlPlane.Text

variable {α : Type} {p : α → Bool} {a : α} {text before after : List α}

def findFirst (p : α → Bool) (text : List α) : Option Nat := text.findIdx? p

def findLast (p : α → Bool) : List α → Option Nat
  | [] => none
  | a :: text =>
    match findLast p text with
    | some i => some (i + 1)
    | none => if p a then some 0 else none

theorem findFirst_append_cons (hbefore : ∀ b ∈ before, p b = false) (ha : p a = true) :
    findFirst p (before ++ a :: after) = some before.length := by
  unfold findFirst
  rw [List.findIdx?_append, List.findIdx?_eq_none_iff.mpr hbefore, List.findIdx?_cons, if_pos ha]
  simp

theorem findLast_eq_none : findLast p text = none ↔ ∀ b ∈ text, p b = false := by
  induction text with
  | nil => simp [findLast]
  | cons a text ih =>
    rw [List.forall_mem_cons, ← ih, findLast]
    cases findLast p text <;> simp

theorem findLast_append_cons (ha : p a = true) (hafter : ∀ b ∈ after, p b = false) :
    findLast p (before ++ a :: after) = some before.length := by
  induction before with
  | nil =>
    rw [List.nil_append, findLast, findLast_eq_none.mpr hafter]
    simp [ha]
  | cons b before ih => rw [List.cons_append, findLast, ih, List.length_cons]

theorem append_cons_inj_of_last {before' after' : List α} {a' : α} (h : before ++ a :: after = before' ++ a' :: after')
    (ha : p a = true) (ha' : p a' = true) (hafter : ∀ b ∈ after, p b = false) (hafter' : ∀ b ∈ after', p b = false) :
    before = before' ∧ a = a' ∧ after = after' := by
  have hlength : before.length = before'.length := by
    have hfound := @findLast_append_cons _ p a before after ha hafter
    rw [h, findLast_append_cons ha' hafter', Option.some.injEq] at hfound
    exact hfound.symm
  obtain ⟨rfl, heq⟩ := List.append_inj h hlength
  obtain ⟨rfl, rfl⟩ := List.cons.inj heq
  exact ⟨rfl, rfl, rfl⟩

theorem exists_first (h : ∃ b ∈ text, p b = true) : ∃ before a after, text = before ++ a :: after ∧ p a = true ∧
    ∀ b ∈ before, p b = false := by
  induction text with
  | nil =>
    obtain ⟨b, hb, -⟩ := h
    cases hb
  | cons c text ih =>
    cases hc : p c with
    | true => exact ⟨[], c, text, rfl, hc, nofun⟩
    | false =>
      obtain ⟨b, hb, hpb⟩ := h
      rcases List.mem_cons.mp hb with rfl | hb
      · rw [hc] at hpb
        cases hpb
      · obtain ⟨before, a, after, rfl, ha, hbefore⟩ := ih ⟨b, hb, hpb⟩
        exact ⟨c :: before, a, after, rfl, ha, List.forall_mem_cons.mpr ⟨hc, hbefore⟩⟩

theorem exists_last (h : ∃ b ∈ text, p b = true) : ∃ before a after, text = before ++ a :: after ∧ p a = true ∧
    ∀ b ∈ after, p b = false := by
  obtain ⟨b, hb, hpb⟩ := h
  obtain ⟨after, a, before, heq, ha, hafter⟩ := exists_first ⟨b, List.mem_reverse.mpr hb, hpb⟩
  refine ⟨before.reverse, a, after.reverse, ?_, ha, fun c hc => hafter c (List.mem_reverse.mp hc)⟩
  rw [← List.reverse_reverse text, heq]
  simp

end Gr4ControlPlane.Text
