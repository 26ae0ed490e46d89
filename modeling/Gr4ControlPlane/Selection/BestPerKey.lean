import Gr4ControlPlane.Selection.Comparison
import Mathlib.Data.List.Nodup

/-! The best element of each key, kept while going through a list. -/

namespace Gr4ControlPlane.Selection

variable {α κ τ : Type} {key : α → κ} {better : α → α → Prop} {tag : α → τ} {a b : α} {seen kept xs : List α}

def improve [DecidableEq κ] (key : α → κ) (better : α → α → Prop) [DecidableRel better] (a : α) : List α → List α
  | [] => []
  | b :: kept => if key b = key a then (if better a b then a else b) :: kept else b :: improve key better a kept

def keepBest [DecidableEq κ] (key : α → κ) (better : α → α → Prop) [DecidableRel better] (kept : List α) (a : α) : List α :=
  if key a ∈ kept.map key then improve key better a kept else kept ++ [a]

structure BestPerKey (key : α → κ) (better : α → α → Prop) (seen kept : List α) : Prop where
  keys : (kept.map key).Nodup
  among : ∀ a ∈ kept, a ∈ seen
  best : ∀ a ∈ seen, ∃ b ∈ kept, key b = key a ∧ (b = a ∨ better b a)

namespace BestPerKey

theorem nil : BestPerKey key better [] [] := ⟨List.nodup_nil, nofun, nofun⟩

theorem append_new (h : BestPerKey key better seen kept) (hnew : key a ∉ kept.map key) :
    BestPerKey key better (seen ++ [a]) (kept ++ [a]) where
  keys := by
    rw [List.map_append, List.nodup_append]
    refine ⟨h.keys, List.nodup_singleton _, ?_⟩
    rintro k hk _ hmem rfl
    rw [List.map_singleton, List.mem_singleton] at hmem
    exact hnew (hmem ▸ hk)
  among b hb := by
    rcases List.mem_append.mp hb with hb | hb
    · exact List.mem_append_left _ (h.among b hb)
    · exact List.mem_append_right _ hb
  best b hb := by
    rcases List.mem_append.mp hb with hb | hb
    · obtain ⟨c, hc, hbest⟩ := h.best b hb
      exact ⟨c, List.mem_append_left _ hc, hbest⟩
    · exact ⟨b, List.mem_append_right _ hb, rfl, .inl rfl⟩

theorem of_mem_iff {seen' : List α} (h : BestPerKey key better seen kept) (hmem : ∀ a, a ∈ seen' ↔ a ∈ seen) :
    BestPerKey key better seen' kept :=
  ⟨h.keys, fun a ha => (hmem a).mpr (h.among a ha), fun a ha => h.best a ((hmem a).mp ha)⟩

theorem perm {kept' : List α} (h : BestPerKey key better seen kept) (hperm : kept'.Perm kept) :
    BestPerKey key better seen kept' where
  keys := (hperm.map key).nodup_iff.mpr h.keys
  among a ha := h.among a (hperm.mem_iff.mp ha)
  best a ha := by
    obtain ⟨b, hb, hbest⟩ := h.best a ha
    exact ⟨b, hperm.mem_iff.mpr hb, hbest⟩

theorem mem_of_mem {kept' : List α} (order : StrictOrderBy better tag) (h : BestPerKey key better seen kept)
    (h' : BestPerKey key better seen kept') (hb : b ∈ kept) : b ∈ kept' := by
  obtain ⟨c, hc, hckey, hcbest⟩ := h'.best b (h.among b hb)
  obtain ⟨d, hd, hdkey, hdbest⟩ := h.best c (h'.among c hc)
  obtain rfl : d = b := List.inj_on_of_nodup_map h.keys hd hb (hdkey.trans hckey)
  rcases hcbest with rfl | hcbest
  · exact hc
  · rcases hdbest with rfl | hdbest
    · exact hc
    · exact absurd hdbest (order.asymm c d hcbest)

theorem unique {kept' : List α} (order : StrictOrderBy better tag) (h : BestPerKey key better seen kept)
    (h' : BestPerKey key better seen kept') : kept.Perm kept' :=
  (List.perm_ext_iff_of_nodup h.keys.of_map h'.keys.of_map).mpr fun _ => ⟨h.mem_of_mem order h', h'.mem_of_mem order h⟩

variable [DecidableRel better]

theorem replace {before after : List α} (order : StrictOrderBy better tag) (hkey : key b = key a) (hne : tag b ≠ tag a)
    (h : BestPerKey key better seen (before ++ b :: after)) :
    BestPerKey key better (seen ++ [a]) (before ++ (if better a b then a else b) :: after) where
  keys := by
    have hkeys := h.keys
    rw [List.map_append, List.map_cons] at hkeys ⊢
    split
    · rw [← hkey]
      exact hkeys
    · exact hkeys
  among c hc := by
    rcases List.mem_append.mp hc with hc | hc
    · exact List.mem_append_left _ (h.among c (List.mem_append_left _ hc))
    · rcases List.mem_cons.mp hc with rfl | hc
      · split
        · exact List.mem_append_right _ (List.mem_singleton_self _)
        · exact List.mem_append_left _ (h.among b (List.mem_append_right _ List.mem_cons_self))
      · exact List.mem_append_left _ (h.among c (List.mem_append_right _ (List.mem_cons_of_mem _ hc)))
  best c hc := by
    have hplace : (if better a b then a else b) ∈ before ++ (if better a b then a else b) :: after :=
      List.mem_append_right _ List.mem_cons_self
    rcases List.mem_append.mp hc with hc | hc
    · obtain ⟨d, hd, hdkey, hbest⟩ := h.best c hc
      by_cases hdb : d = b
      · -- the best so far gave way to something better still
        subst hdb
        refine ⟨_, hplace, ?_⟩
        split
        · next hbetter =>
          refine ⟨hkey ▸ hdkey, .inr ?_⟩
          rcases hbest with rfl | hbest
          · exact hbetter
          · exact order.trans hbetter hbest
        · exact ⟨hdkey, hbest⟩
      · refine ⟨d, ?_, hdkey, hbest⟩
        rcases List.mem_append.mp hd with hd | hd
        · exact List.mem_append_left _ hd
        · exact List.mem_append_right _ (List.mem_cons_of_mem _ ((List.mem_cons.mp hd).resolve_left hdb))
    · obtain rfl := List.mem_singleton.mp hc
      refine ⟨_, hplace, ?_⟩
      split
      · exact ⟨rfl, .inl rfl⟩
      · next hbetter => exact ⟨hkey, .inr ((order.total b c hne).resolve_right hbetter)⟩

variable [DecidableEq κ]

theorem map_key_improve (a : α) (kept : List α) : (improve key better a kept).map key = kept.map key := by
  induction kept with
  | nil => rfl
  | cons b kept ih =>
    unfold improve
    split
    · next hkey => split <;> simp [hkey]
    · rw [List.map_cons, List.map_cons, ih]

variable (better) in
theorem improve_split (h : key a ∈ kept.map key) : ∃ before b after, kept = before ++ b :: after ∧ key b = key a ∧
    improve key better a kept = before ++ (if better a b then a else b) :: after := by
  induction kept with
  | nil => cases h
  | cons b kept ih =>
    by_cases hb : key b = key a
    · exact ⟨[], b, kept, rfl, hb, by rw [improve, if_pos hb]; rfl⟩
    · have hrest : key a ∈ kept.map key := (List.mem_cons.mp h).resolve_left (Ne.symm hb)
      obtain ⟨before, b', after, rfl, hkey, heq⟩ := ih hrest
      exact ⟨b :: before, b', after, rfl, hkey, by rw [improve, if_neg hb, heq]; rfl⟩

theorem step (order : StrictOrderBy better tag) (hne : ∀ b ∈ seen, tag b ≠ tag a) (h : BestPerKey key better seen kept) :
    BestPerKey key better (seen ++ [a]) (keepBest key better kept a) := by
  unfold keepBest
  split
  · next hmem =>
    obtain ⟨before, b, after, rfl, hkey, heq⟩ := improve_split better hmem
    rw [heq]
    exact h.replace order hkey (hne b (h.among b (List.mem_append_right _ List.mem_cons_self)))
  · next hnew => exact h.append_new hnew

theorem foldl (order : StrictOrderBy better tag) (htags : ((seen ++ xs).map tag).Nodup)
    (h : BestPerKey key better seen kept) :
    BestPerKey key better (seen ++ xs) (xs.foldl (keepBest key better) kept) := by
  induction xs generalizing seen kept with
  | nil => rwa [List.append_nil]
  | cons a xs ih =>
    rw [List.append_cons] at htags ⊢
    refine ih htags (h.step order fun b hb heq => ?_)
    rw [List.map_append, List.map_append, List.nodup_append, List.nodup_append] at htags
    exact htags.1.2.2 _ (List.mem_map_of_mem hb) _ (List.mem_singleton_self _) heq

end BestPerKey

end Gr4ControlPlane.Selection
