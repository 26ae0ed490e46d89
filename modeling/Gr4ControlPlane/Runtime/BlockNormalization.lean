import Gr4ControlPlane.Runtime.BlockNames

namespace Gr4ControlPlane

variable {block block' parameters parameters' : PropertyMap} {key : Bytes} {value : Value} {name : Option Bytes}

def ParametersUsable (block : PropertyMap) : Prop :=
  ∀ value, block.find (ascii "parameters") = some value → ∃ parameters, value = .map parameters

structure Conserves (block block' : PropertyMap) : Prop where
  others : ∀ key, key ≠ ascii "id" → key ≠ ascii "parameters" → block'.find key = block.find key
  usable : ParametersUsable block'
  authored : ∀ key value, (blockMap block (ascii "parameters")).find key = some value →
    (blockMap block' (ascii "parameters")).find key = some value
  raw : ∀ key value, (blockMap block (ascii "parameters")).find key = none →
    (blockMap block (ascii "raw_parameters")).find key = some value →
      (blockMap block' (ascii "parameters")).find key = some value
  added : ∀ key value, (blockMap block' (ascii "parameters")).find key = some value →
    authoredParameter block key = none → key = ascii "name"
  id : block'.find (ascii "id") ≠ block.find (ascii "id") → ∃ text, text ≠ [] ∧
    block'.find (ascii "id") = some (.string text) ∧
      (parameterString block (ascii "block") = some text ∨
        block.find (ascii "id") = none ∧ parameterString block (ascii "block_type") = some text)

structure AlikeButShadowed (block block' : PropertyMap) : Prop where
  others : ∀ key, key ≠ ascii "raw_parameters" → block'.find key = block.find key
  unshadowed : ∀ key, (blockMap block (ascii "parameters")).find key = none →
    (blockMap block' (ascii "raw_parameters")).find key = (blockMap block (ascii "raw_parameters")).find key

theorem find_assignName_of_some (h : parameters.find key = some value) :
    (assignName parameters name).find key = some value := by
  unfold assignName
  split
  · exact h
  · exact h
  · next text _ =>
    split
    · exact h
    · next hcontains =>
      have hkey : key ≠ ascii "name" := by
        rintro rfl
        exact hcontains (by rw [PropertyMap.contains, h]; rfl)
      rw [PropertyMap.find_insertOrAssign_of_ne _ _ hkey, h]

theorem find_assignName_of_ne (h : key ≠ ascii "name") : (assignName parameters name).find key = parameters.find key := by
  unfold assignName
  split
  · rfl
  · rfl
  · split
    · rfl
    · exact PropertyMap.find_insertOrAssign_of_ne _ _ h

theorem find_assignName_congr (h : ∀ key, parameters'.find key = parameters.find key) (key : Bytes) :
    (assignName parameters' name).find key = (assignName parameters name).find key := by
  unfold assignName PropertyMap.contains
  rw [h]
  split
  · exact h key
  · exact h key
  · split
    · exact h key
    · next text _ _ =>
      by_cases hkey : key = ascii "name"
      · subst hkey
        rw [PropertyMap.find_insertOrAssign_self, PropertyMap.find_insertOrAssign_self]
      · rw [PropertyMap.find_insertOrAssign_of_ne _ _ hkey, PropertyMap.find_insertOrAssign_of_ne _ _ hkey, h]

theorem find_namedParameters_of_some (h : authoredParameter block key = some value) :
    (namedParameters block).find key = some value :=
  find_assignName_of_some (find_assignName_of_some (find_mergedParameters.trans h))

theorem find_namedParameters_of_ne (h : key ≠ ascii "name") :
    (namedParameters block).find key = authoredParameter block key := by
  rw [namedParameters, find_assignName_of_ne h, find_assignName_of_ne h, find_mergedParameters]

theorem assignId_usable {text : Bytes} (h : text ≠ []) :
    (assignId block (some text)).find (ascii "id") = some (.string text) := by
  cases text with
  | nil => exact absurd rfl h
  | cons byte text => exact PropertyMap.find_insertOrAssign_self _ _ _

theorem find_assignId_id {blockType : Option Bytes}
    (h : (assignId block blockType).find (ascii "id") ≠ block.find (ascii "id")) :
    ∃ text, text ≠ [] ∧ blockType = some text ∧
      (assignId block blockType).find (ascii "id") = some (.string text) := by
  cases blockType with
  | none => exact absurd rfl h
  | some text =>
    cases text with
    | nil => exact absurd rfl h
    | cons byte text => exact ⟨_, List.cons_ne_nil _ _, rfl, assignId_usable (List.cons_ne_nil _ _)⟩

theorem find_resolveId_id (h : (resolveId block).find (ascii "id") ≠ block.find (ascii "id")) :
    ∃ text, text ≠ [] ∧ (resolveId block).find (ascii "id") = some (.string text) ∧
      (parameterString block (ascii "block") = some text ∨
        block.find (ascii "id") = none ∧ parameterString block (ascii "block_type") = some text) := by
  have htype : parameterString (assignId block (parameterString block (ascii "block"))) (ascii "block_type") =
      parameterString block (ascii "block_type") := parameterString_congr (find_assignId (by decide))
  unfold resolveId at h ⊢
  dsimp only at h ⊢
  rw [htype] at h ⊢
  by_cases hblock : (assignId block (parameterString block (ascii "block"))).find (ascii "id") = block.find (ascii "id")
  · -- `block` did not change the id, so only an absent one is taken from `block_type`
    split at h
    · exact absurd hblock h
    · next habsent =>
      have hnone : block.find (ascii "id") = none := by
        rw [PropertyMap.contains, hblock] at habsent
        simpa using habsent
      rw [if_neg habsent]
      rw [← hblock] at h
      obtain ⟨text, hne, heq, hfind⟩ := find_assignId_id h
      exact ⟨text, hne, hfind, .inr ⟨hnone, heq⟩⟩
  · obtain ⟨text, hne, heq, hfind⟩ := find_assignId_id hblock
    have hcontains : (assignId block (parameterString block (ascii "block"))).contains (ascii "id") := by
      rw [PropertyMap.contains, hfind]
      rfl
    rw [if_pos hcontains]
    exact ⟨text, hne, hfind, .inl heq⟩

theorem normalizeBlock_usable (h : ParametersUsable block) : ParametersUsable (normalizeBlock block) := by
  rw [normalizeBlock_eq]
  split
  · intro value hvalue
    rw [find_resolveId (by decide)] at hvalue
    exact h value hvalue
  · intro value hvalue
    rw [PropertyMap.find_insertOrAssign_self] at hvalue
    exact ⟨_, (Option.some.inj hvalue).symm⟩

theorem normalizeBlock_conserves (h : ParametersUsable block) : Conserves block (normalizeBlock block) where
  others key hid hparameters := find_normalizeBlock hid hparameters
  usable := normalizeBlock_usable h
  authored key value hfind := by
    rw [blockMap_normalizeBlock]
    apply find_namedParameters_of_some
    rw [authoredParameter, hfind, Option.some_or]
  raw key value hnone hfind := by
    rw [blockMap_normalizeBlock]
    apply find_namedParameters_of_some
    rw [authoredParameter, hnone, Option.none_or, hfind]
  added key value hfind hnone := by
    by_contra hkey
    rw [blockMap_normalizeBlock, find_namedParameters_of_ne hkey, hnone] at hfind
    cases hfind
  id hne := by
    rw [id_normalizeBlock] at hne ⊢
    exact find_resolveId_id hne

theorem AlikeButShadowed.authoredParameter (h : AlikeButShadowed block block') (key : Bytes) :
    authoredParameter block' key = authoredParameter block key := by
  unfold Gr4ControlPlane.authoredParameter
  rw [blockMap_congr (h.others (ascii "parameters") (by decide))]
  cases hfind : (blockMap block (ascii "parameters")).find key with
  | none => rw [h.unshadowed key hfind]
  | some value => rfl

theorem AlikeButShadowed.namedParameters (h : AlikeButShadowed block block') (key : Bytes) :
    (namedParameters block').find key = (namedParameters block).find key := by
  have htext : ∀ key, key ≠ ascii "raw_parameters" → parameterString block' key = parameterString block key :=
    fun key hkey => parameterString_congr (h.others key hkey)
  have hfirst : firstName block' [ascii "instance_name", ascii "name"] =
      firstName block [ascii "instance_name", ascii "name"] := by
    simp only [firstName, htext (ascii "instance_name") (by decide), htext (ascii "name") (by decide)]
  unfold Gr4ControlPlane.namedParameters
  rw [htext (ascii "id") (by decide), hfirst]
  apply find_assignName_congr
  apply find_assignName_congr
  intro key
  rw [find_mergedParameters, find_mergedParameters, h.authoredParameter]

theorem find_assignId_congr {blockType : Option Bytes} (h : block'.find key = block.find key) :
    (assignId block' blockType).find key = (assignId block blockType).find key := by
  unfold assignId
  split
  · exact h
  · exact h
  · by_cases hkey : key = ascii "id"
    · subst hkey
      rw [PropertyMap.find_insertOrAssign_self, PropertyMap.find_insertOrAssign_self]
    · rw [PropertyMap.find_insertOrAssign_of_ne _ _ hkey, PropertyMap.find_insertOrAssign_of_ne _ _ hkey, h]

theorem AlikeButShadowed.id (h : AlikeButShadowed block block') :
    (resolveId block').find (ascii "id") = (resolveId block).find (ascii "id") := by
  have hblock : parameterString block' (ascii "block") = parameterString block (ascii "block") :=
    parameterString_congr (h.others _ (by decide))
  have hkept : ∀ key, key ≠ ascii "raw_parameters" →
      (assignId block' (parameterString block (ascii "block"))).find key =
        (assignId block (parameterString block (ascii "block"))).find key :=
    fun key hkey => find_assignId_congr (h.others key hkey)
  unfold resolveId PropertyMap.contains
  dsimp only
  rw [hblock, hkept (ascii "id") (by decide), parameterString_congr (hkept (ascii "block_type") (by decide))]
  split
  · exact hkept (ascii "id") (by decide)
  · exact find_assignId_congr (hkept (ascii "id") (by decide))

/-- A block keeps what its author wrote, and a raw parameter counts only where there is no other. -/
theorem normalizeBlock_conservative (h : ParametersUsable block) :
    Conserves block (normalizeBlock block) ∧
      ∀ block', AlikeButShadowed block block' →
        (normalizeBlock block').find (ascii "id") = (normalizeBlock block).find (ascii "id") ∧
        ∀ key, (blockMap (normalizeBlock block') (ascii "parameters")).find key =
          (blockMap (normalizeBlock block) (ascii "parameters")).find key := by
  refine ⟨normalizeBlock_conserves h, fun block' hblock' => ⟨?_, fun key => ?_⟩⟩
  · rw [id_normalizeBlock, id_normalizeBlock, hblock'.id]
  · rw [blockMap_normalizeBlock, blockMap_normalizeBlock, hblock'.namedParameters]

def rawSink : PropertyMap :=
  [(ascii "id", .string (ascii "node0")), (ascii "block", .string (ascii "FileSink")),
    (ascii "parameters", .map [(ascii "rate", .integer 1)]),
    (ascii "raw_parameters", .map [(ascii "rate", .integer 2), (ascii "size", .integer 3)])]

theorem normalizeBlock_conservative_raw : Conserves rawSink (normalizeBlock rawSink) := by
  refine (normalizeBlock_conservative ?_).1
  intro value hvalue
  have hparameters : rawSink.find (ascii "parameters") = some (.map [(ascii "rate", .integer 1)]) := rfl
  rw [hparameters] at hvalue
  exact ⟨_, (Option.some.inj hvalue).symm⟩

end Gr4ControlPlane
