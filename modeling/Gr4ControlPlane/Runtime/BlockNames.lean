import Gr4ControlPlane.Domain.StreamContract
import Gr4ControlPlane.Runtime.GraphContentLaws

namespace Gr4ControlPlane

variable {block : PropertyMap} {key : Bytes} {normalized : NormalizedBlock}

def textOf (block : PropertyMap) (key : Bytes) : Bytes := (parameterString block key).getD []

theorem nonempty_iff {name : Option Bytes} : nonempty name ↔ name.getD [] ≠ [] := by
  cases name with
  | none => simp [nonempty]
  | some name => simp [nonempty]

def resolveId (block : PropertyMap) : PropertyMap :=
  let block := assignId block (parameterString block (ascii "block"))
  if block.contains (ascii "id") then block
  else assignId block (parameterString block (ascii "block_type"))

def namedParameters (block : PropertyMap) : PropertyMap :=
  assignName (assignName (mergedParameters block) (parameterString block (ascii "id")))
    (firstName block [ascii "instance_name", ascii "name"])

theorem find_assignId {blockType : Option Bytes} (h : key ≠ ascii "id") :
    (assignId block blockType).find key = block.find key := by
  unfold assignId
  split
  · rfl
  · rfl
  · exact PropertyMap.find_insertOrAssign_of_ne _ _ h

theorem find_resolveId (h : key ≠ ascii "id") : (resolveId block).find key = block.find key := by
  unfold resolveId
  dsimp only
  split
  · exact find_assignId h
  · rw [find_assignId h, find_assignId h]

theorem parameterString_congr {block' : PropertyMap} (h : block'.find key = block.find key) :
    parameterString block' key = parameterString block key := by
  unfold parameterString
  rw [h]

theorem blockMap_congr {block' : PropertyMap} (h : block'.find key = block.find key) :
    blockMap block' key = blockMap block key := by
  unfold blockMap
  rw [h]

theorem normalizeBlock_eq (block : PropertyMap) :
    normalizeBlock block =
      if (namedParameters block).isEmpty then resolveId block
      else (resolveId block).insertOrAssign (ascii "parameters") (.map (namedParameters block)) := by
  have hparameters : ascii "parameters" ≠ ascii "id" := by decide
  have hraw : ascii "raw_parameters" ≠ ascii "id" := by decide
  have hinstance : ascii "instance_name" ≠ ascii "id" := by decide
  have hname : ascii "name" ≠ ascii "id" := by decide
  have hmerged : mergedParameters (resolveId block) = mergedParameters block := by
    unfold mergedParameters
    rw [blockMap_congr (find_resolveId hparameters), blockMap_congr (find_resolveId hraw)]
  have hfirst : firstName (resolveId block) [ascii "instance_name", ascii "name"] =
      firstName block [ascii "instance_name", ascii "name"] := by
    simp only [firstName, parameterString_congr (find_resolveId hinstance),
      parameterString_congr (find_resolveId hname)]
  unfold namedParameters
  rw [← hmerged, ← hfirst]
  rfl

theorem blockMap_eq_nil (h : namedParameters block = []) : blockMap block (ascii "parameters") = [] := by
  have hassign : ∀ {parameters : PropertyMap} {name : Option Bytes}, assignName parameters name = [] → parameters = [] := by
    intro parameters name h
    unfold assignName at h
    split at h
    · exact h
    · exact h
    · split at h
      · exact h
      · next text _ _ =>
        have hfind := PropertyMap.find_insertOrAssign_self parameters (ascii "name") (.string text)
        rw [h] at hfind
        cases hfind
  have hmerged : mergedParameters block = [] := hassign (hassign h)
  cases hb : blockMap block (ascii "parameters") with
  | nil => rfl
  | cons e parameters =>
    obtain ⟨key, value⟩ := e
    have hfind : (mergedParameters block).find key = some value := by
      rw [find_mergedParameters, authoredParameter, hb, PropertyMap.find_cons_self, Option.some_or]
    rw [hmerged] at hfind
    cases hfind

theorem blockMap_normalizeBlock :
    blockMap (normalizeBlock block) (ascii "parameters") = namedParameters block := by
  have hparameters : ascii "parameters" ≠ ascii "id" := by decide
  rw [normalizeBlock_eq]
  split
  · next h =>
    have hnil : namedParameters block = [] := List.isEmpty_iff.mp h
    rw [blockMap_congr (find_resolveId hparameters), blockMap_eq_nil hnil, hnil]
  · unfold blockMap
    rw [PropertyMap.find_insertOrAssign_self]
    rfl

theorem find_normalizeBlock (hid : key ≠ ascii "id") (hparameters : key ≠ ascii "parameters") :
    (normalizeBlock block).find key = block.find key := by
  rw [normalizeBlock_eq]
  split
  · exact find_resolveId hid
  · rw [PropertyMap.find_insertOrAssign_of_ne _ _ hparameters, find_resolveId hid]

theorem firstName_getD (candidate : Bytes) (candidates : List Bytes) :
    (firstName block (candidate :: candidates)).getD [] =
      if textOf block candidate ≠ [] then textOf block candidate else (firstName block candidates).getD [] := by
  rw [firstName, textOf]
  by_cases h : nonempty (parameterString block candidate)
  · rw [if_pos h, if_pos (nonempty_iff.mp h)]
  · rw [if_neg h, if_neg (fun hne => h (nonempty_iff.mpr hne))]

theorem candidateName_getD {name : Option Bytes} (candidates : List Bytes) (h : name.getD [] = []) :
    (candidateName block name candidates).getD [] = (firstName block candidates).getD [] := by
  induction candidates generalizing name with
  | nil => simpa [candidateName, firstName] using h
  | cons candidate candidates ih =>
    rw [firstName_getD]
    unfold candidateName textOf parameterString
    cases hfind : block.find candidate with
    | none => simpa using ih h
    | some value =>
      by_cases hv : nonempty value.valueToString
      · simp [hv, nonempty_iff.mp hv]
      · have hnil : value.valueToString.getD [] = [] := by simpa [nonempty_iff] using hv
        simp [hv, hnil, ih hnil]

theorem assignName_contains {parameters : PropertyMap} {name : Option Bytes} (h : parameters.contains (ascii "name")) :
    assignName parameters name = parameters := by
  unfold assignName
  split
  · rfl
  · rfl
  · rw [if_pos h]

theorem assignName_unusable {parameters : PropertyMap} {name : Option Bytes} (h : name.getD [] = []) :
    assignName parameters name = parameters := by
  match name with
  | none | some [] => rfl
  | some (byte :: name) => cases h

theorem find_assignName {parameters : PropertyMap} {name : Option Bytes}
    (hfind : parameters.find (ascii "name") = none) (h : name.getD [] ≠ []) :
    (assignName parameters name).find (ascii "name") = some (.string (name.getD [])) := by
  match name with
  | none | some [] => exact absurd rfl h
  | some (byte :: name) =>
    have hcontains : parameters.contains (ascii "name") = false := by simp [PropertyMap.contains, hfind]
    simp only [assignName, hcontains, Bool.false_eq_true, if_false, PropertyMap.find_insertOrAssign_self]
    rfl

def ownName (block : PropertyMap) : Bytes :=
  if textOf block (ascii "instance_name") ≠ [] then textOf block (ascii "instance_name")
  else textOf block (ascii "name")

theorem firstName_eq_ownName :
    (firstName block [ascii "instance_name", ascii "name"]).getD [] = ownName block := by
  rw [firstName_getD, firstName_getD, ownName]
  by_cases h : textOf block (ascii "name") = []
  · simp [h, firstName]
  · simp [h]

theorem textOf_namedParameters :
    textOf (namedParameters block) (ascii "name") =
      match authoredParameter block (ascii "name") with
      | some value => value.valueToString.getD []
      | none => if textOf block (ascii "id") ≠ [] then textOf block (ascii "id") else ownName block := by
  rw [← find_mergedParameters, namedParameters]
  cases hfind : (mergedParameters block).find (ascii "name") with
  | some value =>
    have hcontains : (mergedParameters block).contains (ascii "name") := by simp [PropertyMap.contains, hfind]
    rw [assignName_contains hcontains, assignName_contains hcontains, textOf, parameterString, hfind]
    rfl
  | none =>
    by_cases hid : textOf block (ascii "id") = []
    · rw [assignName_unusable hid, if_neg (not_not_intro hid)]
      by_cases hown : ownName block = []
      · rw [assignName_unusable (firstName_eq_ownName.trans hown), hown, textOf, parameterString, hfind]
        rfl
      · rw [textOf, parameterString, find_assignName hfind (firstName_eq_ownName ▸ hown), firstName_eq_ownName]
        rfl
    · have hfound := find_assignName hfind hid
      have hcontains : (assignName (mergedParameters block) (parameterString block (ascii "id"))).contains
          (ascii "name") := by simp [PropertyMap.contains, hfound]
      rw [assignName_contains hcontains, textOf, parameterString, hfound, if_pos hid]
      rfl

theorem textOf_absent (h : block.contains key = false) : textOf block key = [] := by
  unfold PropertyMap.contains at h
  unfold textOf parameterString
  rw [Option.isSome_eq_false_iff, Option.isNone_iff_eq_none] at h
  rw [h]
  rfl

theorem runtimeName_getD (block : PropertyMap) :
    (runtimeName block).getD [] =
      if textOf (blockMap block (ascii "parameters")) (ascii "name") ≠ [] then
        textOf (blockMap block (ascii "parameters")) (ascii "name")
      else textOf block (ascii "instance_name") := by
  unfold runtimeName
  dsimp only
  by_cases h : textOf (blockMap block (ascii "parameters")) (ascii "name") = []
  · rw [if_neg (fun hne => nonempty_iff.mp hne h), if_neg (not_not_intro h)]
    cases hcontains : block.contains (ascii "instance_name") with
    | true => rfl
    | false => rw [textOf_absent hcontains, if_neg (by decide)]; exact h
  · rw [if_pos (nonempty_iff.mpr h), if_pos h, textOf]

theorem runtimeName_normalizeBlock (block : PropertyMap) :
    (runtimeName (normalizeBlock block)).getD [] =
      match authoredParameter block (ascii "name") with
      | some value =>
        if value.valueToString.getD [] ≠ [] then value.valueToString.getD []
        else textOf block (ascii "instance_name")
      | none => if textOf block (ascii "id") ≠ [] then textOf block (ascii "id") else ownName block := by
  have hinstance : textOf (normalizeBlock block) (ascii "instance_name") = textOf block (ascii "instance_name") := by
    unfold textOf
    rw [parameterString_congr (find_normalizeBlock (by decide) (by decide))]
  rw [runtimeName_getD, blockMap_normalizeBlock, hinstance, textOf_namedParameters]
  cases authoredParameter block (ascii "name") with
  | some value => rfl
  | none =>
    dsimp only
    by_cases hid : textOf block (ascii "id") = []
    · by_cases hinst : textOf block (ascii "instance_name") = []
      · by_cases hname : textOf block (ascii "name") = [] <;> simp [ownName, hid, hinst, hname]
      · simp [ownName, hid, hinst]
    · simp [hid]

theorem instanceName_normalizeStreamBlock (h : normalizeStreamBlock block = some normalized) :
    normalized.instanceName =
      if ((authoredParameter block (ascii "name")).bind Value.valueToString).getD [] ≠ [] then
        ((authoredParameter block (ascii "name")).bind Value.valueToString).getD []
      else if textOf block (ascii "id") ≠ [] ∧ block.contains (ascii "block") then textOf block (ascii "id")
      else ownName block := by
  unfold normalizeStreamBlock at h
  dsimp only at h
  split at h
  · cases h
  · cases h
  · cases h
    have hname : (authoredParameter block (ascii "name")).bind Value.valueToString =
        parameterString (mergedParameters block) (ascii "name") := by
      rw [← find_mergedParameters, parameterString]
    rw [hname]
    generalize parameterString (mergedParameters block) (ascii "name") = name
    by_cases h : nonempty name
    · simp [h, nonempty_iff.mp h]
    · have hnil : name.getD [] = [] := by simpa [nonempty_iff] using h
      by_cases hid : nonempty (parameterString block (ascii "id")) ∧ block.contains (ascii "block")
      · simp [h, hnil, hid, textOf, nonempty_iff.mp hid.1]
      · have hid' : ¬ (textOf block (ascii "id") ≠ [] ∧ block.contains (ascii "block")) :=
          fun hne => hid ⟨nonempty_iff.mpr hne.1, hne.2⟩
        have hskip : (!nonempty name && nonempty (parameterString block (ascii "id")) &&
            block.contains (ascii "block")) = false := by
          rw [Bool.and_assoc, Bool.and_eq_false_iff]
          exact .inr (by simpa using hid)
        rw [if_neg (not_not_intro hnil), if_neg hid', hskip]
        simp only [Bool.false_eq_true, if_false, h]
        rw [candidateName_getD _ hnil, firstName_eq_ownName]

/-- Both normalizers give the block the same name: an authored one that is a text; or, where the
authored one is not, the block's `instance_name`, unless the planner prefers the studio's node id;
or, where none is authored, the node id, unless the planner takes it for the block's type. -/
def NamedAlike (block : PropertyMap) : Prop :=
  match authoredParameter block (ascii "name") with
  | some value => value.valueToString.getD [] ≠ [] ∨
      (textOf block (ascii "instance_name") ≠ [] ∧
        (textOf block (ascii "id") ≠ [] → block.contains (ascii "block") →
          textOf block (ascii "id") = textOf block (ascii "instance_name")))
  | none => textOf block (ascii "id") ≠ [] →
      block.contains (ascii "block") ∨ textOf block (ascii "id") = ownName block

theorem eq_some_iff_getD {name : Option Bytes} {text : Bytes} (h : text ≠ []) : name = some text ↔ name.getD [] = text := by
  cases name with
  | none => simp [Ne.symm h]
  | some name => simp

/-- A block with a valid stream goes by the planner's name at runtime exactly if it is `NamedAlike`. -/
theorem planner_names_runtime_block {seen seen' : List Bytes} (hnorm : normalizeStreamBlock block = some normalized)
    (hd : normalized.stream.declared = true) (hv : validateStreamBlock normalized seen = .ok seen') :
    runtimeName (normalizeBlock block) = some normalized.instanceName ↔ NamedAlike block := by
  have hne := ((validateStreamBlock_eq_ok hd).mp hv).1.instanceName
  rw [eq_some_iff_getD hne, runtimeName_normalizeBlock]
  rw [instanceName_normalizeStreamBlock hnorm] at hne ⊢
  unfold NamedAlike ownName at *
  generalize textOf block (ascii "instance_name") = instanceName at *
  generalize textOf block (ascii "name") = name at *
  generalize textOf block (ascii "id") = id at *
  generalize authoredParameter block (ascii "name") = authored at *
  cases authored with
  | some value =>
    by_cases hvalue : value.valueToString.getD [] = []
    · by_cases hid : id ≠ [] ∧ block.contains (ascii "block")
      · simp only [Option.bind_some, hvalue, ne_eq, not_true_eq_false, if_false, hid, not_false_eq_true, and_self,
          if_true, false_or, true_imp_iff]
        constructor
        · rintro rfl
          exact ⟨hid.1, rfl⟩
        · exact fun h => h.2.symm
      · have hkeep : id ≠ [] → block.contains (ascii "block") → id = instanceName :=
          fun h hblock => absurd ⟨h, hblock⟩ hid
        simp only [Option.bind_some, hvalue, ne_eq, not_true_eq_false, if_false, hid, false_or,
          and_iff_left hkeep] at hne ⊢
        by_cases hinst : instanceName = []
        · simpa [hinst, eq_comm] using hne
        · simp [hinst]
    · simp [hvalue]
  | none =>
    by_cases hid : id = []
    · simp [hid]
    · by_cases hblock : block.contains (ascii "block") <;> simp [hid, hblock]

def sinkParameters : Value :=
  .map [(ascii "transport", .string (ascii "http_poll")), (ascii "payload_format", .string (ascii "json"))]

def studioSink : PropertyMap :=
  [(ascii "id", .string (ascii "sink0")), (ascii "block", .string (ascii "FileSink")),
    (ascii "parameters", sinkParameters)]

theorem planner_names_runtime_block_studio :
    runtimeName (normalizeBlock studioSink) = some (ascii "sink0") ↔ NamedAlike studioSink :=
  planner_names_runtime_block
    (show normalizeStreamBlock studioSink = some ⟨ascii "FileSink", ascii "sink0",
      ⟨true, none, some (ascii "http_poll"), some (ascii "json")⟩⟩ by decide +kernel)
    rfl (show validateStreamBlock _ [] = .ok [ascii "sink0"] by decide +kernel)

def typedSink : PropertyMap :=
  [(ascii "id", .string (ascii "FileSink")), (ascii "instance_name", .string (ascii "sink0")),
    (ascii "parameters", sinkParameters)]

theorem planner_misnames_runtime_block :
    ¬ ∀ (block : PropertyMap) (normalized : NormalizedBlock) (seen seen' : List Bytes),
      normalizeStreamBlock block = some normalized → normalized.stream.declared = true →
        validateStreamBlock normalized seen = .ok seen' →
          runtimeName (normalizeBlock block) = some normalized.instanceName := by
  intro names
  have hnorm : normalizeStreamBlock typedSink = some ⟨ascii "FileSink", ascii "sink0",
      ⟨true, none, some (ascii "http_poll"), some (ascii "json")⟩⟩ := by decide +kernel
  have hv : validateStreamBlock ⟨ascii "FileSink", ascii "sink0",
      ⟨true, none, some (ascii "http_poll"), some (ascii "json")⟩⟩ [] = .ok [ascii "sink0"] := by decide +kernel
  have hname : runtimeName (normalizeBlock typedSink) = some (ascii "FileSink") := by decide +kernel
  have heq := names _ _ _ _ hnorm rfl hv
  rw [hname] at heq
  exact absurd heq (by decide)

def plannedType (block : PropertyMap) : Option Bytes :=
  (parameterString block (ascii "block")).or
    ((parameterString block (ascii "id")).or (parameterString block (ascii "block_type")))

theorem normalizeStreamBlock_isSome : (normalizeStreamBlock block).isSome ↔ nonempty (plannedType block) := by
  unfold normalizeStreamBlock plannedType
  dsimp only
  generalize (parameterString block (ascii "block")).or
    ((parameterString block (ascii "id")).or (parameterString block (ascii "block_type"))) = blockType
  rcases blockType with _ | _ | ⟨byte, text⟩ <;> simp [nonempty]

theorem stream_normalizeStreamBlock (h : normalizeStreamBlock block = some normalized) :
    normalized.stream = normalizeStreamIntent (mergedParameters block) := by
  unfold normalizeStreamBlock at h
  dsimp only at h
  split at h
  · cases h
  · cases h
  · cases h
    rfl

theorem id_normalizeBlock : (normalizeBlock block).find (ascii "id") = (resolveId block).find (ascii "id") := by
  rw [normalizeBlock_eq]
  split
  · rfl
  · exact PropertyMap.find_insertOrAssign_of_ne _ _ (by decide)

theorem assignId_unusable {blockType : Option Bytes} (h : ¬ nonempty blockType) : assignId block blockType = block := by
  match blockType, h with
  | none, _ | some [], _ => rfl
  | some (byte :: text), h => exact absurd rfl h

theorem plannedType_of_id (hid : nonempty (parameterString (normalizeBlock block) (ascii "id"))) :
    nonempty (plannedType block) ↔ parameterString block (ascii "block") ≠ some [] := by
  unfold plannedType
  cases hblock : parameterString block (ascii "block") with
  | some text =>
    cases text with
    | nil => simp [nonempty]
    | cons byte text => simp [nonempty]
  | none =>
    rw [Option.none_or]
    refine iff_of_true ?_ (by simp)
    have hkeep : assignId block (parameterString block (ascii "block")) = block :=
      assignId_unusable (by simp [hblock, nonempty])
    rw [parameterString_congr id_normalizeBlock, resolveId, hkeep] at hid
    split at hid
    · cases hs : parameterString block (ascii "id") with
      | none => simp [hs, nonempty] at hid
      | some text => simpa [hs] using hid
    · next habsent =>
      have hnone : parameterString block (ascii "id") = none := by
        have : block.find (ascii "id") = none := by simpa [PropertyMap.contains] using habsent
        simp [parameterString, this]
      rw [hnone, Option.none_or]
      by_contra hb
      rw [assignId_unusable hb, hnone] at hid
      cases hid

theorem planned_or_refused {yaml : YamlPmt} {session : Session} {values : List Value}
    (hb : graphBlocks yaml session = some values) (hmem : Value.map block ∈ values)
    (hnorm : normalizeStreamBlock block = some normalized) (hd : normalized.stream.declared = true) :
    (validateStreamRuntimeContract yaml session).isSome ∨
      ∃ plan, deriveStreamRuntimePlan yaml session = some plan ∧ bindingPlan session.id normalized ∈ plan.streams := by
  have hdeclared := mem_declaredBlocks.mpr ⟨hd, block, hmem, hnorm⟩
  cases hplan : deriveStreamRuntimePlan yaml session with
  | none =>
    rw [deriveStreamRuntimePlan_eq_none hb] at hplan
    rcases hplan with hnil | hrefused
    · exact absurd hnil (List.ne_nil_of_mem hdeclared)
    · exact .inl ((validateStreamRuntimeContract_isSome hb).mpr hrefused)
  | some plan =>
    obtain ⟨values', hb', hserves⟩ := deriveStreamRuntimePlan_serves hplan
    obtain rfl : values = values' := by simpa [hb] using hb'
    refine .inr ⟨plan, rfl, ?_⟩
    rw [hserves.streams]
    exact List.mem_map_of_mem hdeclared

/-- A declared stream of a block the runtime can load reaches the planner, and with it a plan or an
error, exactly if the block's `block` is not the empty text. -/
theorem declared_stream_seen (hd : (normalizeStreamIntent (mergedParameters block)).declared = true)
    (hid : nonempty (parameterString (normalizeBlock block) (ascii "id"))) :
    (∃ normalized, normalizeStreamBlock block = some normalized ∧ normalized.stream.declared = true ∧
        ∀ (yaml : YamlPmt) (session : Session) (values : List Value), graphBlocks yaml session = some values →
          Value.map block ∈ values → (validateStreamRuntimeContract yaml session).isSome ∨
            ∃ plan, deriveStreamRuntimePlan yaml session = some plan ∧
              bindingPlan session.id normalized ∈ plan.streams) ↔
      parameterString block (ascii "block") ≠ some [] := by
  rw [← plannedType_of_id hid, ← normalizeStreamBlock_isSome]
  constructor
  · rintro ⟨normalized, hnorm, -⟩
    simp [hnorm]
  · intro hsome
    obtain ⟨normalized, hnorm⟩ := Option.isSome_iff_exists.mp hsome
    have hdeclared : normalized.stream.declared = true := (stream_normalizeStreamBlock hnorm).symm ▸ hd
    exact ⟨normalized, hnorm, hdeclared, fun yaml session values hb hmem => planned_or_refused hb hmem hnorm hdeclared⟩

def plainSink : PropertyMap := [(ascii "id", .string (ascii "FileSink")), (ascii "parameters", sinkParameters)]

def untypedSink : PropertyMap :=
  [(ascii "id", .string (ascii "FileSink")), (ascii "block", .string []), (ascii "parameters", sinkParameters)]

theorem declared_stream_seen_sinks :
    (∃ normalized, normalizeStreamBlock plainSink = some normalized ∧ normalized.stream.declared = true ∧
      ∀ (yaml : YamlPmt) (session : Session) (values : List Value), graphBlocks yaml session = some values →
        Value.map plainSink ∈ values → (validateStreamRuntimeContract yaml session).isSome ∨
          ∃ plan, deriveStreamRuntimePlan yaml session = some plan ∧
            bindingPlan session.id normalized ∈ plan.streams) ∧
    ¬ ∃ normalized, normalizeStreamBlock untypedSink = some normalized ∧ normalized.stream.declared = true ∧
      ∀ (yaml : YamlPmt) (session : Session) (values : List Value), graphBlocks yaml session = some values →
        Value.map untypedSink ∈ values → (validateStreamRuntimeContract yaml session).isSome ∨
          ∃ plan, deriveStreamRuntimePlan yaml session = some plan ∧
            bindingPlan session.id normalized ∈ plan.streams :=
  ⟨(declared_stream_seen (by decide +kernel) (by decide +kernel)).mpr (by decide +kernel),
    fun h => (declared_stream_seen (by decide +kernel) (by decide +kernel)).mp h (by decide +kernel)⟩

theorem declared_stream_missed :
    ¬ ∀ block : PropertyMap, (normalizeStreamIntent (mergedParameters block)).declared = true →
      nonempty (parameterString (normalizeBlock block) (ascii "id")) →
        ∃ normalized, normalizeStreamBlock block = some normalized ∧ normalized.stream.declared = true := by
  intro seen
  obtain ⟨normalized, hnorm, -⟩ := seen untypedSink (by decide +kernel) (by decide +kernel)
  have hskip : normalizeStreamBlock untypedSink = none := by decide +kernel
  rw [hskip] at hnorm
  cases hnorm

end Gr4ControlPlane
