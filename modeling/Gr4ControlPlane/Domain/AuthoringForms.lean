import Gr4ControlPlane.Domain.StreamContract
import Mathlib.Data.List.Forall2
import Mathlib.Logic.Relation

/-! Two ways to write one graph: a stream nested under `stream` or flattened into the parameters,
and a parameter in `parameters` or in `raw_parameters`. -/

namespace Gr4ControlPlane

def streamFields : List (Bytes × Bytes) :=
  [(ascii "id", ascii "stream_id"), (ascii "transport", ascii "transport"),
    (ascii "payload_format", ascii "payload_format")]

def SameFrame (block block' : PropertyMap) : Prop :=
  ∀ key, key ≠ ascii "parameters" → key ≠ ascii "raw_parameters" → block'.find key = block.find key

/-- The first block declares a stream in the nested form, the second one the same stream in the
flattened form.  A parameter counts in whichever of the two maps it stands; flattened fields beside a
`stream` are not ruled out. -/
structure Flattens (block block' : PropertyMap) (stream : PropertyMap) : Prop where
  frame : SameFrame block block'
  nested : authoredParameter block (ascii "stream") = some (.map stream)
  declares : ∃ field ∈ streamFields, (parameterString stream field.1).isSome
  flattened : authoredParameter block' (ascii "stream") = none
  fields : ∀ field ∈ streamFields, authoredParameter block' field.2 = stream.find field.1
  others : ∀ key, key ≠ ascii "stream" → (∀ field ∈ streamFields, key ≠ field.2) →
    authoredParameter block' key = authoredParameter block key

/-- An entry leaves one map for another that has none under its key. -/
structure Moves (key : Bytes) (source target source' target' : PropertyMap) : Prop where
  absent : target.find key = none
  gone : source'.find key = none
  arrived : target'.find key = source.find key
  source : ∀ k, k ≠ key → source'.find k = source.find k
  target : ∀ k, k ≠ key → target'.find k = target.find k

inductive Restates : PropertyMap → PropertyMap → Prop
  | flatten {block block' stream} : Flattens block block' stream → Restates block block'
  | move {block block'} (key) : SameFrame block block' →
      Moves key (blockMap block (ascii "parameters")) (blockMap block (ascii "raw_parameters"))
        (blockMap block' (ascii "parameters")) (blockMap block' (ascii "raw_parameters")) → Restates block block'

/-- One entry of `blocks`, restated any number of times, forth or back. -/
inductive SameAuthored : Value → Value → Prop
  | refl (value) : SameAuthored value value
  | block {block block'} : Relation.EqvGen Restates block block' → SameAuthored (.map block) (.map block')

variable {block block' stream parameters parameters' : PropertyMap}

theorem SameFrame.parameterString (h : SameFrame block block') {key : Bytes} (hp : key ≠ ascii "parameters")
    (hr : key ≠ ascii "raw_parameters") : parameterString block' key = parameterString block key :=
  congrArg (·.bind Value.valueToString) (h key hp hr)

theorem SameFrame.candidateName (h : SameFrame block block') (name : Option Bytes) {candidates : List Bytes}
    (hc : ∀ key ∈ candidates, key ≠ ascii "parameters" ∧ key ≠ ascii "raw_parameters") :
    candidateName block' name candidates = candidateName block name candidates := by
  induction candidates generalizing name with
  | nil => rfl
  | cons candidate candidates ih =>
    obtain ⟨hp, hr⟩ := hc candidate List.mem_cons_self
    have hrest := fun name => ih name fun key hk => hc key (List.mem_cons_of_mem _ hk)
    simp only [Gr4ControlPlane.candidateName, h candidate hp hr, hrest]

theorem normalizeStreamBlock_congr (h : SameFrame block block')
    (hname : authoredParameter block' (ascii "name") = authoredParameter block (ascii "name"))
    (hintent : normalizeStreamIntent (mergedParameters block') = normalizeStreamIntent (mergedParameters block)) :
    normalizeStreamBlock block' = normalizeStreamBlock block := by
  have hid : parameterString block' (ascii "id") = parameterString block (ascii "id") :=
    h.parameterString (by decide) (by decide)
  have hblock : parameterString block' (ascii "block") = parameterString block (ascii "block") :=
    h.parameterString (by decide) (by decide)
  have htype : parameterString block' (ascii "block_type") = parameterString block (ascii "block_type") :=
    h.parameterString (by decide) (by decide)
  have hcontains : block'.contains (ascii "block") = block.contains (ascii "block") :=
    congrArg Option.isSome (h _ (by decide) (by decide))
  have hmerged : parameterString (mergedParameters block') (ascii "name") =
      parameterString (mergedParameters block) (ascii "name") := by
    unfold parameterString
    rw [find_mergedParameters, find_mergedParameters, hname]
  have hcandidates := fun name => h.candidateName name
    (show ∀ key ∈ [ascii "instance_name", ascii "name"], key ≠ ascii "parameters" ∧ key ≠ ascii "raw_parameters" by
      decide)
  simp only [normalizeStreamBlock, hid, hblock, htype, hcontains, hmerged, hintent, hcandidates]

theorem normalizeStreamIntent_congr
    (h : ∀ key, parameters'.find key = parameters.find key) :
    normalizeStreamIntent parameters' = normalizeStreamIntent parameters := by
  simp only [normalizeStreamIntent, parameterString, h]

theorem normalizeStreamIntent_flattened (hnested : parameters.find (ascii "stream") = some (.map stream))
    (hdeclares : ∃ field ∈ streamFields, (parameterString stream field.1).isSome)
    (hflattened : parameters'.find (ascii "stream") = none)
    (hfields : ∀ field ∈ streamFields, parameters'.find field.2 = stream.find field.1) :
    normalizeStreamIntent parameters' = normalizeStreamIntent parameters := by
  have hread : ∀ field ∈ streamFields, parameterString parameters' field.2 = parameterString stream field.1 :=
    fun field hf => congrArg (·.bind Value.valueToString) (hfields field hf)
  simp only [streamFields, List.forall_mem_cons, List.not_mem_nil, false_imp_iff, implies_true, and_true] at hread
  simp only [streamFields, List.mem_cons, List.not_mem_nil, or_false, exists_eq_or_imp, exists_eq_left] at hdeclares
  obtain ⟨hid, htransport, hpayload⟩ := hread
  have hdeclared : ((parameterString stream (ascii "id")).isSome || (parameterString stream (ascii "transport")).isSome ||
      (parameterString stream (ascii "payload_format")).isSome) = true := by
    rcases hdeclares with h | h | h <;> simp [h]
  simp only [normalizeStreamIntent, hnested, hflattened, Value.getMap, hid, htransport, hpayload, hdeclared]

theorem Moves.find_or {key : Bytes} {source target source' target' : PropertyMap}
    (h : Moves key source target source' target') (k : Bytes) :
    (source'.find k).or (target'.find k) = (source.find k).or (target.find k) := by
  by_cases hk : k = key
  · subst hk
    simp [h.absent, h.gone, h.arrived]
  · rw [h.source k hk, h.target k hk]

theorem Restates.normalizeStreamBlock (h : Restates block block') :
    normalizeStreamBlock block' = normalizeStreamBlock block := by
  cases h with
  | flatten h =>
    apply normalizeStreamBlock_congr h.frame
    · exact h.others _ (by decide) (by decide)
    · apply normalizeStreamIntent_flattened
      · exact find_mergedParameters.trans h.nested
      · exact h.declares
      · exact find_mergedParameters.trans h.flattened
      · exact fun field hf => find_mergedParameters.trans (h.fields field hf)
  | move key hframe h =>
    have hfind : ∀ k, authoredParameter block' k = authoredParameter block k := h.find_or
    apply normalizeStreamBlock_congr hframe (hfind _)
    apply normalizeStreamIntent_congr
    intro k
    rw [find_mergedParameters, find_mergedParameters, hfind]

theorem SameAuthored.normalized {value value' : Value} (h : SameAuthored value value') :
    value'.getMap.bind normalizeStreamBlock = value.getMap.bind normalizeStreamBlock := by
  cases h with
  | refl => rfl
  | block h =>
    show normalizeStreamBlock _ = normalizeStreamBlock _
    induction h with
    | rel _ _ h => exact h.normalizeStreamBlock
    | refl => rfl
    | symm _ _ _ ih => exact ih.symm
    | trans _ _ _ _ _ ih ih' => exact ih'.trans ih

theorem declaredBlocks_congr {values values' : List Value} (h : List.Forall₂ SameAuthored values values') :
    declaredBlocks values' = declaredBlocks values := by
  unfold declaredBlocks
  congr 1
  induction h with
  | nil => rfl
  | cons h _ ih => simp only [List.filterMap_cons, h.normalized, ih]

/-- However the blocks of a graph are written, it is refused with the same error or planned the same. -/
theorem authoring_forms_interchangeable {yaml : YamlPmt} {session session' : Session} {values values' : List Value}
    (id : session'.id = session.id) (authored : graphBlocks yaml session = some values)
    (restated : graphBlocks yaml session' = some values') (h : List.Forall₂ SameAuthored values values') :
    validateStreamRuntimeContract yaml session' = validateStreamRuntimeContract yaml session ∧
      deriveStreamRuntimePlan yaml session' = deriveStreamRuntimePlan yaml session := by
  have hdeclared := declaredBlocks_congr h
  constructor
  · simp only [validateStreamRuntimeContract, authored, restated, bind, Option.bind, hdeclared]
  · simp only [deriveStreamRuntimePlan, authored, restated, bind, Option.bind, hdeclared, id]

def sumSink (parameters raw : PropertyMap) : PropertyMap :=
  [(ascii "id", .string (ascii "FileSink")), (ascii "parameters", .map parameters),
    (ascii "raw_parameters", .map raw)]

def sumStreamFields : PropertyMap :=
  [(ascii "transport", .string (ascii "http_poll")), (ascii "payload_format", .string (ascii "json"))]

def sumRaw : PropertyMap := [(ascii "note", .string (ascii "fm"))]

def nestedSink : PropertyMap :=
  sumSink [(ascii "name", .string (ascii "sum")), (ascii "stream", .map sumStreamFields)] sumRaw

def flattenedSink : PropertyMap := sumSink ((ascii "name", .string (ascii "sum")) :: sumStreamFields) sumRaw

def movedSink : PropertyMap := sumSink sumStreamFields ((ascii "name", .string (ascii "sum")) :: sumRaw)

theorem sameFrame_sumSink (parameters raw parameters' raw' : PropertyMap) :
    SameFrame (sumSink parameters raw) (sumSink parameters' raw') := by
  intro key hp hr
  unfold sumSink
  by_cases hid : key = ascii "id"
  · subst hid
    exact (PropertyMap.find_cons_self _ _ _).trans (PropertyMap.find_cons_self _ _ _).symm
  · simp only [PropertyMap.find_cons_of_ne _ _ hid, PropertyMap.find_cons_of_ne _ _ hp,
      PropertyMap.find_cons_of_ne _ _ hr]

theorem flattens_nestedSink : Flattens nestedSink flattenedSink sumStreamFields where
  frame := sameFrame_sumSink _ _ _ _
  nested := by rfl
  declares := ⟨(ascii "transport", ascii "transport"), by decide, by decide⟩
  flattened := by rfl
  fields := by
    simp only [streamFields, List.forall_mem_cons]
    exact ⟨by rfl, by rfl, by rfl, nofun⟩
  others := by
    intro key hstream hfields
    simp only [streamFields, List.forall_mem_cons] at hfields
    obtain ⟨-, htransport, hpayload, -⟩ := hfields
    by_cases hname : key = ascii "name"
    · subst hname
      rfl
    · show (PropertyMap.find (_ :: sumStreamFields) key).or (sumRaw.find key) =
        (PropertyMap.find [_, _] key).or (sumRaw.find key)
      rw [PropertyMap.find_cons_of_ne _ _ hname, PropertyMap.find_cons_of_ne _ _ hname,
        PropertyMap.find_cons_of_ne _ _ hstream]
      unfold sumStreamFields
      rw [PropertyMap.find_cons_of_ne _ _ htransport, PropertyMap.find_cons_of_ne _ _ hpayload]

theorem moves_flattenedSink : Moves (ascii "name") ((ascii "name", .string (ascii "sum")) :: sumStreamFields) sumRaw
    sumStreamFields ((ascii "name", .string (ascii "sum")) :: sumRaw) where
  absent := rfl
  gone := by rfl
  arrived := by rfl
  source k hk := (PropertyMap.find_cons_of_ne _ _ hk).symm
  target k hk := PropertyMap.find_cons_of_ne _ _ hk

def sumGraph (sink : PropertyMap) : PropertyMap :=
  [(ascii "blocks", .tensor [.map sink, .map [(ascii "id", .string (ascii "NullSource"))]])]

def nestedGraph : Bytes :=
  ascii "blocks:\n- id: FileSink\n  parameters:\n    name: sum\n    stream:\n      transport: http_poll\n      payload_format: json\n  raw_parameters:\n    note: fm\n- id: NullSource\n"

def movedGraph : Bytes :=
  ascii "blocks:\n- id: FileSink\n  parameters:\n    transport: http_poll\n    payload_format: json\n  raw_parameters:\n    name: sum\n    note: fm\n- id: NullSource\n"

theorem movedGraph_ne : movedGraph ≠ nestedGraph := by decide +kernel

attribute [irreducible] nestedGraph movedGraph

def sumYaml : YamlPmt where
  deserialize text :=
    if text = nestedGraph then some (sumGraph nestedSink)
    else if text = movedGraph then some (sumGraph movedSink)
    else none
  serialize _ := []
  same _ _ := true

def sumSession (graph : Bytes) : Session where
  id := ascii "sess_7"
  name := []
  grcContent := graph
  schedulerAlias := none
  state := .stopped
  lastError := none
  createdAt := 1
  updatedAt := 1

theorem sumSession_id (graph : Bytes) : (sumSession graph).id = ascii "sess_7" := rfl

theorem graphBlocks_sum {graph : Bytes} {sink : PropertyMap} (h : sumYaml.deserialize graph = some (sumGraph sink)) :
    graphBlocks sumYaml (sumSession graph) = some [.map sink, .map [(ascii "id", .string (ascii "NullSource"))]] := by
  change (sumYaml.deserialize graph).bind _ = _
  rw [h]
  rfl

theorem graphBlocks_nested : graphBlocks sumYaml (sumSession nestedGraph) =
    some [.map nestedSink, .map [(ascii "id", .string (ascii "NullSource"))]] := graphBlocks_sum (if_pos rfl)

theorem graphBlocks_moved : graphBlocks sumYaml (sumSession movedGraph) =
    some [.map movedSink, .map [(ascii "id", .string (ascii "NullSource"))]] :=
  graphBlocks_sum ((if_neg movedGraph_ne).trans (if_pos rfl))

theorem authoring_forms_interchangeable_sum :
    validateStreamRuntimeContract sumYaml (sumSession movedGraph) =
        validateStreamRuntimeContract sumYaml (sumSession nestedGraph) ∧
      deriveStreamRuntimePlan sumYaml (sumSession movedGraph) =
        deriveStreamRuntimePlan sumYaml (sumSession nestedGraph) :=
  authoring_forms_interchangeable ((sumSession_id _).trans (sumSession_id _).symm) graphBlocks_nested graphBlocks_moved
    (.cons (.block (.trans _ _ _ (.rel _ _ (.flatten flattens_nestedSink))
      (.rel _ _ (.move (ascii "name") (sameFrame_sumSink _ _ _ _) moves_flattenedSink)))) (.cons (.refl _) .nil))

end Gr4ControlPlane
