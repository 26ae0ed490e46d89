import Gr4ControlPlane.Catalog.Gr4BlockCatalogProvider
import Gr4ControlPlane.Domain.JsonDocument
import Mathlib.Data.List.Nodup

namespace Gr4ControlPlane

namespace Json

variable {fields : List (Bytes × Option Json)} {value : Json} {key : Bytes} {field : Option Json}

abbrev present (fields : List (Bytes × Option Json)) : List (Bytes × Json) :=
  fields.filterMap fun field => field.2.map (field.1, ·)

theorem keys_present (fields : List (Bytes × Option Json)) :
    ((present fields).map Prod.fst).Sublist (fields.map Prod.fst) := by
  induction fields with
  | nil => exact .slnil
  | cons field fields ih =>
    obtain ⟨key, _ | item⟩ := field
    · exact ih.cons _
    · exact ih.cons_cons _

theorem mem_present (hkeys : (fields.map Prod.fst).Nodup) (h : (key, field) ∈ fields) {item : Json} :
    (key, item) ∈ present fields ↔ field = some item := by
  simp only [List.mem_filterMap, Option.map_eq_some_iff, Prod.mk.injEq, Prod.exists]
  constructor
  · rintro ⟨key', field', hfield', item', rfl, rfl, rfl⟩
    exact (Prod.mk.inj (List.inj_on_of_nodup_map hkeys h hfield' rfl)).2
  · rintro rfl
    exact ⟨key, some item, h, item, rfl, rfl, rfl⟩

theorem member_ofFields (hkeys : (fields.map Prod.fst).Nodup) (h : (key, field) ∈ fields) :
    (ofFields fields).member key = field := by
  have hlookup : (ofFields fields).member key = (present fields).lookup key := rfl
  rw [hlookup]
  cases field with
  | some item => exact lookup_of_mem ((keys_present fields).nodup hkeys) ((mem_present hkeys h).mpr rfl)
  | none =>
    cases hfound : (present fields).lookup key with
    | none => rfl
    | some item => cases (mem_present hkeys h).mp (mem_of_lookup hfound)

theorem getAt_of_member {item : Json} (h : value.member key = some item) : value.getAt key = .ok item := by
  cases value with
  | object members =>
    have hlookup : members.lookup key = some item := h
    unfold getAt
    dsimp only
    rw [hlookup]
  | _ => cases h

theorem findString_of_member {text : Option Bytes} (h : value.member key = text.map .string) :
    value.findString key = text := by
  unfold findString
  rw [h]
  cases text <;> rfl

theorem findInt_of_member {n : Option Int32} (h : value.member key = n.map .ofInt) : value.findInt key = n := by
  unfold findInt
  rw [h]
  cases n with
  | none => rfl
  | some n => exact congrArg some (Int32.ofInt_toInt n)

theorem findBool_of_member {b : Option Bool} (h : value.member key = b.map .boolean) : value.findBool key = b := by
  unfold findBool
  rw [h]
  cases b <;> rfl

mutual

/-- What a dumped document reads as: a number that is not finite is written as `null`. -/
def readBack : Json → Json
  | .real bits => if isFinite bits then .real bits else .null
  | .array items => .array (readBackItems items)
  | .object members => .object (readBackMembers members)
  | .null => .null
  | .boolean b => .boolean b
  | .integer n => .integer n
  | .string s => .string s

def readBackItems : List Json → List Json
  | [] => []
  | item :: items => item.readBack :: readBackItems items

def readBackMembers : List (Bytes × Json) → List (Bytes × Json)
  | [] => []
  | (key, value) :: members => (key, value.readBack) :: readBackMembers members

end

@[simp] theorem readBack_boolean (b : Bool) : (boolean b).readBack = boolean b := by rw [readBack]

@[simp] theorem readBack_integer (n : Int) : (integer n).readBack = integer n := by rw [readBack]

@[simp] theorem readBack_string (s : Bytes) : (string s).readBack = string s := by rw [readBack]

@[simp] theorem readBack_array (items : List Json) : (array items).readBack = array (items.map readBack) := by
  rw [readBack]
  congr 1
  induction items with
  | nil => rfl
  | cons item items ih => rw [readBackItems, ih, List.map_cons]

@[simp] theorem readBack_object (members : List (Bytes × Json)) :
    (object members).readBack = object (members.map fun e => (e.1, e.2.readBack)) := by
  rw [readBack]
  congr 1
  induction members with
  | nil => rfl
  | cons e members ih => rw [readBackMembers, ih, List.map_cons]

theorem readBack_ofFields (fields : List (Bytes × Option Json)) :
    (ofFields fields).readBack = ofFields (fields.map fun field => (field.1, field.2.map readBack)) := by
  unfold ofFields
  rw [readBack_object, List.map_filterMap, List.filterMap_map]
  simp only [Option.map_map, Function.comp_def]

theorem printable_readBack (h : value.printable) : value.readBack.printable := by
  induction value using inductionOn with
  | null | boolean | integer | string => exact h
  | real bits =>
    unfold readBack
    split <;> rfl
  | array items ih =>
    have hitems : ∀ item ∈ items, item.printable := printable_array.mp h
    rw [readBack_array]
    refine printable_array.mpr (List.forall_mem_map.mpr fun item hitem => ?_)
    exact ih item hitem (hitems item hitem)
  | object members ih =>
    rw [readBack_object]
    change printableMembers _ = true at h ⊢
    induction members with
    | nil => rfl
    | cons e members ihm =>
      obtain ⟨ih, ihs⟩ := List.forall_mem_cons.mp ih
      simp only [printableMembers, Bool.and_eq_true] at h
      simp only [List.map_cons, printableMembers, Bool.and_eq_true]
      exact ⟨⟨h.1.1, ih h.1.2⟩, ihm ihs h.2⟩

end Json

def BlockParameterDefault.sent : BlockParameterDefault → BlockParameterDefault
  | .real bits => if isFinite bits then .real bits else .nullptr
  | .nullptr => .nullptr
  | .boolean b => .boolean b
  | .integer n => .integer n
  | .string s => .string s

def BlockParameterDescriptor.sent (parameter : BlockParameterDescriptor) : BlockParameterDescriptor :=
  { parameter with defaultValue := parameter.defaultValue.sent }

/-- The entry as it arrives: without the default values that are not finite. -/
def BlockDescriptor.sent (block : BlockDescriptor) : BlockDescriptor :=
  { block with parameters := block.parameters.map (·.sent) }

theorem parseDefaultValue_toJson (value : BlockParameterDefault) : parseDefaultValue value.toJson = .ok value := by
  cases value with
  | integer n => exact congrArg (fun n => Except.ok (BlockParameterDefault.integer n)) (Int32.ofInt_toInt n)
  | _ => rfl

theorem cardinalityKindFromString_toString (kind : BlockPortCardinalityKind) :
    cardinalityKindFromString (cardinalityKindToString kind) = some kind := by
  cases kind <;> rfl

variable {key : Bytes} {field : Option Json} {port : BlockPortDescriptor} {parameter : BlockParameterDescriptor}
  {block : BlockDescriptor}

theorem BlockPortDescriptor.member (h : (key, field) ∈ port.fields) : port.toJson.member key = field :=
  Json.member_ofFields (show ((default : BlockPortDescriptor).fields.map Prod.fst).Nodup by decide) h

theorem BlockParameterDescriptor.member (h : (key, field) ∈ parameter.fields) : parameter.toJson.member key = field :=
  Json.member_ofFields (show ((default : BlockParameterDescriptor).fields.map Prod.fst).Nodup by decide) h

theorem BlockDescriptor.member (h : (key, field) ∈ block.fields) : block.toJson.member key = field :=
  Json.member_ofFields (show ((default : BlockDescriptor).fields.map Prod.fst).Nodup by decide) h

open Json in
theorem parsePortDescriptor_toJson (port : BlockPortDescriptor) : parsePortDescriptor port.toJson = .ok port := by
  have hname : port.toJson.getAt (ascii "name") = .ok (.string port.name) :=
    getAt_of_member (port.member (by simp [BlockPortDescriptor.fields]))
  have htype : port.toJson.getAt (ascii "type") = .ok (.string port.type) :=
    getAt_of_member (port.member (by simp [BlockPortDescriptor.fields]))
  have hkind : port.toJson.findString (ascii "cardinality_kind") = some (cardinalityKindToString port.cardinalityKind) :=
    findString_of_member (port.member (by simp [BlockPortDescriptor.fields]))
  have hcurrent : port.toJson.findInt (ascii "current_port_count") = port.currentPortCount :=
    findInt_of_member (port.member (by simp [BlockPortDescriptor.fields]))
  have hrender : port.toJson.findInt (ascii "render_port_count") = port.renderPortCount :=
    findInt_of_member (port.member (by simp [BlockPortDescriptor.fields]))
  have hmin : port.toJson.findInt (ascii "min_port_count") = port.minPortCount :=
    findInt_of_member (port.member (by simp [BlockPortDescriptor.fields]))
  have hmax : port.toJson.findInt (ascii "max_port_count") = port.maxPortCount :=
    findInt_of_member (port.member (by simp [BlockPortDescriptor.fields]))
  have hsize : port.toJson.findString (ascii "size_parameter") = port.sizeParameter :=
    findString_of_member (port.member (by simp [BlockPortDescriptor.fields]))
  have hhandle : port.toJson.findString (ascii "handle_name_template") = port.handleNameTemplate :=
    findString_of_member (port.member (by simp [BlockPortDescriptor.fields]))
  unfold parsePortDescriptor
  rw [hname, htype, hkind, hcurrent, hrender, hmin, hmax, hsize, hhandle, Option.bind_some,
    cardinalityKindFromString_toString]
  rfl

theorem mapM_ok {α β : Type} (f : β → α) (g : α → Except PayloadError β) (h : ∀ b, g (f b) = .ok b) (items : List β) :
    (items.map f).mapM g = .ok items := by
  induction items with
  | nil => rfl
  | cons b items ih =>
    rw [List.map_cons, List.mapM_cons, h, ih]
    rfl

theorem parseEnumChoices_toJson (parameter : BlockParameterDescriptor) :
    parseEnumChoices parameter.toJson = .ok parameter.enumChoices := by
  have hchoices : parameter.toJson.member (ascii "enum_choices") =
      parameter.enumChoices.map fun choices => .array (choices.map .string) :=
    parameter.member (by simp [BlockParameterDescriptor.fields])
  unfold parseEnumChoices
  rw [hchoices]
  cases parameter.enumChoices with
  | none => rfl
  | some choices =>
    have hitems : (choices.map Json.string).mapM Json.getString = .ok choices :=
      mapM_ok Json.string Json.getString (fun _ => rfl) choices
    dsimp only [Option.map_some]
    rw [hitems]
    rfl

theorem parseEnumLabels_toJson (parameter : BlockParameterDescriptor) :
    parseEnumLabels parameter.toJson = .ok parameter.enumLabels := by
  have hlabels : parameter.toJson.member (ascii "enum_labels") = parameter.labels :=
    parameter.member (by simp [BlockParameterDescriptor.fields])
  unfold parseEnumLabels
  rw [hlabels, BlockParameterDescriptor.labels]
  by_cases hnil : parameter.enumLabels = []
  · rw [if_pos hnil, hnil]
  · rw [if_neg hnil]
    exact mapM_ok (fun label => (label.1, Json.string label.2)) (fun label => do return (label.1, ← label.2.getString))
      (fun _ => rfl) parameter.enumLabels

open Json in
theorem parseParameterDescriptor_toJson (parameter : BlockParameterDescriptor) :
    parseParameterDescriptor parameter.toJson = .ok parameter := by
  have hname : parameter.toJson.getAt (ascii "name") = .ok (.string parameter.name) :=
    getAt_of_member (parameter.member (by simp [BlockParameterDescriptor.fields]))
  have htype : parameter.toJson.getAt (ascii "type") = .ok (.string parameter.type) :=
    getAt_of_member (parameter.member (by simp [BlockParameterDescriptor.fields]))
  have hrequired : parameter.toJson.getAt (ascii "required") = .ok (.boolean parameter.required) :=
    getAt_of_member (parameter.member (by simp [BlockParameterDescriptor.fields]))
  have hdefault : parameter.toJson.getAt (ascii "default_value") = .ok parameter.defaultValue.toJson :=
    getAt_of_member (parameter.member (by simp [BlockParameterDescriptor.fields]))
  have hsummary : parameter.toJson.getAt (ascii "summary") = .ok (.string parameter.summary) :=
    getAt_of_member (parameter.member (by simp [BlockParameterDescriptor.fields]))
  have hmutability : parameter.toJson.findString (ascii "runtime_mutability") = parameter.runtimeMutability :=
    findString_of_member (parameter.member (by simp [BlockParameterDescriptor.fields]))
  have hkind : parameter.toJson.findString (ascii "value_kind") = parameter.valueKind :=
    findString_of_member (parameter.member (by simp [BlockParameterDescriptor.fields]))
  have henum : parameter.toJson.findString (ascii "enum_type") = parameter.enumType :=
    findString_of_member (parameter.member (by simp [BlockParameterDescriptor.fields]))
  have hsource : parameter.toJson.findString (ascii "enum_source") = parameter.enumSource :=
    findString_of_member (parameter.member (by simp [BlockParameterDescriptor.fields]))
  have hhint : parameter.toJson.findString (ascii "ui_hint") = parameter.uiHint :=
    findString_of_member (parameter.member (by simp [BlockParameterDescriptor.fields]))
  have hcustom : parameter.toJson.findBool (ascii "allow_custom_value") = parameter.allowCustomValue :=
    findBool_of_member (parameter.member (by simp [BlockParameterDescriptor.fields]))
  unfold parseParameterDescriptor
  rw [hname, htype, hrequired, hdefault, hsummary, hmutability, hkind, henum, hsource, hhint, hcustom]
  dsimp only [bind, Except.bind, getString, getBool]
  rw [parseDefaultValue_toJson, parseEnumChoices_toJson, parseEnumLabels_toJson]
  rfl

open Json in
theorem parseBlockValue_toJson (block : BlockDescriptor) (htype : block.canonicalType ≠ some []) :
    parseBlockValue block.toJson = .ok block := by
  have hid : block.toJson.getAt (ascii "id") = .ok (.string block.id) :=
    getAt_of_member (block.member (by simp [BlockDescriptor.fields]))
  have hname : block.toJson.getAt (ascii "name") = .ok (.string block.name) :=
    getAt_of_member (block.member (by simp [BlockDescriptor.fields]))
  have hcategory : block.toJson.getAt (ascii "category") = .ok (.string block.category) :=
    getAt_of_member (block.member (by simp [BlockDescriptor.fields]))
  have hsummary : block.toJson.getAt (ascii "summary") = .ok (.string block.summary) :=
    getAt_of_member (block.member (by simp [BlockDescriptor.fields]))
  have hinputs : block.toJson.getAt (ascii "inputs") = .ok (.array (block.inputs.map (·.toJson))) :=
    getAt_of_member (block.member (by simp [BlockDescriptor.fields]))
  have houtputs : block.toJson.getAt (ascii "outputs") = .ok (.array (block.outputs.map (·.toJson))) :=
    getAt_of_member (block.member (by simp [BlockDescriptor.fields]))
  have hparameters : block.toJson.getAt (ascii "parameters") = .ok (.array (block.parameters.map (·.toJson))) :=
    getAt_of_member (block.member (by simp [BlockDescriptor.fields]))
  have hcanonical : block.toJson.findString (ascii "canonical_type") = block.canonicalType :=
    findString_of_member (block.member (by simp [BlockDescriptor.fields]))
  have hfilter : block.canonicalType.filter (· ≠ []) = block.canonicalType := by
    cases htext : block.canonicalType with
    | none => rfl
    | some text =>
      rw [Option.filter_some, if_pos]
      exact decide_eq_true fun hnil => htype (hnil ▸ htext)
  unfold parseBlockValue
  rw [hid, hname, hcategory, hsummary, hinputs, houtputs, hparameters, hcanonical, hfilter]
  dsimp only [bind, Except.bind, getString, elements]
  rw [mapM_ok _ _ parsePortDescriptor_toJson, mapM_ok _ _ parsePortDescriptor_toJson,
    mapM_ok _ _ parseParameterDescriptor_toJson]
  rfl

/-! ### What arrives -/

theorem BlockParameterDefault.toJson_sent (value : BlockParameterDefault) : value.sent.toJson = value.toJson.readBack := by
  cases value with
  | real bits => exact apply_ite BlockParameterDefault.toJson _ _ _
  | nullptr | boolean | integer | string => rfl

theorem BlockPortDescriptor.readBack_toJson (port : BlockPortDescriptor) : port.toJson.readBack = port.toJson := by
  unfold BlockPortDescriptor.toJson
  rw [Json.readBack_ofFields]
  simp only [BlockPortDescriptor.fields, List.map_cons, List.map_nil, Option.map_some, Option.map_map,
    Function.comp_def, Json.ofInt, Json.readBack_string, Json.readBack_integer]
  rfl

theorem BlockParameterDescriptor.toJson_sent (parameter : BlockParameterDescriptor) :
    parameter.sent.toJson = parameter.toJson.readBack := by
  have hlabels : parameter.labels.map Json.readBack = parameter.labels := by
    unfold BlockParameterDescriptor.labels
    split
    · rfl
    · simp [Function.comp_def]
  unfold BlockParameterDescriptor.toJson
  rw [Json.readBack_ofFields]
  simp only [BlockParameterDescriptor.fields, List.map_cons, List.map_nil, Option.map_some, Option.map_map,
    List.map_map, Function.comp_def, hlabels, ← BlockParameterDefault.toJson_sent, Json.readBack_string,
    Json.readBack_boolean, Json.readBack_array]
  rfl

theorem BlockDescriptor.toJson_sent (block : BlockDescriptor) : block.sent.toJson = block.toJson.readBack := by
  unfold BlockDescriptor.toJson
  rw [Json.readBack_ofFields]
  simp [BlockDescriptor.fields, BlockDescriptor.sent, Function.comp_def, BlockPortDescriptor.readBack_toJson,
    BlockParameterDescriptor.toJson_sent]

theorem BlockDescriptor.sent_eq_self (h : ∀ parameter ∈ block.parameters, parameter.sent = parameter) : block.sent = block := by
  unfold BlockDescriptor.sent
  rw [List.map_congr_left h, List.map_id']

/-! ### Equality -/

theorem realEq_self {bits : UInt64} (h : isFinite bits) : realEq bits bits := by
  simp [realEq, isNaN, h]

/-- Everything but a NaN is equal to itself. -/
def BlockParameterDefault.Finite (value : BlockParameterDefault) : Prop := ∀ bits, value = .real bits → isFinite bits

theorem BlockParameterDefault.beq_self {value : BlockParameterDefault} (h : value.Finite) : value == value := by
  cases value with
  | nullptr => rfl
  | real bits => exact realEq_self (h bits rfl)
  | boolean b => exact beq_self_eq_true b
  | integer n => exact beq_self_eq_true n
  | string s => exact beq_self_eq_true s

theorem BlockPortDescriptor.beq_self (port : BlockPortDescriptor) : port == port := by
  change (_ && _) = true
  simp

theorem BlockParameterDescriptor.beq_self (h : parameter.defaultValue.Finite) : parameter == parameter := by
  change (_ && _) = true
  simp [BlockParameterDefault.beq_self h]

theorem list_beq_self {α : Type} [BEq α] {items : List α} (h : ∀ item ∈ items, item == item) : items == items := by
  induction items with
  | nil => rfl
  | cons item items ih =>
    rw [List.forall_mem_cons] at h
    rw [List.cons_beq_cons, h.1, ih h.2]
    rfl

theorem BlockDescriptor.beq_self (h : ∀ parameter ∈ block.parameters, parameter.defaultValue.Finite) : block == block := by
  have hinputs := list_beq_self fun port (_ : port ∈ block.inputs) => port.beq_self
  have houtputs := list_beq_self fun port (_ : port ∈ block.outputs) => port.beq_self
  have hparameters := list_beq_self fun parameter hparameter => BlockParameterDescriptor.beq_self (h parameter hparameter)
  change (_ && _) = true
  simp [hinputs, houtputs, hparameters]

/-- What a reflection subprocess prints is read back as the block it reflected. -/
theorem reflection_round_trip (library : JsonLibrary) (block : BlockDescriptor) (htype : block.canonicalType ≠ some [])
    (hfinite : ∀ parameter ∈ block.parameters, parameter.defaultValue.Finite) (hexact : library.Exact block.toJson) :
    ∃ payload parsed, library.dump block.toJson = .ok payload ∧ parseBlockDescriptor library payload = .ok parsed ∧
      parsed == block := by
  obtain ⟨payload, hdump, hparse⟩ := hexact
  refine ⟨payload, block, hdump, ?_, BlockDescriptor.beq_self hfinite⟩
  unfold parseBlockDescriptor
  rw [hparse]
  exact parseBlockValue_toJson block htype

def signalSource : BlockDescriptor where
  id := ascii "blocks.sources.signal_source_f"
  canonicalType := none
  name := ascii "Signal Source"
  category := ascii "Sources"
  summary := ascii "Generates a float waveform."
  inputs := []
  outputs := [{ (default : BlockPortDescriptor) with
    name := ascii "out", type := ascii "float", cardinalityKind := .dynamic, currentPortCount := some 1 }]
  parameters := [{ (default : BlockParameterDescriptor) with
      name := ascii "frequency", type := ascii "float", defaultValue := .real 0x408f400000000000 },
    { (default : BlockParameterDescriptor) with
      name := ascii "waveform", type := ascii "enum", defaultValue := .string (ascii "sine"),
      enumChoices := some [ascii "sine", ascii "square"], enumLabels := [(ascii "sine", ascii "Sine")] }]

/-- A number of at least 1 that has no fraction, as the library prints it. -/
def wholeNumber (bits : UInt64) : Bytes :=
  let mantissa := bits.toNat % 0x10000000000000 + 0x10000000000000
  let exponent := bits.toNat / 0x10000000000000 % 0x800
  decimal (mantissa >>> (1075 - exponent)) ++ ascii ".0"

example : wholeNumber 0x3ff0000000000000 = ascii "1.0" ∧ wholeNumber 0x408f400000000000 = ascii "1000.0" := by decide +kernel

/-- The library as far as one value goes, whose numbers are whole. -/
def JsonLibrary.ofValue (value : Json) : JsonLibrary where
  dump := Json.dump wholeNumber
  parse text := if text = value.render wholeNumber then .ok value else .error []

theorem JsonLibrary.ofValue_exact {value : Json} (h : value.printable) : (JsonLibrary.ofValue value).Exact value :=
  ⟨_, if_pos h, if_pos rfl⟩

theorem reflection_round_trip_source : ∃ payload parsed,
    (JsonLibrary.ofValue signalSource.toJson).dump signalSource.toJson = .ok payload ∧
      parseBlockDescriptor (.ofValue signalSource.toJson) payload = .ok parsed ∧ parsed == signalSource := by
  have hprintable : signalSource.toJson.printable = true := by decide +kernel
  refine reflection_round_trip (.ofValue signalSource.toJson) signalSource nofun ?_
    (JsonLibrary.ofValue_exact hprintable)
  intro parameter hparameter bits hreal
  simp only [signalSource, List.mem_cons, List.not_mem_nil, or_false] at hparameter
  rcases hparameter with rfl | rfl
  · obtain rfl := BlockParameterDefault.real.inj hreal
    decide
  · cases hreal

end Gr4ControlPlane
