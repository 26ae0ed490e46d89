import Gr4ControlPlane.Domain.BlockCatalog
import Gr4ControlPlane.Domain.Json

namespace Gr4ControlPlane

/-- The JSON library: `dump` throws on texts that are not UTF-8, `parse` on whatever is not JSON. -/
structure JsonLibrary where
  dump : Json → Except Bytes Bytes
  parse : Bytes → Except Bytes Json

def JsonLibrary.Exact (library : JsonLibrary) (value : Json) : Prop :=
  ∃ text, library.dump value = .ok text ∧ library.parse text = .ok value

namespace Json

def ofFields (fields : List (Bytes × Option Json)) : Json :=
  .object (fields.filterMap fun field => field.2.map (field.1, ·))

end Json

def cardinalityKindToString : BlockPortCardinalityKind → Bytes
  | .fixed => ascii "fixed"
  | .dynamic => ascii "dynamic"

def cardinalityKindFromString (value : Bytes) : Option BlockPortCardinalityKind :=
  if value = ascii "fixed" then some .fixed
  else if value = ascii "dynamic" then some .dynamic
  else none

def Json.ofInt (n : Int32) : Json := .integer n.toInt

def BlockParameterDefault.toJson : BlockParameterDefault → Json
  | .nullptr => .null
  | .boolean b => .boolean b
  | .integer n => .ofInt n
  | .real bits => .real bits
  | .string s => .string s

/-! The fields stand in the order of their keys, as a JSON object keeps them. -/

def BlockPortDescriptor.fields (port : BlockPortDescriptor) : List (Bytes × Option Json) :=
  [(ascii "cardinality_kind", some (.string (cardinalityKindToString port.cardinalityKind))),
    (ascii "current_port_count", port.currentPortCount.map .ofInt),
    (ascii "handle_name_template", port.handleNameTemplate.map .string),
    (ascii "max_port_count", port.maxPortCount.map .ofInt),
    (ascii "min_port_count", port.minPortCount.map .ofInt),
    (ascii "name", some (.string port.name)),
    (ascii "render_port_count", port.renderPortCount.map .ofInt),
    (ascii "size_parameter", port.sizeParameter.map .string),
    (ascii "type", some (.string port.type))]

def BlockPortDescriptor.toJson (port : BlockPortDescriptor) : Json := .ofFields port.fields

def BlockParameterDescriptor.labels (parameter : BlockParameterDescriptor) : Option Json :=
  if parameter.enumLabels = [] then none
  else some (.object (parameter.enumLabels.map fun label => (label.1, .string label.2)))

def BlockParameterDescriptor.fields (parameter : BlockParameterDescriptor) : List (Bytes × Option Json) :=
  [(ascii "allow_custom_value", parameter.allowCustomValue.map .boolean),
    (ascii "default_value", some parameter.defaultValue.toJson),
    (ascii "enum_choices", parameter.enumChoices.map fun choices => .array (choices.map .string)),
    (ascii "enum_labels", parameter.labels),
    (ascii "enum_source", parameter.enumSource.map .string),
    (ascii "enum_type", parameter.enumType.map .string),
    (ascii "name", some (.string parameter.name)),
    (ascii "required", some (.boolean parameter.required)),
    (ascii "runtime_mutability", parameter.runtimeMutability.map .string),
    (ascii "summary", some (.string parameter.summary)),
    (ascii "type", some (.string parameter.type)),
    (ascii "ui_hint", parameter.uiHint.map .string),
    (ascii "value_kind", parameter.valueKind.map .string)]

def BlockParameterDescriptor.toJson (parameter : BlockParameterDescriptor) : Json := .ofFields parameter.fields

def BlockDescriptor.fields (block : BlockDescriptor) : List (Bytes × Option Json) :=
  [(ascii "canonical_type", block.canonicalType.map .string),
    (ascii "category", some (.string block.category)),
    (ascii "id", some (.string block.id)),
    (ascii "inputs", some (.array (block.inputs.map (·.toJson)))),
    (ascii "name", some (.string block.name)),
    (ascii "outputs", some (.array (block.outputs.map (·.toJson)))),
    (ascii "parameters", some (.array (block.parameters.map (·.toJson)))),
    (ascii "summary", some (.string block.summary))]

def BlockDescriptor.toJson (block : BlockDescriptor) : Json := .ofFields block.fields

inductive PayloadError
  | parseError (what : Bytes)
  | typeError
  | outOfRange (key : Bytes)
  | catalogLoad (what : Bytes)

namespace Json

/-- `value.at(key)`. -/
def getAt (value : Json) (key : Bytes) : Except PayloadError Json :=
  match value with
  | .object members =>
    match members.lookup key with
    | some item => .ok item
    | none => .error (.outOfRange key)
  | _ => .error .typeError

/-- `get<std::string>()`. -/
def getString : Json → Except PayloadError Bytes
  | .string s => .ok s
  | _ => .error .typeError

def getBool : Json → Except PayloadError Bool
  | .boolean b => .ok b
  | _ => .error .typeError

def findString (value : Json) (key : Bytes) : Option Bytes :=
  match value.member key with
  | some (.string s) => some s
  | _ => none

/-- `get<int>()` keeps the lower 32 bits. -/
def findInt (value : Json) (key : Bytes) : Option Int32 :=
  match value.member key with
  | some (.integer n) => some (Int32.ofInt n)
  | _ => none

def findBool (value : Json) (key : Bytes) : Option Bool :=
  match value.member key with
  | some (.boolean b) => some b
  | _ => none

def elements : Json → List Json
  | .array items => items
  | .object members => members.map Prod.snd
  | .null => []
  | value => [value]

end Json

def parseDefaultValue : Json → Except PayloadError BlockParameterDefault
  | .null => .ok .nullptr
  | .boolean b => .ok (.boolean b)
  | .integer n => .ok (.integer (Int32.ofInt n))
  | .real bits => .ok (.real bits)
  | .string s => .ok (.string s)
  | .array _ | .object _ =>
    .error (.catalogLoad (ascii "invalid GNU Radio 4 block reflection payload: unsupported parameter default value"))

def parsePortDescriptor (value : Json) : Except PayloadError BlockPortDescriptor := do
  let name ← (← value.getAt (ascii "name")).getString
  let type ← (← value.getAt (ascii "type")).getString
  return {
    name := name
    type := type
    cardinalityKind := ((value.findString (ascii "cardinality_kind")).bind cardinalityKindFromString).getD .fixed
    currentPortCount := value.findInt (ascii "current_port_count")
    renderPortCount := value.findInt (ascii "render_port_count")
    minPortCount := value.findInt (ascii "min_port_count")
    maxPortCount := value.findInt (ascii "max_port_count")
    sizeParameter := value.findString (ascii "size_parameter")
    handleNameTemplate := value.findString (ascii "handle_name_template")
  }

def parseEnumChoices (value : Json) : Except PayloadError (Option (List Bytes)) :=
  match value.member (ascii "enum_choices") with
  | some (.array items) => do return some (← items.mapM Json.getString)
  | _ => .ok none

def parseEnumLabels (value : Json) : Except PayloadError (List (Bytes × Bytes)) :=
  match value.member (ascii "enum_labels") with
  | some (.object members) => members.mapM fun label => do return (label.1, ← label.2.getString)
  | _ => .ok []

def parseParameterDescriptor (value : Json) : Except PayloadError BlockParameterDescriptor := do
  let name ← (← value.getAt (ascii "name")).getString
  let type ← (← value.getAt (ascii "type")).getString
  let required ← (← value.getAt (ascii "required")).getBool
  let defaultValue ← parseDefaultValue (← value.getAt (ascii "default_value"))
  let summary ← (← value.getAt (ascii "summary")).getString
  let enumChoices ← parseEnumChoices value
  let enumLabels ← parseEnumLabels value
  return {
    name := name
    type := type
    required := required
    defaultValue := defaultValue
    summary := summary
    runtimeMutability := value.findString (ascii "runtime_mutability")
    valueKind := value.findString (ascii "value_kind")
    enumChoices := enumChoices
    enumType := value.findString (ascii "enum_type")
    enumLabels := enumLabels
    enumSource := value.findString (ascii "enum_source")
    uiHint := value.findString (ascii "ui_hint")
    allowCustomValue := value.findBool (ascii "allow_custom_value")
  }

def parseBlockValue (value : Json) : Except PayloadError BlockDescriptor := do
  let id ← (← value.getAt (ascii "id")).getString
  let name ← (← value.getAt (ascii "name")).getString
  let category ← (← value.getAt (ascii "category")).getString
  let summary ← (← value.getAt (ascii "summary")).getString
  let inputs ← (← value.getAt (ascii "inputs")).elements.mapM parsePortDescriptor
  let outputs ← (← value.getAt (ascii "outputs")).elements.mapM parsePortDescriptor
  let parameters ← (← value.getAt (ascii "parameters")).elements.mapM parseParameterDescriptor
  return {
    id := id
    -- an empty one counts as none
    canonicalType := (value.findString (ascii "canonical_type")).filter (· ≠ [])
    name := name
    category := category
    summary := summary
    inputs := inputs
    outputs := outputs
    parameters := parameters
  }

def parseBlockDescriptor (library : JsonLibrary) (payload : Bytes) : Except PayloadError BlockDescriptor := do
  parseBlockValue (← (library.parse payload).mapError .parseError)

end Gr4ControlPlane
