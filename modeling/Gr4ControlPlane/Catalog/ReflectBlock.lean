import Gr4ControlPlane.App.CatalogSelection
import Gr4ControlPlane.Catalog.BlockIds
import Gr4ControlPlane.Catalog.CollectionPorts
import Gr4ControlPlane.Catalog.Gr4BlockCatalogProvider
import Mathlib.Data.List.Infix

namespace Gr4ControlPlane

open Selection

inductive ElementKind
  | bool | integer | float32 | float64 | complexFloat32 | complexFloat64 | string | value | monostate

inductive Setting
  | monostate
  | boolean (b : Bool)
  | integer (n : Int)
  | real (bits : UInt64)
  | complex
  | string (s : Bytes)
  | tensor (kind : ElementKind)
  | map

inductive DynamicPortOrCollection
  | port (name typeName : Bytes)
  | collection (name : Bytes) (portTypeNames : List Bytes)

/-- What is asked of a `gr::BlockModel`, its settings after the staged ones have been applied. -/
structure BlockModel where
  name : Bytes
  typeName : Bytes
  metaInformation : PropertyMap
  settings : List (Bytes × Setting)
  dynamicInputPorts : List DynamicPortOrCollection
  dynamicOutputPorts : List DynamicPortOrCollection
  /-- The settings are a map. -/
  settings_nodup : (settings.map Prod.fst).Nodup

def ElementKind.vectorName : ElementKind → Bytes
  | .bool => ascii "bool_vector"
  | .integer => ascii "int_vector"
  | .float32 => ascii "float32_vector"
  | .float64 => ascii "float64_vector"
  | .complexFloat32 => ascii "complex_float32_vector"
  | .complexFloat64 => ascii "complex_float64_vector"
  | .string => ascii "string_vector"
  | .value => ascii "value_vector"
  | .monostate => ascii "vector"

def parameterTypeName : Setting → Bytes
  | .map => ascii "map"
  | .complex => ascii "complex"
  | .tensor kind => kind.vectorName
  | .string _ => ascii "string"
  | .boolean _ => ascii "bool"
  | .integer _ => ascii "int"
  | .real _ => ascii "float"
  | .monostate => ascii "value"

/-- An integer that is no `int` has no default. -/
def parameterDefaultValue : Setting → BlockParameterDefault
  | .boolean b => .boolean b
  | .integer n => if -2 ^ 31 ≤ n ∧ n < 2 ^ 31 then .integer (Int32.ofInt n) else .nullptr
  | .real bits => .real bits
  | .string s => .string s
  | .monostate | .complex | .tensor _ | .map => .nullptr

def parameterValueKind : Setting → Option Bytes
  | .map | .tensor _ => none
  | .monostate | .boolean _ | .integer _ | .real _ | .complex | .string _ => some (ascii "scalar")

def Value.valueToStringList : Value → Option (List Bytes)
  | .tensor items => items.mapM valueToString
  | .string s => some [s]
  | _ => none

section

variable (info : PropertyMap) (name : Bytes)

def parameterMetaString (suffix : Bytes) : Option Bytes := (info.find (name ++ suffix)).bind Value.valueToString

def parameterMetaStringList (suffix : Bytes) : Option (List Bytes) :=
  (info.find (name ++ suffix)).bind Value.valueToStringList

def firstMetaString (suffix otherwise : Bytes) : Bytes :=
  (((parameterMetaString info name suffix).filter (· ≠ [])).or
    ((parameterMetaString info name otherwise).filter (· ≠ []))).getD []

def parameterSummary : Bytes := firstMetaString info name (ascii "::description") (ascii "::documentation")

def parameterEnumChoices : Option (List Bytes) := parameterMetaStringList info name (ascii "::enum_values")

def parameterEnumType : Option Bytes := parameterMetaString info name (ascii "::enum_type")

def parameterRuntimeMutability : Option Bytes :=
  if name = ascii "name" ∨ name = ascii "unique_name" then some (ascii "immutable") else none

def parameterUiHint : Option Bytes :=
  if name = ascii "name" ∨ name = ascii "unique_name" then some (ascii "read_only")
  else if name = ascii "compute_domain" ∨ name = ascii "disconnect_on_done" ∨ name = ascii "ui_constraints" ∨
      name = ascii "input_chunk_size" ∨ name = ascii "output_chunk_size" ∨ name = ascii "stride" then
    some (ascii "advanced")
  else none

end

def toParameter (info : PropertyMap) (setting : Bytes × Setting) : BlockParameterDescriptor where
  name := setting.1
  type := parameterTypeName setting.2
  required := false
  defaultValue := parameterDefaultValue setting.2
  summary := parameterSummary info setting.1
  runtimeMutability := parameterRuntimeMutability setting.1
  valueKind := parameterValueKind setting.2
  enumChoices := parameterEnumChoices info setting.1
  enumType := parameterEnumType info setting.1
  enumLabels := []
  enumSource := none
  uiHint := parameterUiHint setting.1
  allowCustomValue := none

def toPortDescriptor (blockId : Bytes) (parameters : List BlockParameterDescriptor) (isInput : Bool) :
    DynamicPortOrCollection → BlockPortDescriptor
  | .port name typeName =>
    { name := name
      type := typeName
      cardinalityKind := .fixed
      currentPortCount := some 1
      renderPortCount := some 1
      minPortCount := some 1
      maxPortCount := some 1
      sizeParameter := none
      handleNameTemplate := none }
  | .collection name portTypeNames =>
    let metadata := inferCollectionMetadata name blockId isInput parameters portTypeNames.length
    let type := portTypeNames.headD []
    { name := name
      type := if type = [] then metadata.elementType.getD [] else type
      cardinalityKind := metadata.cardinalityKind
      currentPortCount := metadata.currentPortCount
      renderPortCount := metadata.renderPortCount
      minPortCount := metadata.minPortCount
      maxPortCount := metadata.maxPortCount
      sizeParameter := metadata.sizeParameter
      handleNameTemplate := metadata.handleNameTemplate }

namespace BlockModel

variable (block : BlockModel) (id : Bytes)

def blockName : Bytes :=
  if block.name ≠ [] ∧ block.name ≠ id ∧ ¬ ascii "::" <:+: block.name then block.name else deriveNameFromId id

def blockSummary : Bytes := firstMetaString block.metaInformation [] (ascii "description") (ascii "Description")

def reflectedCanonicalType : Option Bytes := if block.typeName = [] then none else some block.typeName

def toParameters : List BlockParameterDescriptor :=
  (block.settings.map (toParameter block.metaInformation)).mergeSort fun left right => !decide (right.name < left.name)

def reflected : BlockDescriptor where
  id := id
  canonicalType := block.reflectedCanonicalType
  name := block.blockName id
  category := deriveCategoryFromMetadata block.metaInformation id
  summary := block.blockSummary
  inputs := block.dynamicInputPorts.map (toPortDescriptor id block.toParameters true)
  outputs := block.dynamicOutputPorts.map (toPortDescriptor id block.toParameters false)
  parameters := block.toParameters

end BlockModel

structure CatalogLoadError where
  what : Bytes
  deriving DecidableEq

/-- Where blocks are instantiated: in the loaders kept so far, the last one first, and then in the
global registry. -/
structure BlockFactory where
  retainedLoaders : List (Bytes → Option BlockModel)
  globalBlockRegistry : Bytes → Option BlockModel

namespace BlockFactory

variable (factory : BlockFactory) (id : Bytes)

def instantiate : Option BlockModel :=
  (factory.retainedLoaders.reverse.findSome? fun loader => loader id).or (factory.globalBlockRegistry id)

def reflectBlock : Except CatalogLoadError BlockDescriptor :=
  match factory.instantiate id with
  | none => .error ⟨ascii "failed to instantiate GNU Radio 4 block for catalog: " ++ id⟩
  | some block => .ok (block.reflected id)

end BlockFactory

/-! ### What is reflected -/

variable {block : BlockModel} {id : Bytes} {descriptor : BlockDescriptor} {factory : BlockFactory}

theorem BlockModel.toParameters_sorted : block.toParameters.Pairwise fun left right => left.name < right.name := by
  have horder : StrictOrderBy (fun left right : BlockParameterDescriptor => left.name < right.name) (·.name) :=
    bytes_order.of_tag
  refine horder.pairwise_mergeSort ?_
  rw [List.map_map]
  exact block.settings_nodup

theorem BlockModel.canonicalType_reflected : (block.reflected id).canonicalType ≠ some [] := by
  unfold reflected reflectedCanonicalType
  split
  · nofun
  · next hne => exact fun h => hne (Option.some.inj h)

theorem BlockFactory.reflectBlock_eq_ok :
    factory.reflectBlock id = .ok descriptor ↔ ∃ block, factory.instantiate id = some block ∧ block.reflected id = descriptor := by
  unfold reflectBlock
  cases factory.instantiate id with
  | none => simp
  | some block => simp

theorem BlockFactory.id_of_reflectBlock (h : factory.reflectBlock id = .ok descriptor) : descriptor.id = id := by
  obtain ⟨block, -, rfl⟩ := reflectBlock_eq_ok.mp h
  rfl

theorem BlockFactory.canonicalType_of_reflectBlock (h : factory.reflectBlock id = .ok descriptor) :
    descriptor.canonicalType ≠ some [] := by
  obtain ⟨block, -, rfl⟩ := reflectBlock_eq_ok.mp h
  exact block.canonicalType_reflected

end Gr4ControlPlane
