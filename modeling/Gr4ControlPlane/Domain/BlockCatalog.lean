import Gr4ControlPlane.Domain.Bytes

namespace Gr4ControlPlane

inductive BlockParameterDefault
  | nullptr
  | boolean (b : Bool)
  | integer (n : Int32)
  | real (bits : UInt64)
  | string (s : Bytes)
  deriving Inhabited

inductive BlockPortCardinalityKind
  | fixed | dynamic
  deriving DecidableEq, Inhabited

structure BlockPortDescriptor where
  name : Bytes
  type : Bytes
  cardinalityKind : BlockPortCardinalityKind
  currentPortCount : Option Int32
  renderPortCount : Option Int32
  minPortCount : Option Int32
  maxPortCount : Option Int32
  sizeParameter : Option Bytes
  handleNameTemplate : Option Bytes
  deriving Inhabited

structure BlockParameterDescriptor where
  name : Bytes
  type : Bytes
  required : Bool
  defaultValue : BlockParameterDefault
  summary : Bytes
  runtimeMutability : Option Bytes
  valueKind : Option Bytes
  enumChoices : Option (List Bytes)
  enumType : Option Bytes
  enumLabels : List (Bytes × Bytes)
  enumSource : Option Bytes
  uiHint : Option Bytes
  allowCustomValue : Option Bool
  deriving Inhabited

structure BlockDescriptor where
  id : Bytes
  canonicalType : Option Bytes
  name : Bytes
  category : Bytes
  summary : Bytes
  inputs : List BlockPortDescriptor
  outputs : List BlockPortDescriptor
  parameters : List BlockParameterDescriptor
  deriving Inhabited

/-- The double is neither infinite nor a NaN: not all bits of its exponent are set. -/
def isFinite (bits : UInt64) : Bool := bits &&& 0x7ff0000000000000 != 0x7ff0000000000000

def isNaN (bits : UInt64) : Bool := !isFinite bits && bits &&& 0xfffffffffffff != 0

/-- `==` on doubles: the two zeros are equal, and a NaN not even to itself. -/
def realEq (left right : UInt64) : Bool :=
  !isNaN left && !isNaN right && (left == right || (left ||| right) &&& 0x7fffffffffffffff == 0)

/-! The comparisons the domain defines, member by member. -/

instance : BEq BlockParameterDefault where
  beq
    | .nullptr, .nullptr => true
    | .boolean left, .boolean right => left == right
    | .integer left, .integer right => left == right
    | .real left, .real right => realEq left right
    | .string left, .string right => left == right
    | _, _ => false

instance : BEq BlockPortDescriptor where
  beq left right :=
    left.name == right.name && left.type == right.type && left.cardinalityKind == right.cardinalityKind &&
      left.currentPortCount == right.currentPortCount && left.minPortCount == right.minPortCount &&
      left.renderPortCount == right.renderPortCount && left.maxPortCount == right.maxPortCount &&
      left.sizeParameter == right.sizeParameter && left.handleNameTemplate == right.handleNameTemplate

instance : BEq BlockParameterDescriptor where
  beq left right :=
    left.name == right.name && left.type == right.type && left.required == right.required &&
      left.defaultValue == right.defaultValue && left.summary == right.summary &&
      left.runtimeMutability == right.runtimeMutability && left.valueKind == right.valueKind &&
      left.enumChoices == right.enumChoices && left.enumType == right.enumType &&
      left.enumLabels == right.enumLabels && left.enumSource == right.enumSource &&
      left.uiHint == right.uiHint && left.allowCustomValue == right.allowCustomValue

instance : BEq BlockDescriptor where
  beq left right :=
    left.id == right.id && left.canonicalType == right.canonicalType && left.name == right.name &&
      left.category == right.category && left.summary == right.summary && left.inputs == right.inputs &&
      left.outputs == right.outputs && left.parameters == right.parameters

end Gr4ControlPlane
