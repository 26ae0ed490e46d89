import Gr4ControlPlane.Domain.SessionStream
import Mathlib.Algebra.Group.Int.Defs
import Mathlib.Data.Finset.Card

namespace Gr4ControlPlane

/-- The first candidate key under which the block has a usable name. -/
def firstName (block : PropertyMap) : List Bytes → Option Bytes
  | [] => none
  | candidate :: candidates =>
    if nonempty (parameterString block candidate) then parameterString block candidate
    else firstName block candidates

/-- `block["id"] = *block_type`, if that is usable. -/
def assignId (block : PropertyMap) (blockType : Option Bytes) : PropertyMap :=
  match blockType with
  | none | some [] => block
  | some blockType => block.insertOrAssign (ascii "id") (.string blockType)

def assignName (parameters : PropertyMap) (name : Option Bytes) : PropertyMap :=
  match name with
  | none | some [] => parameters
  | some name =>
    if parameters.contains (ascii "name") then parameters
    else parameters.insertOrAssign (ascii "name") (.string name)

def normalizeBlock (block : PropertyMap) : PropertyMap :=
  let studioNodeId := parameterString block (ascii "id")
  let block := assignId block (parameterString block (ascii "block"))
  let block :=
    if block.contains (ascii "id") then block
    else assignId block (parameterString block (ascii "block_type"))
  let parameters := mergedParameters block
  let parameters := assignName parameters studioNodeId
  let parameters := assignName parameters (firstName block [ascii "instance_name", ascii "name"])
  -- `needs_parameters_write` is only set along with an entry, which makes them non-empty
  if parameters.isEmpty then block else block.insertOrAssign (ascii "parameters") (.map parameters)

def isDigit (byte : UInt8) : Bool := 48 ≤ byte && byte ≤ 57

/-- `std::stoll` on decimal digits. -/
def stoll (digits : Bytes) : Except Bytes Int :=
  let n : Int := digits.foldl (fun n byte => 10 * n + (byte.toNat - 48 : Nat)) 0
  if n < 2 ^ 63 then .ok n else .error (ascii "stoll")

/-- What follows the last `byte`; all of the token if there is none. -/
def afterLast (byte : UInt8) (token : Bytes) : Bytes := (token.reverse.takeWhile (· ≠ byte)).reverse

def normalizePort (token : Bytes) : Except Bytes Value :=
  if token = ascii "in" ∨ token = ascii "out" then .ok (.integer 0)
  else if token ≠ [] ∧ token.all isDigit then Value.integer <$> stoll token
  else
    let suffix := afterLast 116 token
    if 2 < token.length ∧ (ascii "in" <+: token ∨ ascii "out" <+: token) ∧ suffix ≠ [] ∧
        suffix.all isDigit then
      Value.integer <$> stoll suffix
    else .ok (.string token)

variable (yaml : YamlPmt)

def normalizeEntry (sequence : List Value) (index : Nat) : Except Bytes (List Value × Bool) :=
  match (sequence[index]?).bind fun value => value.valueToString.map (value, ·) with
  | none => .ok (sequence, false)
  | some (value, token) => do
    let normalized ← normalizePort token
    return (sequence.set index normalized, !yaml.same normalized value)

def normalizeConnection (connection : Value) : Except Bytes (Value × Bool) :=
  match connection with
  | .tensor sequence =>
    if 4 ≤ sequence.length then do
      let (sequence, changed) ← normalizeEntry yaml sequence 1
      let (sequence, changed') ← normalizeEntry yaml sequence 3
      return (.tensor sequence, changed || changed')
    else .ok (.tensor sequence, false)
  | .map map =>
    match parameterString map (ascii "source_block"), parameterString map (ascii "source_port_token"),
        parameterString map (ascii "dest_block"), parameterString map (ascii "dest_port_token") with
    | some sourceBlock, some sourcePort, some destBlock, some destPort => do
      let source ← normalizePort sourcePort
      let dest ← normalizePort destPort
      return (.tensor [.string sourceBlock, source, .string destBlock, dest], true)
    | _, _, _, _ => .ok (.map map, false)
  | connection => .ok (connection, false)

def normalizeConnections : List Value → Except Bytes (List Value × Bool)
  | [] => .ok ([], false)
  | connection :: connections => do
    let (connection, changed) ← normalizeConnection yaml connection
    let (connections, changed') ← normalizeConnections connections
    return (connection :: connections, changed || changed')

/-- The name a block goes by when streams are bound to it. -/
def runtimeName (block : PropertyMap) : Option Bytes :=
  let name := parameterString (blockMap block (ascii "parameters")) (ascii "name")
  if nonempty name then name else if block.contains (ascii "instance_name") then
    parameterString block (ascii "instance_name")
  else name

/-- The block with its endpoint, and the stream it was taken from. -/
def injectBlock (bindings : List RuntimeStreamBinding) (value : Value) : Value × Option Bytes :=
  match value with
  | .map block =>
    match runtimeName block with
    | none | some [] => (.map block, none)
    | some name =>
      match bindings.find? (·.plan.blockInstanceName = name) with
      | none => (.map block, none)
      | some binding =>
        let parameters := (blockMap block (ascii "parameters")).insertOrAssign (ascii "endpoint")
          (.string binding.internal.endpoint)
        (.map (PropertyMap.insertOrAssign block (ascii "parameters") (.map parameters)),
          some binding.plan.streamId)
  | value => (value, none)

def injectStreamBindings (root : PropertyMap) (bindings : List RuntimeStreamBinding) :
    Except Bytes (PropertyMap × Bool) :=
  if bindings = [] then .ok (root, false)
  else
    match (root.find (ascii "blocks")).bind Value.getTensor with
    | none => .ok (root, false)
    | some blocks =>
      let blocks := blocks.map (injectBlock bindings)
      let injectedStreamIds := blocks.filterMap Prod.snd
      if injectedStreamIds.toFinset.card = bindings.length then
        .ok (root.insertOrAssign (ascii "blocks") (.tensor (blocks.map Prod.fst)), !injectedStreamIds.isEmpty)
      else .error (ascii "failed to inject all managed stream bindings into runtime graph")

def normalizeBlockValue : Value → Value
  | .map block => .map (normalizeBlock block)
  | value => value

def blockChanged : Value → Bool
  | .map block => !yaml.same (.map (normalizeBlock block)) (.map block)
  | _ => false

def normalizeBlocks (root : PropertyMap) : PropertyMap × Bool :=
  match (root.find (ascii "blocks")).bind Value.getTensor with
  | none => (root, false)
  | some blocks =>
    (root.insertOrAssign (ascii "blocks") (.tensor (blocks.map normalizeBlockValue)),
      blocks.any (blockChanged yaml))

def normalizeGraphConnections (root : PropertyMap) : Except Bytes (PropertyMap × Bool) :=
  match (root.find (ascii "connections")).bind Value.getTensor with
  | none => .ok (root, false)
  | some connections => do
    let (connections, changed) ← normalizeConnections yaml connections
    return (root.insertOrAssign (ascii "connections") (.tensor connections), changed)

def normalizeGraphContent (content : Bytes) (bindings : List RuntimeStreamBinding) : Except Bytes Bytes :=
  match yaml.deserialize content with
  | none => .ok content
  | some root => do
    let (root, changed) := normalizeBlocks yaml root
    let (root, changed') ← normalizeGraphConnections yaml root
    let (root, changed'') ← injectStreamBindings root bindings
    return if changed || changed' || changed'' then yaml.serialize root else content

end Gr4ControlPlane
