import Gr4ControlPlane.Domain.Pmt
import Gr4ControlPlane.Domain.Session

namespace Gr4ControlPlane

structure BrowserStreamDescriptor where
  id : Bytes
  blockInstanceName : Bytes
  transport : Bytes
  payloadFormat : Bytes
  path : Bytes
  ready : Bool
  deriving DecidableEq

structure RuntimeStreamBindingPlan where
  streamId : Bytes
  blockInstanceName : Bytes
  transport : Bytes
  payloadFormat : Bytes
  path : Bytes
  ready : Bool
  deriving DecidableEq

structure StreamRuntimePlan where
  streams : List RuntimeStreamBindingPlan
  deriving DecidableEq

structure InternalStreamBinding where
  protocol : Bytes
  host : Bytes
  port : Nat
  path : Bytes
  endpoint : Bytes
  deriving DecidableEq

structure RuntimeStreamBinding where
  plan : RuntimeStreamBindingPlan
  internal : InternalStreamBinding
  browser : BrowserStreamDescriptor
  deriving DecidableEq

def toBrowserStreamDescriptor (plan : RuntimeStreamBindingPlan) : BrowserStreamDescriptor where
  id := plan.streamId
  blockInstanceName := plan.blockInstanceName
  transport := plan.transport
  payloadFormat := plan.payloadFormat
  path := plan.path
  ready := plan.ready

def supportedTransports : List Bytes :=
  [ascii "http_snapshot", ascii "http_poll", ascii "websocket"]

def transportSupported (transport : Bytes) : Bool := supportedTransports.contains transport

def isWebsocket (transport : Bytes) : Bool := transport == ascii "websocket"

def makeStreamPath (sessionId streamId transport : Bytes) : Bytes :=
  ascii "/sessions/" ++ sessionId ++ ascii "/streams/" ++ streamId ++
    (if isWebsocket transport then ascii "/ws" else ascii "/http")

structure AuthoredStreamIntent where
  declared : Bool
  streamId : Option Bytes
  transport : Option Bytes
  payloadFormat : Option Bytes
  deriving DecidableEq

structure NormalizedBlock where
  blockTypeId : Bytes
  instanceName : Bytes
  stream : AuthoredStreamIntent
  deriving DecidableEq

/-- `has_value() && !empty()` -/
def nonempty (name : Option Bytes) : Bool := name.any (!·.isEmpty)

def parameterString (parameters : PropertyMap) (key : Bytes) : Option Bytes :=
  (parameters.find key).bind Value.valueToString

def normalizeStreamIntent (parameters : PropertyMap) : AuthoredStreamIntent :=
  match parameters.find (ascii "stream") with
  | some value =>
    match value.getMap with
    | some stream =>
      { declared := true
        streamId := parameterString stream (ascii "id")
        transport := parameterString stream (ascii "transport")
        payloadFormat := parameterString stream (ascii "payload_format") }
    | none => { declared := true, streamId := none, transport := none, payloadFormat := none }
  | none =>
    let streamId := parameterString parameters (ascii "stream_id")
    let transport := parameterString parameters (ascii "transport")
    let payloadFormat := parameterString parameters (ascii "payload_format")
    { declared := streamId.isSome || transport.isSome || payloadFormat.isSome
      streamId := streamId
      transport := transport
      payloadFormat := payloadFormat }

def addMissing (parameters : PropertyMap) : PropertyMap → PropertyMap
  | [] => parameters
  | (key, value) :: raw =>
    addMissing (if parameters.contains key then parameters else parameters.insertOrAssign key value) raw

def blockMap (block : PropertyMap) (key : Bytes) : PropertyMap :=
  ((block.find key).bind Value.getMap).getD []

def mergedParameters (block : PropertyMap) : PropertyMap :=
  addMissing (blockMap block (ascii "parameters")) (blockMap block (ascii "raw_parameters"))

/-- The first candidate with a usable name; a present one that has none still replaces `name`. -/
def candidateName (block : PropertyMap) (name : Option Bytes) : List Bytes → Option Bytes
  | [] => name
  | candidate :: candidates =>
    match block.find candidate with
    | none => candidateName block name candidates
    | some value =>
      if nonempty value.valueToString then value.valueToString
      else candidateName block value.valueToString candidates

def normalizeStreamBlock (block : PropertyMap) : Option NormalizedBlock :=
  let studioNodeId := parameterString block (ascii "id")
  let blockTypeId :=
    (parameterString block (ascii "block")).or
      ((parameterString block (ascii "id")).or (parameterString block (ascii "block_type")))
  match blockTypeId with
  | none | some [] => none
  | some blockTypeId =>
    let parameters := mergedParameters block
    let instanceName := parameterString parameters (ascii "name")
    let instanceName :=
      if !nonempty instanceName && nonempty studioNodeId && block.contains (ascii "block") then studioNodeId
      else instanceName
    let instanceName :=
      if nonempty instanceName then instanceName
      else candidateName block instanceName [ascii "instance_name", ascii "name"]
    some
      { blockTypeId := blockTypeId
        instanceName := instanceName.getD []
        stream := normalizeStreamIntent parameters }

def NormalizedBlock.streamId (block : NormalizedBlock) : Bytes :=
  if nonempty block.stream.streamId then block.stream.streamId.getD [] else block.instanceName

/-- The error, or `seen_stream_ids` as the call leaves it. -/
def validateStreamBlock (block : NormalizedBlock) (seenStreamIds : List Bytes) :
    Except Bytes (List Bytes) :=
  if !block.stream.declared then .ok seenStreamIds
  else if block.instanceName = [] then
    .error (ascii "managed stream block is missing instance name: " ++ block.blockTypeId)
  else if block.streamId = [] then
    .error (ascii "managed stream id is missing: " ++ block.blockTypeId)
  else if !nonempty block.stream.transport then
    .error (ascii "managed stream block is missing transport: " ++ block.blockTypeId)
  else if !transportSupported (block.stream.transport.getD []) then
    .error (ascii "managed stream transport is not supported: " ++ block.stream.transport.getD [])
  else if !nonempty block.stream.payloadFormat then
    .error (ascii "managed stream block is missing payload_format: " ++ block.blockTypeId)
  else if block.streamId ∈ seenStreamIds then
    .error (ascii "managed stream id is duplicated: " ++ block.streamId)
  else .ok (block.streamId :: seenStreamIds)

variable (yaml : YamlPmt)

def graphBlocks (session : Session) : Option (List Value) := do
  let root ← yaml.deserialize session.grcContent
  let blocks ← root.find (ascii "blocks")
  blocks.getTensor

/-- The blocks both loops below look at. -/
def declaredBlocks (blocks : List Value) : List NormalizedBlock :=
  (blocks.filterMap fun value => value.getMap.bind normalizeStreamBlock).filter (·.stream.declared)

def bindingPlan (sessionId : Bytes) (block : NormalizedBlock) : RuntimeStreamBindingPlan where
  streamId := block.streamId
  blockInstanceName := block.instanceName
  transport := block.stream.transport.getD []
  payloadFormat := block.stream.payloadFormat.getD []
  path := makeStreamPath sessionId block.streamId (block.stream.transport.getD [])
  ready := true

def planStreams (sessionId : Bytes) :
    List NormalizedBlock → List Bytes → Option (List RuntimeStreamBindingPlan)
  | [], _ => some []
  | block :: blocks, seen =>
    match validateStreamBlock block seen with
    | .error _ => none
    | .ok seen => (planStreams sessionId blocks seen).map (bindingPlan sessionId block :: ·)

def deriveStreamRuntimePlan (session : Session) : Option StreamRuntimePlan := do
  let blocks ← graphBlocks yaml session
  let streams ← planStreams session.id (declaredBlocks blocks) []
  if streams.isEmpty then none else some ⟨streams⟩

def firstStreamError : List NormalizedBlock → List Bytes → Option Bytes
  | [], _ => none
  | block :: blocks, seen =>
    match validateStreamBlock block seen with
    | .error what => some what
    | .ok seen => firstStreamError blocks seen

def validateStreamRuntimeContract (session : Session) : Option Bytes := do
  let blocks ← graphBlocks yaml session
  firstStreamError (declaredBlocks blocks) []

end Gr4ControlPlane
