import Gr4ControlPlane.Api.WebSocketTarget
import Gr4ControlPlane.Domain.StreamContract
import Mathlib.Data.List.TakeWhile

namespace Gr4ControlPlane

variable {sessionId streamId value decoded : Bytes}

/-- `[A-Za-z0-9_]` -/
def isWord (byte : UInt8) : Bool :=
  (48 ≤ byte && byte ≤ 57) || (65 ≤ byte && byte ≤ 90) || (97 ≤ byte && byte ≤ 122) || byte == 95

def httpSuffix : Bytes := ascii "/http"

/-- What a path has between `/streams/` and `/http`. -/
def httpStreamSegment (path : Bytes) : Option Bytes :=
  if !httpSuffix.isSuffixOf path then none
  else
    (findFrom path streamInfix streamPrefix.length).map fun infixPos =>
      let streamBegin := infixPos + streamInfix.length
      substr path streamBegin (path.length - httpSuffix.length - streamBegin)

/-- Requesting the path of a stream of this session, as it is advertised, addresses that stream. -/
def LeadsBack (sessionId : Bytes) (stream : RuntimeStreamBindingPlan) : Prop :=
  if isWebsocket stream.transport then
    parseWebsocketStreamTarget stream.path = .ok (some (sessionId, stream.streamId))
  else (httpStreamSegment stream.path).map decodePercentEncoded = some (.ok stream.streamId)

/-- No byte of the text is decoded: it has no `+`, and no `%` with two bytes after it. -/
def Verbatim (value : Bytes) : Prop := 43 ∉ value ∧ ∀ i, value[i]? = some 37 → value.length ≤ i + 2

def PlainStreamId (stream : RuntimeStreamBindingPlan) : Prop :=
  Verbatim stream.streamId ∧ (isWebsocket stream.transport → 63 ∉ stream.streamId)

theorem decodePercentEncoded_escape (hi lo : UInt8) (rest : Bytes) :
    decodePercentEncoded (37 :: hi :: lo :: rest) = .ok decoded ↔
      ∃ byte tail, stoi [hi, lo] = .ok byte ∧ decodePercentEncoded rest = .ok tail ∧
        decoded = toChar byte :: tail := by
  rw [decodePercentEncoded, if_pos (by decide)]
  cases stoi [hi, lo] with
  | error what => simp [bind, Except.bind]
  | ok byte =>
    cases decodePercentEncoded rest with
    | error what => simp [bind, Except.bind]
    | ok tail => simp [bind, Except.bind, pure, Except.pure, eq_comm]

theorem decodePercentEncoded_plain {byte : UInt8} (other : byte ≠ 37) (rest : Bytes) :
    decodePercentEncoded (byte :: rest) = .ok decoded ↔
      ∃ tail, decodePercentEncoded rest = .ok tail ∧ decoded = plusToSpace byte :: tail := by
  match rest with
  | [] | [_] => simp [decodePercentEncoded, eq_comm]
  | hi :: lo :: rest =>
    rw [decodePercentEncoded, if_neg (by simpa using other)]
    cases decodePercentEncoded (hi :: lo :: rest) with
    | error what => simp [bind, Except.bind]
    | ok tail => simp [bind, Except.bind, pure, Except.pure, eq_comm]

theorem decode_induction {motive : Bytes → Prop} (nil : motive [])
    (escape : ∀ hi lo rest, motive rest → motive (37 :: hi :: lo :: rest))
    (percent : ∀ rest, rest.length ≤ 1 → motive (37 :: rest))
    (plain : ∀ byte rest, byte ≠ 37 → motive rest → motive (byte :: rest)) : ∀ value, motive value
  | [] => nil
  | byte :: rest => by
    by_cases h : byte = 37
    · subst h
      match rest with
      | [] => exact percent [] (by simp)
      | [lo] => exact percent [lo] (by simp)
      | hi :: lo :: rest => exact escape hi lo rest (decode_induction nil escape percent plain rest)
    · exact plain byte rest h (decode_induction nil escape percent plain rest)

theorem decodePercentEncoded_percent {rest : Bytes} (few : rest.length ≤ 1) :
    decodePercentEncoded (37 :: rest) = .ok (37 :: rest.map plusToSpace) := by
  match rest with
  | [] | [_] => simp [decodePercentEncoded, plusToSpace]

theorem decodePercentEncoded_length (h : decodePercentEncoded value = .ok decoded) :
    decoded.length ≤ value.length := by
  induction value using decode_induction generalizing decoded with
  | nil =>
    cases h
    simp
  | escape hi lo rest ih =>
    obtain ⟨byte, tail, -, hr, rfl⟩ := (decodePercentEncoded_escape hi lo rest).mp h
    have short := ih hr
    simp only [List.length_cons]
    omega
  | percent rest few =>
    rw [decodePercentEncoded_percent few] at h
    cases h
    simp
  | plain byte rest other ih =>
    obtain ⟨tail, hr, rfl⟩ := (decodePercentEncoded_plain other rest).mp h
    simpa using ih hr

theorem verbatim_plain {byte : UInt8} (other : byte ≠ 37) :
    Verbatim (byte :: value) ↔ byte ≠ 43 ∧ Verbatim value := by
  unfold Verbatim
  rw [List.mem_cons, not_or, and_assoc, ne_comm]
  apply and_congr_right
  intro _
  apply and_congr_right
  intro _
  constructor
  · intro late i hi
    have := late (i + 1) (by simpa using hi)
    simp only [List.length_cons] at this
    omega
  · intro late i hi
    cases i with
    | zero => exact absurd (by simpa using hi) other
    | succ i =>
      have := late i (by simpa using hi)
      simp only [List.length_cons]
      omega

theorem plusToSpace_eq_self {byte : UInt8} : plusToSpace byte = byte ↔ byte ≠ 43 := by
  unfold plusToSpace
  constructor
  · rintro h rfl
    exact absurd h (by decide)
  · intro h
    simp [h]

theorem map_plusToSpace_eq_self : value.map plusToSpace = value ↔ 43 ∉ value := by
  induction value with
  | nil => simp
  | cons byte value ih =>
    rw [List.map_cons, List.cons.injEq, ih, plusToSpace_eq_self, List.mem_cons, not_or, ne_comm]

theorem decodePercentEncoded_eq_self : decodePercentEncoded value = .ok value ↔ Verbatim value := by
  induction value using decode_induction with
  | nil => simp [decodePercentEncoded, Verbatim]
  | escape hi lo rest ih =>
    apply iff_of_false
    · intro h
      obtain ⟨byte, tail, -, hr, heq⟩ := (decodePercentEncoded_escape hi lo rest).mp h
      have short := decodePercentEncoded_length hr
      have size := congrArg List.length heq
      simp only [List.length_cons] at size
      omega
    · intro h
      have := h.2 0 rfl
      simp at this
  | percent rest few =>
    have late : ∀ i, (37 :: rest)[i]? = some 37 → (37 :: rest).length ≤ i + 2 := fun i _ => by
      rw [List.length_cons]
      omega
    rw [decodePercentEncoded_percent few, Except.ok.injEq, List.cons.injEq, and_iff_right rfl,
      map_plusToSpace_eq_self, Verbatim, and_iff_left late]
    simp
  | plain byte rest other ih =>
    rw [decodePercentEncoded_plain other, verbatim_plain other, ← ih, ← plusToSpace_eq_self]
    constructor
    · rintro ⟨tail, hr, heq⟩
      obtain ⟨hbyte, rfl⟩ := List.cons.inj heq
      exact ⟨hbyte.symm, hr⟩
    · rintro ⟨hbyte, hr⟩
      exact ⟨rest, hr, by rw [hbyte]⟩

theorem httpStreamSegment_eq {path : Bytes} (segment : 47 ∉ sessionId)
    (split : path = streamPrefix ++ (sessionId ++ (streamInfix ++ (streamId ++ httpSuffix)))) :
    httpStreamSegment path = some streamId := by
  have back : httpSuffix <:+ path := by
    rw [split]
    simp only [← List.append_assoc]
    exact List.suffix_append _ _
  have size : path.length - httpSuffix.length - (streamPrefix.length + sessionId.length + streamInfix.length) =
      streamId.length := by
    simp only [split, List.length_append]
    omega
  simp only [httpStreamSegment, List.isSuffixOf_iff_suffix.2 back, Bool.not_true, Bool.false_eq_true, if_false,
    findFrom_streamInfix segment split, Option.map_some, size]
  simp [substr, split, ← List.drop_drop]

theorem parseWebsocketStreamTarget_eq_some {target : Bytes} :
    parseWebsocketStreamTarget target = .ok (some (sessionId, streamId)) ↔
      ∃ encoded, NamesStream target sessionId encoded ∧ decodePercentEncoded encoded = .ok streamId := by
  simp only [← splitStreamTarget_eq_some, parseWebsocketStreamTarget]
  cases splitStreamTarget target with
  | none => simp
  | some names =>
    obtain ⟨s, e⟩ := names
    simp only [Option.some.injEq, Prod.mk.injEq]
    cases hd : decodePercentEncoded e with
    | error what =>
      simp only [bind, Except.bind, false_iff, not_exists, not_and, reduceCtorEq]
      rintro encoded ⟨rfl, rfl⟩
      simp [hd]
    | ok decoded =>
      simp only [bind, Except.bind, pure, Except.pure, Except.ok.injEq, Option.some.injEq, Prod.mk.injEq]
      constructor
      · rintro ⟨rfl, rfl⟩
        exact ⟨e, ⟨rfl, rfl⟩, hd⟩
      · rintro ⟨encoded, ⟨rfl, rfl⟩, h⟩
        rw [hd] at h
        exact ⟨rfl, Except.ok.inj h⟩

theorem not_mem_of_isWord {byte : UInt8} (word : ∀ byte ∈ sessionId, isWord byte) (other : isWord byte = false) :
    byte ∉ sessionId := by
  intro inside
  simpa [other] using word byte inside

theorem makeStreamPath_eq (transport : Bytes) :
    makeStreamPath sessionId streamId transport = streamPrefix ++ (sessionId ++ (streamInfix ++ (streamId ++
      if isWebsocket transport then streamSuffix else httpSuffix))) := by
  simp only [makeStreamPath, streamPrefix, streamInfix, streamSuffix, httpSuffix, List.append_assoc]

theorem routeOf_eq_self {target : Bytes} (noQuery : 63 ∉ target) : routeOf target = target := by
  apply List.takeWhile_eq_self_iff.2
  intro byte inside
  simpa using fun h : byte = 63 => noQuery (h ▸ inside)

theorem routeOf_length {target : Bytes} (query : 63 ∈ target) : (routeOf target).length < target.length := by
  apply Nat.lt_of_le_of_ne (List.takeWhile_prefix _).length_le
  intro whole
  have same := (List.takeWhile_prefix _).eq_of_length whole
  simpa using List.takeWhile_eq_self_iff.1 same 63 query

theorem websocketPath_leadsBack (nonempty : sessionId ≠ []) (word : ∀ byte ∈ sessionId, isWord byte)
    (some_stream : streamId ≠ []) {path : Bytes}
    (split : path = streamPrefix ++ (sessionId ++ (streamInfix ++ (streamId ++ streamSuffix)))) :
    parseWebsocketStreamTarget path = .ok (some (sessionId, streamId)) ↔ Verbatim streamId ∧ 63 ∉ streamId := by
  rw [parseWebsocketStreamTarget_eq_some, ← decodePercentEncoded_eq_self]
  by_cases query : 63 ∈ streamId
  · refine iff_of_false ?_ fun h => h.2 query
    rintro ⟨encoded, names, decodes⟩
    have cut : (routeOf path).length < path.length := routeOf_length (by simp [split, query])
    have short := decodePercentEncoded_length decodes
    rw [names.route, split] at cut
    simp only [List.length_append] at cut
    omega
  · have noQuery : 63 ∉ path := by
      have session : 63 ∉ sessionId := not_mem_of_isWord word (by decide)
      have fixed : 63 ∉ streamPrefix ∧ 63 ∉ streamInfix ∧ 63 ∉ streamSuffix := by decide
      simp [split, session, query, fixed]
    have names : NamesStream path sessionId streamId :=
      ⟨(routeOf_eq_self noQuery).trans split, nonempty, not_mem_of_isWord word (by decide), some_stream⟩
    rw [and_iff_left query]
    constructor
    · rintro ⟨encoded, names', decodes⟩
      have same : some (sessionId, encoded) = some (sessionId, streamId) := names'.split.symm.trans names.split
      cases same
      exact decodes
    · exact fun decodes => ⟨streamId, names, decodes⟩

theorem leadsBack_iff {stream : RuntimeStreamBindingPlan} (nonempty : sessionId ≠ [])
    (word : ∀ byte ∈ sessionId, isWord byte) (some_stream : stream.streamId ≠ [])
    (path : stream.path = makeStreamPath sessionId stream.streamId stream.transport) :
    LeadsBack sessionId stream ↔ PlainStreamId stream := by
  rw [makeStreamPath_eq] at path
  unfold LeadsBack PlainStreamId
  cases kind : isWebsocket stream.transport with
  | true =>
    rw [kind, if_pos rfl] at path
    rw [if_pos rfl, websocketPath_leadsBack nonempty word some_stream path]
    simp
  | false =>
    rw [kind, if_neg (by decide)] at path
    rw [if_neg (by decide), httpStreamSegment_eq (not_mem_of_isWord word (by decide)) path]
    simp [decodePercentEncoded_eq_self]

/-- An advertised path leads back to its stream exactly if the stream's id has nothing the server
would decode or cut off. -/
theorem advertised_path_leads_back {yaml : YamlPmt} {session : Session} {plan : StreamRuntimePlan}
    {stream : RuntimeStreamBindingPlan} (nonempty : session.id ≠ []) (word : ∀ byte ∈ session.id, isWord byte)
    (derived : deriveStreamRuntimePlan yaml session = some plan) (member : stream ∈ plan.streams) :
    LeadsBack session.id stream ↔ PlainStreamId stream := by
  have planned : stream.Planned session.id := by
    have member : stream ∈ derivedStreams yaml session := by simpa [derivedStreams, derived] using member
    exact derivedStreams_planned member
  obtain ⟨values, -, serves⟩ := deriveStreamRuntimePlan_serves derived
  exact leadsBack_iff nonempty word (serves.id_nonempty stream member) planned.path

def sinkGraph : Bytes :=
  ascii "blocks:\n- id: FileSink\n  parameters:\n    name: sum\n    stream_id: a+b\n    transport: http_poll\n    payload_format: json\n- id: FileSink\n  parameters:\n    name: spectrum\n    transport: websocket\n    payload_format: json\n"

def sinkYaml : YamlPmt :=
  .ofDocument sinkGraph [(ascii "blocks", .tensor [
    .map [(ascii "id", .string (ascii "FileSink")), (ascii "parameters", .map [
      (ascii "name", .string (ascii "sum")), (ascii "stream_id", .string (ascii "a+b")),
      (ascii "transport", .string (ascii "http_poll")), (ascii "payload_format", .string (ascii "json"))])],
    .map [(ascii "id", .string (ascii "FileSink")), (ascii "parameters", .map [
      (ascii "name", .string (ascii "spectrum")), (ascii "transport", .string (ascii "websocket")),
      (ascii "payload_format", .string (ascii "json"))])]])]

def sinkSession : Session where
  id := ascii "sess_7"
  name := []
  grcContent := sinkGraph
  schedulerAlias := none
  state := .stopped
  lastError := none
  createdAt := 1
  updatedAt := 1

def sumStream : RuntimeStreamBindingPlan :=
  ⟨ascii "a+b", ascii "sum", ascii "http_poll", ascii "json", ascii "/sessions/sess_7/streams/a+b/http", true⟩

def spectrumStream : RuntimeStreamBindingPlan :=
  ⟨ascii "spectrum", ascii "spectrum", ascii "websocket", ascii "json",
    ascii "/sessions/sess_7/streams/spectrum/ws", true⟩

theorem sinkSession_plan : deriveStreamRuntimePlan sinkYaml sinkSession = some ⟨[sumStream, spectrumStream]⟩ := by
  decide +kernel

theorem advertised_path_leads_back_spectrum : LeadsBack (ascii "sess_7") spectrumStream ↔ PlainStreamId spectrumStream :=
  advertised_path_leads_back (by decide) (by decide +kernel) sinkSession_plan (by simp)

theorem advertised_path_misleads :
    ¬ ∀ (yaml : YamlPmt) (session : Session) (plan : StreamRuntimePlan) (stream : RuntimeStreamBindingPlan),
      session.id ≠ [] → (∀ byte ∈ session.id, isWord byte) → deriveStreamRuntimePlan yaml session = some plan →
        stream ∈ plan.streams → LeadsBack session.id stream := by
  intro leads
  have back := leads sinkYaml sinkSession _ sumStream (by decide) (by decide +kernel) sinkSession_plan (by simp)
  have http : ¬ isWebsocket sumStream.transport := by decide
  rw [LeadsBack, if_neg http] at back
  exact absurd back (by decide +kernel)

end Gr4ControlPlane
