import Gr4ControlPlane.Api.RouteTable

namespace Gr4ControlPlane

/-- What is relied on of the HTTP library: it decodes the path of a request once, and leaves `+` alone. -/
structure DecodesPath (decodePath : Bytes → Bytes) : Prop where
  nil : decodePath [] = []
  kept : ∀ byte rest, byte ≠ 37 → decodePath (byte :: rest) = byte :: decodePath rest
  escaped : ∀ hi lo a b rest, hexValue hi = some a → hexValue lo = some b →
    decodePath (37 :: hi :: lo :: rest) = UInt8.ofNat (16 * a + b) :: decodePath rest

structure IdRequest where
  method : HttpMethod
  before : Bytes
  after : Bytes
  lookup : Bytes → Endpoint

def IdRequest.path (request : IdRequest) (segment : Bytes) : Bytes := request.before ++ (segment ++ request.after)

def blockRequest : IdRequest := ⟨.get, ascii "/blocks/", [], .block⟩

def schedulerRequest : IdRequest := ⟨.get, ascii "/schedulers/", [], .scheduler⟩

def memberRequest (sessionId : Bytes) (method : HttpMethod) (before after : Bytes)
    (lookup : Bytes → Bytes → Endpoint) : IdRequest :=
  ⟨method, ascii "/sessions/" ++ (sessionId ++ before), after, lookup sessionId⟩

def idRequests (sessionId : Bytes) : List IdRequest :=
  [blockRequest, schedulerRequest,
    memberRequest sessionId .get (ascii "/streams/") (ascii "/http") .httpStream,
    memberRequest sessionId .get (ascii "/streams/") (ascii "/ws") .websocketStream,
    memberRequest sessionId .post (ascii "/blocks/") (ascii "/settings") .updateSettings,
    memberRequest sessionId .get (ascii "/blocks/") (ascii "/settings") .settings]

variable {decodePath : Bytes → Bytes} {sessionId id encoded : Bytes} {request : IdRequest}

theorem DecodesPath.append_plain (h : DecodesPath decodePath) {text : Bytes} (hp : 37 ∉ text) (rest : Bytes) :
    decodePath (text ++ rest) = text ++ decodePath rest := by
  induction text with
  | nil => rfl
  | cons byte text ih =>
    rw [List.mem_cons, not_or] at hp
    rw [List.cons_append, h.kept _ _ (Ne.symm hp.1), ih hp.2, List.cons_append]

theorem DecodesPath.append_encoded (h : DecodesPath decodePath) (he : Encodes id encoded) (rest : Bytes) :
    decodePath (encoded ++ rest) = id ++ decodePath rest := by
  induction he with
  | nil => rfl
  | kept hbyte _ ih => rw [List.cons_append, h.kept _ _ (isUnreserved_ne hbyte).1, ih, List.cons_append]
  | escaped _ hhi hlo _ ih =>
    rw [List.cons_append, List.cons_append, List.cons_append, h.escaped _ _ _ _ _ hhi hlo, ih, Nat.div_add_mod,
      UInt8.ofNat_toNat, List.cons_append]

theorem DecodesPath.path (h : DecodesPath decodePath) (he : Encodes id encoded) (hbefore : 37 ∉ request.before)
    (hafter : 37 ∉ request.after) : decodePath (request.path encoded) = request.path id := by
  have hend := h.append_plain hafter []
  rw [List.append_nil, h.nil, List.append_nil] at hend
  rw [IdRequest.path, h.append_plain hbefore, h.append_encoded he, hend, IdRequest.path]

theorem captured_lookup {lookup : Bytes → Endpoint} (hinj : Function.Injective lookup)
    {endpoint : List Bytes → Except Bytes Endpoint}
    (hendpoint : endpoint [id] = (do return lookup (← decodePercentEncoded id))) (hne : id ≠ []) :
    (captured id).map endpoint = some (.ok (lookup id)) ↔ Verbatim id ∧ 10 ∉ id ∧ 13 ∉ id := by
  rw [captured, List.isEmpty_eq_false_iff.mpr hne, Bool.not_false, Bool.true_and, ← forall_dot, ← List.all_eq_true,
    ← decodePercentEncoded_eq_self]
  by_cases hall : id.all dot = true
  · rw [if_pos hall, Option.map_some, hendpoint, and_iff_left hall]
    cases decodePercentEncoded id with
    | error what => exact iff_of_false (fun h => by cases h) nofun
    | ok decoded =>
      show some (Except.ok (lookup decoded)) = _ ↔ _
      rw [Option.some.injEq, Except.ok.injEq, Except.ok.injEq, hinj.eq_iff]
  · rw [if_neg hall]
    exact iff_of_false nofun fun h => hall h.2

theorem IsSessionId.no_percent (h : IsSessionId sessionId) : 37 ∉ sessionId := not_mem_of_isWord h.word (by decide)

/-- An id survives the path it is encoded into exactly if nothing in it would be decoded again, and
`(.+)` can hold it. -/
theorem encoded_id_survives (hd : DecodesPath decodePath) (hs : IsSessionId sessionId)
    (hr : request ∈ idRequests sessionId) (hne : id ≠ []) (he : Encodes id encoded) :
    routeRequest request.method (decodePath (request.path encoded)) = some (.ok (request.lookup id)) ↔
      Verbatim id ∧ 10 ∉ id ∧ 13 ∉ id := by
  have hmember : ∀ method before after lookup, 37 ∉ before → 37 ∉ after →
      decodePath ((memberRequest sessionId method before after lookup).path encoded) =
        memberPath sessionId before id after := by
    intro method before after lookup hbefore hafter
    rw [hd.path he _ hafter]
    · simp [IdRequest.path, memberRequest, memberPath]
    · have hprefix : 37 ∉ ascii "/sessions/" := by decide
      simp [memberRequest, hprefix, hs.no_percent, hbefore]
  simp only [idRequests, List.mem_cons, List.not_mem_nil, or_false] at hr
  rcases hr with rfl | rfl | rfl | rfl | rfl | rfl
  · rw [hd.path he (by decide) (by decide)]
    show routeRequest .get (ascii "/blocks/" ++ (id ++ [])) = _ ↔ _
    rw [List.append_nil, routeRequest_block]
    exact captured_lookup (fun _ _ h => Endpoint.block.inj h) rfl hne
  · rw [hd.path he (by decide) (by decide)]
    show routeRequest .get (ascii "/schedulers/" ++ (id ++ [])) = _ ↔ _
    rw [List.append_nil, routeRequest_scheduler]
    exact captured_lookup (fun _ _ h => Endpoint.scheduler.inj h) rfl hne
  · rw [hmember _ _ _ _ (by decide) (by decide)]
    show routeRequest .get _ = _ ↔ _
    rw [routeRequest_httpStream hs, Option.map_map]
    exact captured_lookup (fun _ _ h => (Endpoint.httpStream.inj h).2) rfl hne
  · rw [hmember _ _ _ _ (by decide) (by decide)]
    show routeRequest .get _ = _ ↔ _
    rw [routeRequest_websocketStream hs, Option.map_map]
    exact captured_lookup (fun _ _ h => (Endpoint.websocketStream.inj h).2) rfl hne
  · rw [hmember _ _ _ _ (by decide) (by decide)]
    show routeRequest .post _ = _ ↔ _
    rw [routeRequest_updateSettings hs, Option.map_map]
    exact captured_lookup (fun _ _ h => (Endpoint.updateSettings.inj h).2) rfl hne
  · rw [hmember _ _ _ _ (by decide) (by decide)]
    show routeRequest .get _ = _ ↔ _
    rw [routeRequest_settings hs, Option.map_map]
    exact captured_lookup (fun _ _ h => (Endpoint.settings.inj h).2) rfl hne

def decodeOnce : Bytes → Bytes
  | ch :: hi :: lo :: rest =>
    if ch = 37 ∧ (hexValue hi).isSome ∧ (hexValue lo).isSome then
      UInt8.ofNat (16 * (hexValue hi).getD 0 + (hexValue lo).getD 0) :: decodeOnce rest
    else ch :: decodeOnce (hi :: lo :: rest)
  | rest => rest

theorem decodesPath_decodeOnce : DecodesPath decodeOnce where
  nil := rfl
  kept byte rest h := by
    match rest with
    | [] | [_] => rfl
    | hi :: lo :: rest => rw [decodeOnce, if_neg fun hescape => h hescape.1]
  escaped hi lo a b rest ha hb := by
    rw [decodeOnce, if_pos ⟨rfl, by rw [ha]; rfl, by rw [hb]; rfl⟩, ha, hb]
    rfl

theorem isSessionId_demo : IsSessionId (ascii "sess_7") := ⟨by decide, by decide +kernel⟩

theorem blockRequest_mem : blockRequest ∈ idRequests sessionId := List.mem_cons_self

theorem encoded_id_survives_float :
    routeRequest .get (decodeOnce (ascii "/blocks/gr%3A%3Abasic%3A%3AAdd%3Cfloat%3E")) =
        some (.ok (.block (ascii "gr::basic::Add<float>"))) ↔
      Verbatim (ascii "gr::basic::Add<float>") ∧ 10 ∉ ascii "gr::basic::Add<float>" ∧ 13 ∉ ascii "gr::basic::Add<float>" :=
  encoded_id_survives decodesPath_decodeOnce isSessionId_demo blockRequest_mem (by decide)
    (encodes_urlEncode (ascii "gr::basic::Add<float>"))

theorem encoded_id_lost :
    ¬ ∀ decodePath, DecodesPath decodePath → ∀ sessionId, IsSessionId sessionId → ∀ request ∈ idRequests sessionId,
      ∀ id encoded, id ≠ [] → Encodes id encoded →
        routeRequest request.method (decodePath (request.path encoded)) = some (.ok (request.lookup id)) := by
  intro survives
  have h := survives decodeOnce decodesPath_decodeOnce (ascii "sess_7") isSessionId_demo blockRequest blockRequest_mem
    (ascii "gain+offset") (urlEncode (ascii "gain+offset")) (by decide) (encodes_urlEncode _)
  exact absurd h (by decide +kernel)

end Gr4ControlPlane
