import Gr4ControlPlane.Api.RouteTable

open Gr4ControlPlane.Routing

namespace Gr4ControlPlane

variable {target sessionId encoded text : Bytes}

def HexEscaped (text : Bytes) : Prop :=
  ∀ i : Nat, text[i]? = some 37 →
    ∃ hi lo, text[i + 1]? = some hi ∧ text[i + 2]? = some lo ∧ (hexValue hi).isSome ∧ (hexValue lo).isSome

def percentDecoding : Bytes → Bytes
  | ch :: hi :: lo :: rest =>
    if ch = 37 then UInt8.ofNat (16 * (hexValue hi).getD 0 + (hexValue lo).getD 0) :: percentDecoding rest
    else plusToSpace ch :: percentDecoding (hi :: lo :: rest)
  | rest => rest.map plusToSpace

theorem HexEscaped.of_cons {byte : UInt8} (h : HexEscaped (byte :: text)) : HexEscaped text :=
  fun i hi => h (i + 1) hi

theorem percentDecoding_plain {byte : UInt8} (h : byte ≠ 37) (rest : Bytes) :
    percentDecoding (byte :: rest) = plusToSpace byte :: percentDecoding rest := by
  match rest with
  | [] | [_] => rfl
  | hi :: lo :: rest => rw [percentDecoding, if_neg h]

theorem toChar_hex {a b : Nat} (ha : a < 16) (hb : b < 16) : toChar (16 * a + b : Nat) = UInt8.ofNat (16 * a + b) := by
  rw [toChar, Int.emod_eq_of_lt (by omega) (by omega), Int.toNat_natCast]

theorem HexEscaped.decode (h : HexEscaped text) : decodePercentEncoded text = .ok (percentDecoding text) := by
  induction text using decode_induction with
  | nil => rfl
  | escape hi lo rest ih =>
    obtain ⟨hi', lo', hhi, hlo, hdigit, hdigit'⟩ := h 0 rfl
    cases hhi
    cases hlo
    obtain ⟨a, ha⟩ := Option.isSome_iff_exists.mp hdigit
    obtain ⟨b, hb⟩ := Option.isSome_iff_exists.mp hdigit'
    refine (decodePercentEncoded_escape hi lo rest).mpr ⟨_, _, stoi_hex ha hb, ih h.of_cons.of_cons.of_cons, ?_⟩
    rw [percentDecoding, if_pos rfl, ha, hb, Option.getD_some, Option.getD_some, toChar_hex (hexValue_lt ha) (hexValue_lt hb)]
  | percent rest few =>
    obtain ⟨hi, lo, -, hlo, -⟩ := h 0 rfl
    obtain ⟨hlt, -⟩ := List.getElem?_eq_some_iff.mp hlo
    simp only [List.length_cons] at hlt
    omega
  | plain byte rest other ih =>
    exact (decodePercentEncoded_plain other rest).mpr ⟨_, ih h.of_cons, percentDecoding_plain other rest⟩

theorem parseWebsocketStreamTarget_of_names (h : NamesStream target sessionId encoded) (hex : HexEscaped encoded) :
    parseWebsocketStreamTarget target = .ok (some (sessionId, percentDecoding encoded)) :=
  parseWebsocketStreamTarget_eq_some.mpr ⟨encoded, h, hex.decode⟩

theorem parseWebsocketStreamTarget_of_none (h : ¬ ∃ sessionId encoded, NamesStream target sessionId encoded) :
    parseWebsocketStreamTarget target = .ok none := by
  unfold parseWebsocketStreamTarget
  cases hsplit : splitStreamTarget target with
  | none => rfl
  | some names => exact absurd ⟨names.1, names.2, namesStream_of_split hsplit⟩ h

theorem NamesStream.unique {sessionId' encoded' : Bytes} (h : NamesStream target sessionId encoded)
    (h' : NamesStream target sessionId' encoded') : sessionId' = sessionId ∧ encoded' = encoded := by
  have hsame := h'.split.symm.trans h.split
  simpa using hsame

theorem websocketStreamRoute_eq_some :
    regexMatch websocketStreamRoute.pattern (routeOf target) = some [sessionId, encoded] ↔
      NamesStream target sessionId encoded ∧ (∀ byte ∈ sessionId, isWord byte = true) ∧
        ∀ byte ∈ encoded, dot byte = true := by
  have hanchored : Anchored websocketStreamRoute.pattern :=
    .literal (.before rfl anchored_member)
  rw [regexMatch_eq_some hanchored]
  constructor
  · intro h
    obtain ⟨_, hroute, hsession⟩ := matches_literal.mp h
    obtain ⟨_, _, _, rfl, hgroups, hne, hword, hinfix⟩ := matches_capture.mp hsession
    obtain ⟨_, rfl, hstream⟩ := matches_literal.mp hinfix
    obtain ⟨_, _, _, rfl, rfl, hne', hdot, hsuffix⟩ := matches_capture.mp hstream
    obtain ⟨_, rfl, hend⟩ := matches_literal.mp hsuffix
    obtain ⟨rfl, rfl⟩ := matches_nil.mp hend
    cases hgroups
    rw [List.append_nil] at hroute
    exact ⟨⟨hroute, hne, not_mem_of_isWord hword (by decide), hne'⟩, hword, hdot⟩
  · rintro ⟨h, hword, hdot⟩
    rw [h.route]
    refine .literal (.capture h.session_nonempty hword (.literal (.capture h.stream_nonempty hdot ?_)))
    exact matches_literal.mpr ⟨[], (List.append_nil _).symm, .nil⟩

/-- The parser accepts its grammar and nothing else, and names the streams that the route names; the
route has no stream with a line terminator in its segment. -/
theorem websocket_target_grammar
    (escaped : ∀ sessionId encoded, NamesStream target sessionId encoded → HexEscaped encoded) :
    ((∃ names, parseWebsocketStreamTarget target = .ok (some names)) ↔
        ∃ sessionId encoded, NamesStream target sessionId encoded) ∧
      (parseWebsocketStreamTarget target = .ok none ↔ ¬ ∃ sessionId encoded, NamesStream target sessionId encoded) ∧
      (∀ sessionId encoded, NamesStream target sessionId encoded →
        (∀ sessionId' encoded', NamesStream target sessionId' encoded' →
          sessionId' = sessionId ∧ encoded' = encoded) ∧
          parseWebsocketStreamTarget target = .ok (some (sessionId, percentDecoding encoded))) ∧
      ∀ sessionId encoded, (∀ byte ∈ sessionId, isWord byte = true) → 10 ∉ encoded → 13 ∉ encoded →
        (regexMatch websocketStreamRoute.pattern (routeOf target) = some [sessionId, encoded] ↔
          NamesStream target sessionId encoded) := by
  have hparse : ∀ {sessionId encoded}, NamesStream target sessionId encoded →
      parseWebsocketStreamTarget target = .ok (some (sessionId, percentDecoding encoded)) :=
    fun hn => parseWebsocketStreamTarget_of_names hn (escaped _ _ hn)
  refine ⟨⟨?_, fun ⟨_, _, hn⟩ => ⟨_, hparse hn⟩⟩, ⟨?_, parseWebsocketStreamTarget_of_none⟩,
    fun _ _ hn => ⟨fun _ _ hn' => hn.unique hn', hparse hn⟩, ?_⟩
  · rintro ⟨⟨sessionId, streamId⟩, h⟩
    obtain ⟨encoded, hn, -⟩ := parseWebsocketStreamTarget_eq_some.mp h
    exact ⟨sessionId, encoded, hn⟩
  · rintro h ⟨sessionId, encoded, hn⟩
    rw [hparse hn] at h
    cases h
  · intro sessionId encoded hword hlf hcr
    rw [websocketStreamRoute_eq_some, forall_dot]
    exact ⟨fun h => h.1, fun h => ⟨h, hword, hlf, hcr⟩⟩

theorem namesStream_iq : NamesStream (ascii "/sessions/a/streams/i%71/ws?x=1") (ascii "a") (ascii "i%71") :=
  ⟨by decide, by decide, by decide, by decide⟩

theorem websocket_target_grammar_iq :
    parseWebsocketStreamTarget (ascii "/sessions/a/streams/i%71/ws?x=1") = .ok (some (ascii "a", ascii "iq")) := by
  have hescaped : HexEscaped (ascii "i%71") := by
    rintro (_ | _ | _ | _ | i) hi
    · exact absurd hi (by decide)
    · exact ⟨55, 49, by decide⟩
    · exact absurd hi (by decide)
    · exact absurd hi (by decide)
    · cases hi
  refine ((websocket_target_grammar ?_).2.2.1 _ _ namesStream_iq).2
  intro sessionId encoded hn
  obtain ⟨-, rfl⟩ := namesStream_iq.unique hn
  exact hescaped

theorem websocket_target_route_apart :
    ¬ ∀ target, (∀ sessionId encoded, NamesStream target sessionId encoded → HexEscaped encoded) →
      ∀ sessionId, (∀ byte ∈ sessionId, isWord byte = true) →
        ((∃ streamId, parseWebsocketStreamTarget target = .ok (some (sessionId, streamId))) ↔
          ∃ encoded, regexMatch websocketStreamRoute.pattern (routeOf target) = some [sessionId, encoded]) := by
  intro agrees
  have hnames : NamesStream (ascii "/sessions/a/streams/\n/ws") (ascii "a") (ascii "\n") :=
    ⟨by decide, by decide, by decide, by decide⟩
  have hescaped : ∀ sessionId encoded, NamesStream (ascii "/sessions/a/streams/\n/ws") sessionId encoded →
      HexEscaped encoded := by
    intro sessionId encoded hn
    obtain ⟨-, rfl⟩ := hnames.unique hn
    exact fun i hi => absurd (List.mem_of_getElem? hi) (by decide)
  obtain ⟨encoded, hroute⟩ := (agrees _ hescaped (ascii "a") (by decide +kernel)).mp
    ⟨_, parseWebsocketStreamTarget_of_names hnames (hescaped _ _ hnames)⟩
  have hnone : regexMatch websocketStreamRoute.pattern (routeOf (ascii "/sessions/a/streams/\n/ws")) = none := by
    decide +kernel
  rw [hnone] at hroute
  cases hroute

end Gr4ControlPlane
