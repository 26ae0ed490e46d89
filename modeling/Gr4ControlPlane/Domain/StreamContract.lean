import Gr4ControlPlane.Domain.SessionStreamLaws

namespace Gr4ControlPlane

variable {yaml : YamlPmt} {session : Session} {sessionId : Bytes} {block : NormalizedBlock}
  {blocks : List NormalizedBlock} {seen seen' : List Bytes} {streams : List RuntimeStreamBindingPlan}

/-- What `validate_stream_block` asks of a declared stream, its id being new apart. -/
structure NormalizedBlock.Accepted (block : NormalizedBlock) : Prop where
  instanceName : block.instanceName ≠ []
  streamId : block.streamId ≠ []
  transport : nonempty block.stream.transport
  supported : block.stream.transport.getD [] ∈ supportedTransports
  payloadFormat : nonempty block.stream.payloadFormat

theorem nonempty_getD {name : Option Bytes} (h : nonempty name) : name.getD [] ≠ [] := by
  cases name with
  | none => cases h
  | some name => simpa [nonempty] using h

theorem validateStreamBlock_eq_ok (hd : block.stream.declared = true) :
    validateStreamBlock block seen = .ok seen' ↔
      block.Accepted ∧ block.streamId ∉ seen ∧ seen' = block.streamId :: seen := by
  constructor
  · intro h
    have hseen := validateStreamBlock_seen hd h
    unfold validateStreamBlock at h
    simp only [hd, Bool.not_true, Bool.false_eq_true, if_false] at h
    split_ifs at h with hname hid htransport hsupported hpayload
    exact ⟨⟨hname, hid, by simpa using htransport, by simpa [transportSupported] using hsupported,
      by simpa using hpayload⟩, hseen⟩
  · rintro ⟨ha, hnew, rfl⟩
    unfold validateStreamBlock
    simp [hd, ha.instanceName, ha.streamId, ha.transport, ha.supported, ha.payloadFormat, hnew,
      transportSupported]

/-- The loop as a whole: every block is accepted, the ids are new and distinct, and every block
has its stream. -/
theorem planStreams_eq_some (hd : ∀ block ∈ blocks, block.stream.declared = true) :
    planStreams sessionId blocks seen = some streams ↔
      (∀ block ∈ blocks, block.Accepted ∧ block.streamId ∉ seen) ∧
        (blocks.map (·.streamId)).Nodup ∧ streams = blocks.map (bindingPlan sessionId) := by
  induction blocks generalizing seen streams with
  | nil => simp [planStreams, eq_comm]
  | cons block blocks ih =>
    have hblock := hd block List.mem_cons_self
    have hrest := fun b hb => hd b (List.mem_cons_of_mem block hb)
    constructor
    · intro h
      obtain ⟨seen', rest, hv, hp, rfl⟩ := planStreams_cons h
      obtain ⟨ha, hnew, rfl⟩ := (validateStreamBlock_eq_ok hblock).mp hv
      obtain ⟨hall, hnodup, rfl⟩ := (ih hrest).mp hp
      refine ⟨?_, ?_, rfl⟩
      · intro b hb
        rcases List.mem_cons.mp hb with rfl | hb
        · exact ⟨ha, hnew⟩
        · exact ⟨(hall b hb).1, fun hmem => (hall b hb).2 (List.mem_cons_of_mem _ hmem)⟩
      · rw [List.map_cons, List.nodup_cons, List.mem_map]
        refine ⟨?_, hnodup⟩
        rintro ⟨b, hb, heq⟩
        exact (hall b hb).2 (heq ▸ List.mem_cons_self)
    · rintro ⟨hall, hnodup, rfl⟩
      obtain ⟨ha, hnew⟩ := hall block List.mem_cons_self
      rw [List.map_cons, List.nodup_cons] at hnodup
      have hv := (validateStreamBlock_eq_ok hblock).mpr ⟨ha, hnew, rfl⟩
      have hp : planStreams sessionId blocks (block.streamId :: seen) =
          some (blocks.map (bindingPlan sessionId)) := by
        refine (ih hrest).mpr ⟨fun b hb => ?_, hnodup.2, rfl⟩
        obtain ⟨hb', hseen⟩ := hall b (List.mem_cons_of_mem _ hb)
        refine ⟨hb', fun hmem => ?_⟩
        rcases List.mem_cons.mp hmem with heq | hmem
        · exact hnodup.1 (heq ▸ List.mem_map_of_mem hb)
        · exact hseen hmem
      simp [planStreams, hv, hp]

def DeclaresStream (yaml : YamlPmt) (session : Session) : Prop :=
  ∃ values block normalized, graphBlocks yaml session = some values ∧ Value.map block ∈ values ∧
    normalizeStreamBlock block = some normalized ∧ normalized.stream.declared = true

theorem mem_declaredBlocks {values : List Value} {normalized : NormalizedBlock} :
    normalized ∈ declaredBlocks values ↔ normalized.stream.declared = true ∧
      ∃ block, Value.map block ∈ values ∧ normalizeStreamBlock block = some normalized := by
  unfold declaredBlocks
  rw [List.mem_filter, List.mem_filterMap, and_comm]
  apply and_congr_right
  intro _
  constructor
  · rintro ⟨value, hv, h⟩
    obtain ⟨block, hmap, hnorm⟩ := Option.bind_eq_some_iff.mp h
    cases value with
    | map _ =>
      cases hmap
      exact ⟨block, hv, hnorm⟩
    | _ => cases hmap
  · rintro ⟨block, hv, hnorm⟩
    exact ⟨.map block, hv, hnorm⟩

theorem declaresStream_iff {values : List Value} (hb : graphBlocks yaml session = some values) :
    DeclaresStream yaml session ↔ declaredBlocks values ≠ [] := by
  unfold DeclaresStream
  constructor
  · rintro ⟨values', block, normalized, hb', hmem, hnorm, hdecl⟩
    obtain rfl : values = values' := by simpa [hb] using hb'
    exact List.ne_nil_of_mem (mem_declaredBlocks.mpr ⟨hdecl, block, hmem, hnorm⟩)
  · intro hne
    obtain ⟨normalized, hmem⟩ := List.exists_mem_of_ne_nil _ hne
    obtain ⟨hdecl, block, hmem, hnorm⟩ := mem_declaredBlocks.mp hmem
    exact ⟨values, block, normalized, hb, hmem, hnorm, hdecl⟩

/-- A plan has the streams of these blocks, one each and in their order, and is fit to be served. -/
structure StreamRuntimePlan.Serves (sessionId : Bytes) (blocks : List NormalizedBlock)
    (plan : StreamRuntimePlan) : Prop where
  streams : plan.streams = blocks.map (bindingPlan sessionId)
  ids : (plan.streams.map (·.streamId)).Nodup
  paths : (plan.streams.map (·.path)).Nodup
  id_nonempty : ∀ stream ∈ plan.streams, stream.streamId ≠ []
  name_nonempty : ∀ stream ∈ plan.streams, stream.blockInstanceName ≠ []
  payloadFormat_nonempty : ∀ stream ∈ plan.streams, stream.payloadFormat ≠ []
  transport : ∀ stream ∈ plan.streams, stream.transport ∈ supportedTransports

theorem makeStreamPath_inj {streamId streamId' transport transport' : Bytes}
    (h : makeStreamPath sessionId streamId transport = makeStreamPath sessionId streamId' transport') :
    streamId = streamId' := by
  unfold makeStreamPath at h
  split at h <;> split at h
  · simpa using h
  · exact absurd h endings_ne
  · exact absurd h.symm endings_ne
  · simpa using h

theorem deriveStreamRuntimePlan_serves {plan : StreamRuntimePlan}
    (h : deriveStreamRuntimePlan yaml session = some plan) :
    ∃ values, graphBlocks yaml session = some values ∧ plan.Serves session.id (declaredBlocks values) := by
  rcases deriveStreamRuntimePlan_cases yaml session with hn | ⟨values, streams, hb, hp, -, hs⟩
  · rw [hn] at h
    cases h
  · refine ⟨values, hb, ?_⟩
    obtain rfl : plan = ⟨streams⟩ := by simpa [h] using hs
    obtain ⟨hall, hnodup, rfl⟩ := (planStreams_eq_some declaredBlocks_declared).mp hp
    have hids : ((declaredBlocks values).map (bindingPlan session.id)).map (·.streamId) =
        (declaredBlocks values).map (·.streamId) := List.map_map
    have each : ∀ {P : RuntimeStreamBindingPlan → Prop},
        (∀ block : NormalizedBlock, block.Accepted → P (bindingPlan session.id block)) →
          ∀ stream ∈ (declaredBlocks values).map (bindingPlan session.id), P stream :=
      fun hP stream hs => by
        obtain ⟨block, hblock, rfl⟩ := List.mem_map.mp hs
        exact hP block (hall block hblock).1
    constructor
    · rfl
    · exact hids ▸ hnodup
    · rw [List.map_map]
      apply List.pairwise_map.mpr
      apply (List.pairwise_map.mp hnodup).imp
      intro _ _ hne hpath
      exact hne (makeStreamPath_inj hpath)
    · exact each fun block ha => ha.streamId
    · exact each fun block ha => ha.instanceName
    · exact each fun block ha => nonempty_getD ha.payloadFormat
    · exact each fun block ha => ha.supported

theorem validateStreamRuntimeContract_isSome {values : List Value}
    (hb : graphBlocks yaml session = some values) :
    (validateStreamRuntimeContract yaml session).isSome ↔
      planStreams session.id (declaredBlocks values) [] = none := by
  unfold validateStreamRuntimeContract
  rw [hb, ← Option.not_isSome_iff_eq_none, planStreams_isSome_iff, ← ne_eq, Option.ne_none_iff_isSome]
  rfl

theorem deriveStreamRuntimePlan_eq_none {values : List Value} (hb : graphBlocks yaml session = some values) :
    deriveStreamRuntimePlan yaml session = none ↔
      declaredBlocks values = [] ∨ planStreams session.id (declaredBlocks values) [] = none := by
  unfold deriveStreamRuntimePlan
  cases hp : planStreams session.id (declaredBlocks values) [] with
  | none => simp [hb, hp]
  | some streams =>
    obtain ⟨-, -, rfl⟩ := (planStreams_eq_some declaredBlocks_declared).mp hp
    simp [hb, hp]

theorem graphBlocks_eq_some {values : List Value} :
    graphBlocks yaml session = some values ↔ ∃ root, yaml.deserialize session.grcContent = some root ∧
      (root.find (ascii "blocks")).bind Value.getTensor = some values := by
  unfold graphBlocks
  simp only [bind, Option.bind_eq_some_iff]

theorem planStreams_of_accepted {values : List Value} (hb : graphBlocks yaml session = some values)
    (hvalid : validateStreamRuntimeContract yaml session = none) :
    planStreams session.id (declaredBlocks values) [] =
      some ((declaredBlocks values).map (bindingPlan session.id)) := by
  have hp : planStreams session.id (declaredBlocks values) [] ≠ none := by
    rw [ne_eq, ← validateStreamRuntimeContract_isSome hb, hvalid]
    simp
  obtain ⟨streams, hstreams⟩ := Option.ne_none_iff_exists'.mp hp
  obtain ⟨-, -, rfl⟩ := (planStreams_eq_some declaredBlocks_declared).mp hstreams
  exact hstreams

theorem declaredBlocks_nodup {values : List Value} (hb : graphBlocks yaml session = some values)
    (hvalid : validateStreamRuntimeContract yaml session = none) :
    ((declaredBlocks values).map (·.streamId)).Nodup :=
  ((planStreams_eq_some declaredBlocks_declared).mp (planStreams_of_accepted hb hvalid)).2.1

theorem derivedStreams_of_accepted {values : List Value} (hb : graphBlocks yaml session = some values)
    (hvalid : validateStreamRuntimeContract yaml session = none) :
    derivedStreams yaml session = (declaredBlocks values).map (bindingPlan session.id) := by
  unfold derivedStreams
  by_cases hnil : declaredBlocks values = []
  · simp [(deriveStreamRuntimePlan_eq_none hb).mpr (.inl hnil), hnil]
  · simp [deriveStreamRuntimePlan, hb, planStreams_of_accepted hb hvalid, hnil]

/-- The validator reports an error exactly if the graph declares a stream and the planner gives it
no plan; a plan that is given is complete. -/
theorem planner_agrees_with_validator (yaml : YamlPmt) (session : Session) :
    ((validateStreamRuntimeContract yaml session).isSome ↔
        DeclaresStream yaml session ∧ deriveStreamRuntimePlan yaml session = none) ∧
      ∀ plan, deriveStreamRuntimePlan yaml session = some plan →
        ∃ values, graphBlocks yaml session = some values ∧
          plan.Serves session.id (declaredBlocks values) := by
  refine ⟨?_, fun plan h => deriveStreamRuntimePlan_serves h⟩
  cases hb : graphBlocks yaml session with
  | none =>
    have hvalidate : validateStreamRuntimeContract yaml session = none := by
      simp [validateStreamRuntimeContract, hb]
    have hderive : deriveStreamRuntimePlan yaml session = none := by
      simp [deriveStreamRuntimePlan, hb]
    have hdeclares : ¬ DeclaresStream yaml session := by simp [DeclaresStream, hb]
    simp [hvalidate, hderive, hdeclares]
  | some values =>
    rw [validateStreamRuntimeContract_isSome hb, declaresStream_iff hb, deriveStreamRuntimePlan_eq_none hb]
    constructor
    · intro hp
      refine ⟨fun hnil => ?_, .inr hp⟩
      simp [hnil, planStreams] at hp
    · rintro ⟨hne, hnil | hp⟩
      · exact absurd hnil hne
      · exact hp

end Gr4ControlPlane
