import Gr4ControlPlane.Domain.SessionStream

namespace Gr4ControlPlane

variable {yaml : YamlPmt} {sessionId : Bytes} {block : NormalizedBlock} {blocks : List NormalizedBlock}
  {seen seen' : List Bytes} {streams : List RuntimeStreamBindingPlan}

theorem find_addMissing (parameters raw : PropertyMap) (key : Bytes) :
    (addMissing parameters raw).find key = (parameters.find key).or (raw.find key) := by
  induction raw generalizing parameters with
  | nil => simp [addMissing, PropertyMap.find]
  | cons e raw ih =>
    obtain ⟨k, value⟩ := e
    unfold addMissing
    rw [ih]
    by_cases hk : key = k
    · subst hk
      rw [PropertyMap.find_cons_self]
      unfold PropertyMap.contains
      cases hfind : parameters.find key with
      | none => simp only [Option.isSome_none, Bool.false_eq_true, if_false,
          PropertyMap.find_insertOrAssign_self, Option.some_or, Option.none_or]
      | some value' => simp only [Option.isSome_some, if_true, hfind, Option.some_or]
    · rw [PropertyMap.find_cons_of_ne _ _ hk]
      split
      · rfl
      · rw [PropertyMap.find_insertOrAssign_of_ne _ _ hk]

def authoredParameter (block : PropertyMap) (key : Bytes) : Option Value :=
  ((blockMap block (ascii "parameters")).find key).or ((blockMap block (ascii "raw_parameters")).find key)

theorem find_mergedParameters {block : PropertyMap} {key : Bytes} :
    (mergedParameters block).find key = authoredParameter block key :=
  find_addMissing _ _ key

theorem validateStreamBlock_seen (hd : block.stream.declared = true)
    (h : validateStreamBlock block seen = .ok seen') :
    block.streamId ∉ seen ∧ seen' = block.streamId :: seen := by
  unfold validateStreamBlock at h
  simp only [hd, Bool.not_true, Bool.false_eq_true, if_false] at h
  split_ifs at h with h₁ h₂ h₃ h₄ h₅ h₆
  cases h
  exact ⟨h₆, rfl⟩

theorem planStreams_isSome_iff :
    (planStreams sessionId blocks seen).isSome ↔ firstStreamError blocks seen = none := by
  induction blocks generalizing seen with
  | nil => simp [planStreams, firstStreamError]
  | cons block blocks ih =>
    unfold planStreams firstStreamError
    cases validateStreamBlock block seen with
    | error what => simp
    | ok seen => simpa using ih

theorem planStreams_cons (h : planStreams sessionId (block :: blocks) seen = some streams) :
    ∃ seen' rest, validateStreamBlock block seen = .ok seen' ∧
      planStreams sessionId blocks seen' = some rest ∧
      streams = bindingPlan sessionId block :: rest := by
  unfold planStreams at h
  split at h
  · cases h
  · next seen' hv =>
    obtain ⟨rest, hrest, rfl⟩ := Option.map_eq_some_iff.mp h
    exact ⟨seen', rest, hv, hrest, rfl⟩

theorem planStreams_fresh (hd : ∀ block ∈ blocks, block.stream.declared = true)
    (h : planStreams sessionId blocks seen = some streams) :
    (streams.map (·.streamId)).Nodup ∧ ∀ stream ∈ streams, stream.streamId ∉ seen := by
  induction blocks generalizing seen streams with
  | nil =>
    cases h
    simp
  | cons block blocks ih =>
    obtain ⟨seen', rest, hv, hrest, rfl⟩ := planStreams_cons h
    obtain ⟨hnot, rfl⟩ := validateStreamBlock_seen (hd block List.mem_cons_self) hv
    obtain ⟨hnodup, hfresh⟩ := ih (fun b hb => hd b (List.mem_cons_of_mem _ hb)) hrest
    constructor
    · rw [List.map_cons, List.nodup_cons]
      refine ⟨?_, hnodup⟩
      intro hmem
      obtain ⟨stream, hs, heq⟩ := List.mem_map.mp hmem
      exact hfresh stream hs (heq ▸ List.mem_cons_self)
    · rintro stream (_ | ⟨_, hs⟩)
      · exact hnot
      · exact fun hmem => hfresh stream hs (List.mem_cons_of_mem _ hmem)

structure RuntimeStreamBindingPlan.Planned (sessionId : Bytes) (plan : RuntimeStreamBindingPlan) : Prop where
  path : plan.path = makeStreamPath sessionId plan.streamId plan.transport
  ready : plan.ready = true

theorem planStreams_planned (h : planStreams sessionId blocks seen = some streams) :
    ∀ stream ∈ streams, stream.Planned sessionId := by
  induction blocks generalizing seen streams with
  | nil =>
    cases h
    simp
  | cons block blocks ih =>
    obtain ⟨seen', rest, -, hrest, rfl⟩ := planStreams_cons h
    rintro stream (_ | ⟨_, hs⟩)
    · exact ⟨rfl, rfl⟩
    · exact ih hrest stream hs

def derivedStreams (yaml : YamlPmt) (session : Session) : List RuntimeStreamBindingPlan :=
  ((deriveStreamRuntimePlan yaml session).map (·.streams)).getD []

theorem deriveStreamRuntimePlan_cases (yaml : YamlPmt) (session : Session) :
    deriveStreamRuntimePlan yaml session = none ∨ ∃ blocks streams,
      graphBlocks yaml session = some blocks ∧
      planStreams session.id (declaredBlocks blocks) [] = some streams ∧ streams ≠ [] ∧
      deriveStreamRuntimePlan yaml session = some ⟨streams⟩ := by
  unfold deriveStreamRuntimePlan
  cases hb : graphBlocks yaml session with
  | none => exact .inl rfl
  | some blocks =>
    cases hp : planStreams session.id (declaredBlocks blocks) [] with
    | none => exact .inl (by simp [hp])
    | some streams =>
      cases streams with
      | nil => exact .inl (by simp [hp])
      | cons stream streams => exact .inr ⟨blocks, _, rfl, hp, List.cons_ne_nil _ _, by simp [hp]⟩

theorem deriveStreamRuntimePlan_eq (yaml : YamlPmt) (session : Session) :
    deriveStreamRuntimePlan yaml session =
      if (derivedStreams yaml session).isEmpty then none else some ⟨derivedStreams yaml session⟩ := by
  unfold derivedStreams
  rcases deriveStreamRuntimePlan_cases yaml session with h | ⟨_, streams, -, -, hne, h⟩
  · simp [h]
  · simp [h, hne]

theorem declaredBlocks_declared {values : List Value} :
    ∀ block ∈ declaredBlocks values, block.stream.declared = true :=
  fun _ hb => (List.mem_filter.mp hb).2

theorem derivedStreams_nodup (yaml : YamlPmt) (session : Session) :
    ((derivedStreams yaml session).map (·.streamId)).Nodup := by
  unfold derivedStreams
  rcases deriveStreamRuntimePlan_cases yaml session with h | ⟨_, streams, -, hp, -, h⟩
  · simp [h]
  · simpa [h] using (planStreams_fresh declaredBlocks_declared hp).1

theorem derivedStreams_planned {session : Session} {stream : RuntimeStreamBindingPlan}
    (hs : stream ∈ derivedStreams yaml session) : stream.Planned session.id := by
  unfold derivedStreams at hs
  rcases deriveStreamRuntimePlan_cases yaml session with h | ⟨_, streams, -, hp, -, h⟩
  · simp [h] at hs
  · exact planStreams_planned hp stream (by simpa [h] using hs)

theorem derivedStreams_ready (yaml : YamlPmt) (session : Session) :
    (derivedStreams yaml session).map ({ · with ready := true }) = derivedStreams yaml session := by
  have hid : ∀ stream ∈ derivedStreams yaml session, { stream with ready := true } = id stream := by
    intro stream hs
    have hready := (derivedStreams_planned hs).ready
    cases stream
    cases hready
    rfl
  rw [List.map_congr_left hid, List.map_id]

theorem deriveStreamRuntimePlan_congr {s s' : Session} (hid : s'.id = s.id) (hgrc : s'.grcContent = s.grcContent) :
    deriveStreamRuntimePlan yaml s' = deriveStreamRuntimePlan yaml s := by
  unfold deriveStreamRuntimePlan graphBlocks
  rw [hid, hgrc]

theorem Session.SameOrigin.derivedStreams {s s' : Session} (h : s.SameOrigin s') :
    derivedStreams yaml s' = derivedStreams yaml s := by
  unfold Gr4ControlPlane.derivedStreams
  rw [deriveStreamRuntimePlan_congr h.id h.grcContent]

theorem Session.SameOrigin.validateStreamRuntimeContract {s s' : Session} (h : s.SameOrigin s') :
    validateStreamRuntimeContract yaml s' = validateStreamRuntimeContract yaml s := by
  unfold Gr4ControlPlane.validateStreamRuntimeContract graphBlocks
  rw [h.grcContent]

theorem endings_ne {pre pre' : Bytes} : pre ++ ascii "/ws" ≠ pre' ++ ascii "/http" := by
  intro h
  have hws : (ascii "/ws").getLast? = some 115 := by decide
  have hhttp : (ascii "/http").getLast? = some 112 := by decide
  have hlast := congrArg List.getLast? h
  rw [List.getLast?_append, List.getLast?_append, hws, hhttp] at hlast
  cases hlast

theorem path_websocket {streamId transport : Bytes} :
    ascii "/ws" <:+ makeStreamPath sessionId streamId transport ↔ isWebsocket transport := by
  unfold makeStreamPath
  split
  · next h => exact iff_of_true (List.suffix_append _ _) h
  · next h => exact iff_of_false (fun ⟨_, hpre⟩ => endings_ne hpre) h

theorem path_http {streamId transport : Bytes} :
    ascii "/http" <:+ makeStreamPath sessionId streamId transport ↔ isWebsocket transport = false := by
  unfold makeStreamPath
  split
  · next h => exact iff_of_false (fun ⟨_, hpre⟩ => endings_ne hpre.symm) (by simp [h])
  · next h => exact iff_of_true (List.suffix_append _ _) (by simpa using h)

end Gr4ControlPlane
