import Gr4ControlPlane.Runtime.BlockNames

namespace Gr4ControlPlane

variable {yaml : YamlPmt} {session : Session} {bindings : List RuntimeStreamBinding}
  {binding : RuntimeStreamBinding} {values items : List Value} {block : PropertyMap}

def injectionFailure : Bytes := ascii "failed to inject all managed stream bindings into runtime graph"

def Labelled (values : List Value) : Prop :=
  ∀ block, Value.map block ∈ values → nonempty (parameterString (blockMap block (ascii "parameters")) (ascii "name")) ∧
    nonempty (parameterString block (ascii "id"))

def Endowed (values items : List Value) (bindings : List RuntimeStreamBinding) : Prop :=
  ∀ (i : Nat) (block : PropertyMap) (normalized : NormalizedBlock), values[i]? = some (.map block) →
    normalizeStreamBlock block = some normalized → normalized.stream.declared = true →
      ∃ block' binding, items[i]? = some (.map block') ∧ binding ∈ bindings ∧
        binding.plan.streamId = normalized.streamId ∧ endpointOf block' = some binding.internal.endpoint

theorem labelled_name (h : nonempty (parameterString (blockMap block (ascii "parameters")) (ascii "name"))) :
    ∃ name, name ≠ [] ∧ runtimeName (normalizeBlock block) = some name ∧
      ∀ normalized, normalizeStreamBlock block = some normalized → normalized.instanceName = name := by
  obtain ⟨name, hname⟩ : ∃ name, parameterString (blockMap block (ascii "parameters")) (ascii "name") = some name := by
    cases hn : parameterString (blockMap block (ascii "parameters")) (ascii "name") with
    | none => rw [hn] at h; cases h
    | some name => exact ⟨name, rfl⟩
  have hne : name ≠ [] := by simpa [hname] using nonempty_iff.mp h
  obtain ⟨value, hfind, hvalue⟩ := Option.bind_eq_some_iff.mp hname
  have hauthored : authoredParameter block (ascii "name") = some value := by
    rw [authoredParameter, hfind, Option.some_or]
  refine ⟨name, hne, ?_, fun normalized hnorm => ?_⟩
  · rw [eq_some_iff_getD hne, runtimeName_normalizeBlock, hauthored]
    simp [hvalue, hne]
  · rw [instanceName_normalizeStreamBlock hnorm, hauthored]
    simp [hvalue, hne]

theorem find_own (hnames : (bindings.map (·.plan.blockInstanceName)).Nodup) (hb : binding ∈ bindings) :
    bindings.find? (·.plan.blockInstanceName = binding.plan.blockInstanceName) = some binding := by
  cases hfind : bindings.find? (·.plan.blockInstanceName = binding.plan.blockInstanceName) with
  | none => simpa using List.find?_eq_none.mp hfind binding hb
  | some first =>
    have hname : first.plan.blockInstanceName = binding.plan.blockInstanceName := by
      simpa using List.find?_some hfind
    rw [List.inj_on_of_nodup_map hnames (List.mem_of_find?_eq_some hfind) hb hname]

theorem nodup_of_card (hids : (bindings.map (·.plan.streamId)).Nodup)
    (hcard : (takenIds bindings items).toFinset.card = bindings.length) :
    (bindings.map (·.plan.blockInstanceName)).Nodup := by
  have hfirst : ∀ {b}, b ∈ bindings →
      bindings.find? (·.plan.blockInstanceName = b.plan.blockInstanceName) = some b := by
    intro b hb
    obtain ⟨_, name, -, -, -, hfind⟩ := first_of_card hids hcard hb
    have hname : b.plan.blockInstanceName = name := by simpa using List.find?_some hfind
    rw [hname, hfind]
  apply hids.of_map.map_on
  intro b hb b' hb' hname
  have hsame := hfirst hb
  rw [hname, hfirst hb'] at hsame
  exact (Option.some.inj hsame).symm

abbrev Binds (session : Session) (values : List Value) (bindings : List RuntimeStreamBinding) : Prop :=
  (bindings.map (·.plan)).Perm ((declaredBlocks values).map (bindingPlan session.id))

theorem Binds.ids (h : Binds session values bindings) :
    (bindings.map (·.plan.streamId)).Perm ((declaredBlocks values).map (·.streamId)) := by
  have hmap := h.map (·.streamId)
  rw [List.map_map, List.map_map] at hmap
  exact hmap

theorem Binds.names (h : Binds session values bindings) :
    (bindings.map (·.plan.blockInstanceName)).Perm ((declaredBlocks values).map (·.instanceName)) := by
  have hmap := h.map (·.blockInstanceName)
  rw [List.map_map, List.map_map] at hmap
  exact hmap

theorem injectBlock_own {normalized : NormalizedBlock} (hlabelled : Labelled values)
    (hbinds : Binds session values bindings) (hnames : (bindings.map (·.plan.blockInstanceName)).Nodup)
    (hmem : Value.map block ∈ values) (hnorm : normalizeStreamBlock block = some normalized)
    (hd : normalized.stream.declared = true) :
    ∃ binding ∈ bindings, binding.plan = bindingPlan session.id normalized ∧
      injectBlock bindings (.map (normalizeBlock block)) =
        (.map (withEndpoint (normalizeBlock block) binding.internal.endpoint), some normalized.streamId) := by
  have hplan : bindingPlan session.id normalized ∈ bindings.map (·.plan) := by
    rw [hbinds.mem_iff]
    exact List.mem_map_of_mem (mem_declaredBlocks.mpr ⟨hd, block, hmem, hnorm⟩)
  obtain ⟨binding, hb, heq⟩ := List.mem_map.mp hplan
  obtain ⟨name, hne, hruntime, hplanned⟩ := labelled_name (hlabelled block hmem).1
  have hname : binding.plan.blockInstanceName = name := by
    rw [heq]
    exact hplanned normalized hnorm
  refine ⟨binding, hb, heq, ?_⟩
  rw [injectBlock_named hruntime hne, ← hname, find_own hnames hb]
  exact Prod.ext rfl (congrArg (fun plan => some plan.streamId) heq)

theorem card_of_nodup (hlabelled : Labelled values) (hbinds : Binds session values bindings)
    (hids : (bindings.map (·.plan.streamId)).Nodup) (hnames : (bindings.map (·.plan.blockInstanceName)).Nodup) :
    (takenIds bindings (values.map normalizeBlockValue)).toFinset.card = bindings.length := by
  have hall : (takenIds bindings (values.map normalizeBlockValue)).toFinset =
      (bindings.map (·.plan.streamId)).toFinset := by
    apply Finset.Subset.antisymm takenIds_subset
    intro streamId hmem
    rw [List.mem_toFinset, hbinds.ids.mem_iff] at hmem
    obtain ⟨normalized, hdeclared, rfl⟩ := List.mem_map.mp hmem
    obtain ⟨hd, block, hblock, hnorm⟩ := mem_declaredBlocks.mp hdeclared
    obtain ⟨binding, -, -, hinject⟩ := injectBlock_own hlabelled hbinds hnames hblock hnorm hd
    refine List.mem_toFinset.mpr (List.mem_filterMap.mpr ⟨_, ?_, congrArg Prod.snd hinject⟩)
    rw [List.map_map]
    exact List.mem_map_of_mem hblock
  rw [hall, List.toFinset_card_of_nodup hids, List.length_map]

theorem endowed_of_nodup (hlabelled : Labelled values) (hbinds : Binds session values bindings)
    (hnames : (bindings.map (·.plan.blockInstanceName)).Nodup) :
    Endowed values (((values.map normalizeBlockValue).map (injectBlock bindings)).map Prod.fst) bindings := by
  intro i block normalized hi hnorm hd
  obtain ⟨binding, hb, heq, hinject⟩ :=
    injectBlock_own hlabelled hbinds hnames (List.mem_of_getElem? hi) hnorm hd
  refine ⟨withEndpoint (normalizeBlock block) binding.internal.endpoint, binding, ?_, hb, congrArg (·.streamId) heq, endpointOf_withEndpoint⟩
  rw [List.getElem?_map, List.getElem?_map, List.getElem?_map, hi]
  exact congrArg (fun p => some p.1) hinject

/-- The connections of the graph are refused before its streams are looked at. -/
def ConnectionsRefused (yaml : YamlPmt) (root : PropertyMap) : Prop :=
  ∃ what, normalizeGraphConnections yaml root = .error what

theorem normalizePort_error {token what : Bytes} (h : normalizePort token = .error what) : what = ascii "stoll" := by
  have hstoll : ∀ {digits : Bytes}, Value.integer <$> stoll digits = .error what → what = ascii "stoll" := by
    intro digits h
    unfold stoll at h
    dsimp only at h
    split at h
    · cases h
    · cases h
      rfl
  unfold normalizePort at h
  dsimp only at h
  split_ifs at h
  · exact hstoll h
  · exact hstoll h

theorem normalizeEntry_error {sequence : List Value} {index : Nat} {what : Bytes}
    (h : normalizeEntry yaml sequence index = .error what) : what = ascii "stoll" := by
  unfold normalizeEntry at h
  split at h
  · cases h
  · rcases bind_eq_error h with h | ⟨_, -, h⟩
    · exact normalizePort_error h
    · cases h

theorem normalizeConnection_error {connection : Value} {what : Bytes}
    (h : normalizeConnection yaml connection = .error what) : what = ascii "stoll" := by
  unfold normalizeConnection at h
  split at h
  · split at h
    · rcases bind_eq_error h with h | ⟨_, -, h⟩
      · exact normalizeEntry_error h
      · rcases bind_eq_error h with h | ⟨_, -, h⟩
        · exact normalizeEntry_error h
        · cases h
    · cases h
  · split at h
    · rcases bind_eq_error h with h | ⟨_, -, h⟩
      · exact normalizePort_error h
      · rcases bind_eq_error h with h | ⟨_, -, h⟩
        · exact normalizePort_error h
        · cases h
    · cases h
  · cases h

theorem normalizeConnections_error {connections : List Value} {what : Bytes}
    (h : normalizeConnections yaml connections = .error what) : what = ascii "stoll" := by
  induction connections with
  | nil => cases h
  | cons connection connections ih =>
    rcases bind_eq_error h with h | ⟨_, -, h⟩
    · exact normalizeConnection_error h
    · rcases bind_eq_error h with h | ⟨_, -, h⟩
      · exact ih h
      · cases h

theorem normalizeGraphConnections_error {root : PropertyMap} {what : Bytes}
    (h : normalizeGraphConnections yaml root = .error what) : what = ascii "stoll" := by
  unfold normalizeGraphConnections at h
  split at h
  · cases h
  · rcases bind_eq_error h with h | ⟨_, -, h⟩
    · exact normalizeConnections_error h
    · cases h

theorem normalizeBlocks_items {root : PropertyMap}
    (h : (root.find (ascii "blocks")).bind Value.getTensor = some values) :
    (normalizeBlocks yaml root).1.find (ascii "blocks") = some (.tensor (values.map normalizeBlockValue)) := by
  unfold normalizeBlocks
  rw [h]
  exact PropertyMap.find_insertOrAssign_self _ _ _

theorem connectionsRefused_normalizeBlocks {root : PropertyMap} :
    ConnectionsRefused yaml (normalizeBlocks yaml root).1 ↔ ConnectionsRefused yaml root := by
  have hfind : (normalizeBlocks yaml root).1.find (ascii "connections") = root.find (ascii "connections") := by
    unfold normalizeBlocks
    split
    · rfl
    · exact PropertyMap.find_insertOrAssign_of_ne _ _ (by decide)
  unfold ConnectionsRefused normalizeGraphConnections
  rw [hfind]
  cases (root.find (ascii "connections")).bind Value.getTensor with
  | none => simp
  | some connections =>
    dsimp only
    cases normalizeConnections yaml connections with
    | error what => simp [bind, Except.bind]
    | ok p => simp [bind, Except.bind, pure, Except.pure]

theorem normalizeGraphContent_eq {content : Bytes} {root : PropertyMap} (hroot : yaml.deserialize content = some root) :
    normalizeGraphContent yaml content bindings =
      normalizeGraphConnections yaml (normalizeBlocks yaml root).1 >>= fun p =>
        injectStreamBindings p.1 bindings >>= fun q =>
          .ok (if (normalizeBlocks yaml root).2 || p.2 || q.2 then yaml.serialize q.1 else content) := by
  unfold normalizeGraphContent
  rw [hroot]
  rfl

theorem injectStreamBindings_eq {root : PropertyMap} (hne : bindings ≠ [])
    (hitems : root.find (ascii "blocks") = some (.tensor items)) :
    injectStreamBindings root bindings =
      if (takenIds bindings items).toFinset.card = bindings.length then
        .ok (root.insertOrAssign (ascii "blocks") (.tensor ((items.map (injectBlock bindings)).map Prod.fst)),
          !(takenIds bindings items).isEmpty)
      else .error injectionFailure := by
  unfold injectStreamBindings
  rw [if_neg hne, hitems]
  rfl

theorem normalizeGraphContent_unbound (yaml : YamlPmt) (content : Bytes) :
    normalizeGraphContent yaml content [] ≠ .error injectionFailure := by
  intro h
  cases hroot : yaml.deserialize content with
  | none =>
    unfold normalizeGraphContent at h
    rw [hroot] at h
    cases h
  | some root =>
    rw [normalizeGraphContent_eq hroot] at h
    rcases bind_eq_error h with h | ⟨p, -, h⟩
    · exact absurd (normalizeGraphConnections_error h) (by decide)
    · rcases bind_eq_error h with h | ⟨q, -, h⟩ <;> cases h

theorem normalizeGraphContent_bound {root : PropertyMap} (hroot : yaml.deserialize session.grcContent = some root)
    (hvalues : (root.find (ascii "blocks")).bind Value.getTensor = some values) (hlabelled : Labelled values)
    (hbinds : Binds session values bindings) (hids : ((declaredBlocks values).map (·.streamId)).Nodup)
    (hne : bindings ≠ []) (hconnections : ¬ ConnectionsRefused yaml root) :
    if ((declaredBlocks values).map (·.instanceName)).Nodup then
      ∃ root' items, normalizeGraphContent yaml session.grcContent bindings = .ok (yaml.serialize root') ∧
        root'.find (ascii "blocks") = some (.tensor items) ∧ Endowed values items bindings
    else normalizeGraphContent yaml session.grcContent bindings = .error injectionFailure := by
  rw [← hbinds.ids.nodup_iff] at hids
  cases hconn : normalizeGraphConnections yaml (normalizeBlocks yaml root).1 with
  | error what => exact absurd (connectionsRefused_normalizeBlocks.mp ⟨what, hconn⟩) hconnections
  | ok p =>
    have hitems : p.1.find (ascii "blocks") = some (.tensor (values.map normalizeBlockValue)) := by
      rw [normalizeGraphConnections_find (by decide) hconn, normalizeBlocks_items hvalues]
    have hcontent : normalizeGraphContent yaml session.grcContent bindings =
        injectStreamBindings p.1 bindings >>= fun q =>
          .ok (if (normalizeBlocks yaml root).2 || p.2 || q.2 then yaml.serialize q.1 else session.grcContent) := by
      rw [normalizeGraphContent_eq hroot, hconn]
      rfl
    rw [hcontent, injectStreamBindings_eq hne hitems]
    split
    · next hnodup =>
      rw [← hbinds.names.nodup_iff] at hnodup
      have hcard := card_of_nodup hlabelled hbinds hids hnodup
      have hsome : (takenIds bindings (values.map normalizeBlockValue)).isEmpty = false := by
        rw [List.isEmpty_eq_false_iff]
        intro hnil
        rw [hnil] at hcard
        exact hne (List.length_eq_zero_iff.mp hcard.symm)
      refine ⟨p.1.insertOrAssign (ascii "blocks") _, _, ?_, PropertyMap.find_insertOrAssign_self _ _ _,
        endowed_of_nodup hlabelled hbinds hnodup⟩
      rw [if_pos hcard, hsome]
      simp [bind, Except.bind]
    · next hnodup =>
      rw [if_neg fun hcard => hnodup (hbinds.names.nodup (nodup_of_card hids hcard))]
      rfl

/-- The streams of the graph can be injected, and each block that declares one gets its own endpoint. -/
structure GraphPrepared (yaml : YamlPmt) (session : Session) (bindings : List RuntimeStreamBinding) : Prop where
  injected : normalizeGraphContent yaml session.grcContent bindings ≠ .error injectionFailure
  endowed : ∀ values, graphBlocks yaml session = some values → declaredBlocks values ≠ [] →
    ∃ root items, normalizeGraphContent yaml session.grcContent bindings = .ok (yaml.serialize root) ∧
      root.find (ascii "blocks") = some (.tensor items) ∧ Endowed values items bindings

/-- No two blocks that declare a stream have one name, and where there is such a block no connection is refused. -/
def Injectable (yaml : YamlPmt) (session : Session) : Prop :=
  ∀ root values, yaml.deserialize session.grcContent = some root →
    (root.find (ascii "blocks")).bind Value.getTensor = some values →
      ((declaredBlocks values).map (·.instanceName)).Nodup ∧
        (declaredBlocks values ≠ [] → ¬ ConnectionsRefused yaml root)

theorem graphPrepared_unbound (h : ∀ values, graphBlocks yaml session = some values → declaredBlocks values = []) :
    GraphPrepared yaml session [] where
  injected := normalizeGraphContent_unbound yaml _
  endowed values hb hne := absurd (h values hb) hne

theorem not_graphPrepared_of_refused {root : PropertyMap} (hroot : yaml.deserialize session.grcContent = some root)
    (hvalues : (root.find (ascii "blocks")).bind Value.getTensor = some values) (hne : declaredBlocks values ≠ [])
    (h : ConnectionsRefused yaml root) : ¬ GraphPrepared yaml session bindings := by
  obtain ⟨what, hconn⟩ := connectionsRefused_normalizeBlocks.mpr h
  have hcontent : normalizeGraphContent yaml session.grcContent bindings = .error what := by
    rw [normalizeGraphContent_eq hroot, hconn]
    rfl
  intro hprepared
  obtain ⟨_, _, hok, -⟩ := hprepared.endowed values (graphBlocks_eq_some.mpr ⟨root, hroot, hvalues⟩) hne
  rw [hcontent] at hok
  cases hok

theorem injectable_iff {root : PropertyMap} (hroot : yaml.deserialize session.grcContent = some root)
    (hvalues : (root.find (ascii "blocks")).bind Value.getTensor = some values) :
    Injectable yaml session ↔ ((declaredBlocks values).map (·.instanceName)).Nodup ∧
      (declaredBlocks values ≠ [] → ¬ ConnectionsRefused yaml root) := by
  constructor
  · exact fun h => h root values hroot hvalues
  · intro h root' values' hroot' hvalues'
    obtain rfl : root = root' := by simpa [hroot] using hroot'
    obtain rfl : values = values' := by simpa [hvalues] using hvalues'
    exact h

theorem graphPrepared_iff_nodup {root : PropertyMap} (hroot : yaml.deserialize session.grcContent = some root)
    (hvalues : (root.find (ascii "blocks")).bind Value.getTensor = some values) (hlabelled : Labelled values)
    (hvalid : validateStreamRuntimeContract yaml session = none) (hbinds : Binds session values bindings)
    (hdeclares : declaredBlocks values ≠ []) (hconnections : ¬ ConnectionsRefused yaml root) :
    GraphPrepared yaml session bindings ↔ ((declaredBlocks values).map (·.instanceName)).Nodup := by
  have hb := graphBlocks_eq_some.mpr ⟨root, hroot, hvalues⟩
  have hne : bindings ≠ [] := by
    rintro rfl
    simp [Binds, hdeclares] at hbinds
  have hids : ((declaredBlocks values).map (·.streamId)).Nodup := declaredBlocks_nodup hb hvalid
  have hbound := normalizeGraphContent_bound hroot hvalues hlabelled hbinds hids hne hconnections
  split at hbound
  · next hnodup =>
    obtain ⟨root', items, hcontent, hfind, hendowed⟩ := hbound
    apply iff_of_true _ hnodup
    constructor
    · rw [hcontent]
      rintro ⟨⟩
    · intro values' hb' _
      obtain rfl : values = values' := by simpa [hb] using hb'
      exact ⟨root', items, hcontent, hfind, hendowed⟩
  · next hnodup => exact iff_of_false (fun h => h.injected hbound) hnodup

/-- An accepted graph whose blocks are labelled can be prepared, each declaring block with the endpoint of
its own stream, exactly if no two of these blocks have one name and no connection is refused before them. -/
theorem accepted_graph_prepared (hlabelled : ∀ values, graphBlocks yaml session = some values → Labelled values)
    (hvalid : validateStreamRuntimeContract yaml session = none)
    (hbindings : (bindings.map (·.plan)).Perm (derivedStreams yaml session)) :
    GraphPrepared yaml session bindings ↔ Injectable yaml session := by
  cases hb : graphBlocks yaml session with
  | none =>
    have hnil : bindings = [] := by
      rw [derivedStreams, deriveStreamRuntimePlan, hb] at hbindings
      simpa using hbindings
    subst hnil
    apply iff_of_true
    · apply graphPrepared_unbound
      intro values hsome
      rw [hb] at hsome
      cases hsome
    · intro root values hroot hvalues
      have hsome := graphBlocks_eq_some.mpr ⟨root, hroot, hvalues⟩
      rw [hb] at hsome
      cases hsome
  | some values =>
    obtain ⟨root, hroot, hvalues⟩ := graphBlocks_eq_some.mp hb
    have hbinds : Binds session values bindings := by
      rw [Binds, ← derivedStreams_of_accepted hb hvalid]
      exact hbindings
    rw [injectable_iff hroot hvalues]
    by_cases hdeclares : declaredBlocks values = []
    · have hnil : bindings = [] := by simpa [Binds, hdeclares] using hbinds
      subst hnil
      apply iff_of_true
      · apply graphPrepared_unbound
        intro values' hb'
        obtain rfl : values = values' := by simpa [hb] using hb'
        exact hdeclares
      · simp [hdeclares]
    by_cases hrefused : ConnectionsRefused yaml root
    · exact iff_of_false (not_graphPrepared_of_refused hroot hvalues hdeclares hrefused)
        fun h => h.2 hdeclares hrefused
    · rw [graphPrepared_iff_nodup hroot hvalues (hlabelled values hb) hvalid hbinds hdeclares hrefused]
      exact (and_iff_left fun _ => hrefused).symm

def namedSink (name streamId : Bytes) : PropertyMap :=
  [(ascii "id", .string (ascii "FileSink")), (ascii "parameters", .map [(ascii "name", .string name),
    (ascii "stream_id", .string streamId), (ascii "transport", .string (ascii "http_poll")),
    (ascii "payload_format", .string (ascii "json"))])]

def sinkLines (name streamId : Bytes) : Bytes :=
  ascii "- id: FileSink\n  parameters:\n    name: " ++ name ++ ascii "\n    stream_id: " ++ streamId ++
    ascii "\n    transport: http_poll\n    payload_format: json\n"

def stereoGraph (name name' : Bytes) : Bytes :=
  ascii "blocks:\n" ++ sinkLines name (ascii "left") ++ sinkLines name' (ascii "right")

def stereoYaml (name name' : Bytes) : YamlPmt :=
  .ofDocument (stereoGraph name name') [(ascii "blocks",
    .tensor [.map (namedSink name (ascii "left")), .map (namedSink name' (ascii "right"))])]

def stereoSession (name name' : Bytes) : Session where
  id := ascii "sess_7"
  name := []
  grcContent := stereoGraph name name'
  schedulerAlias := none
  state := .stopped
  lastError := none
  createdAt := 1
  updatedAt := 1

def stereoBinding (name streamId : Bytes) (port : Nat) : RuntimeStreamBinding :=
  let plan := bindingPlan (ascii "sess_7") ⟨ascii "FileSink", name,
    ⟨true, some streamId, some (ascii "http_poll"), some (ascii "json")⟩⟩
  ⟨plan, ⟨ascii "http", ascii "127.0.0.1", port, ascii "/snapshot",
    ascii "http://127.0.0.1:" ++ decimal port ++ ascii "/snapshot"⟩, toBrowserStreamDescriptor plan⟩

def stereoBindings (name name' : Bytes) : List RuntimeStreamBinding :=
  [stereoBinding name (ascii "left") 40001, stereoBinding name' (ascii "right") 40002]

theorem stereo_values {name name' : Bytes} {root : PropertyMap} {values : List Value}
    (hroot : (stereoYaml name name').deserialize (stereoGraph name name') = some root)
    (hvalues : (root.find (ascii "blocks")).bind Value.getTensor = some values) :
    values = [.map (namedSink name (ascii "left")), .map (namedSink name' (ascii "right"))] := by
  obtain rfl := Option.some.inj ((if_pos rfl).symm.trans hroot)
  rw [PropertyMap.find_cons_self] at hvalues
  cases hvalues
  rfl

theorem stereo_connected {name name' : Bytes} {root : PropertyMap}
    (hroot : (stereoYaml name name').deserialize (stereoGraph name name') = some root) :
    ¬ ConnectionsRefused (stereoYaml name name') root := by
  obtain rfl := Option.some.inj ((if_pos rfl).symm.trans hroot)
  rintro ⟨what, hrefused⟩
  cases hrefused

theorem stereo_labelled {name name' : Bytes} (h : name ≠ []) (h' : name' ≠ []) :
    ∀ values, graphBlocks (stereoYaml name name') (stereoSession name name') = some values → Labelled values := by
  intro values hb
  obtain ⟨root, hroot, hvalues⟩ := graphBlocks_eq_some.mp hb
  obtain rfl := stereo_values hroot hvalues
  have hsink : ∀ {name : Bytes} (streamId : Bytes), name ≠ [] →
      nonempty (parameterString (blockMap (namedSink name streamId) (ascii "parameters")) (ascii "name")) ∧
        nonempty (parameterString (namedSink name streamId) (ascii "id")) := by
    intro name streamId h
    cases name with
    | nil => exact absurd rfl h
    | cons byte name => exact ⟨rfl, rfl⟩
  intro block hmem
  simp only [List.mem_cons, List.not_mem_nil, or_false, Value.map.injEq] at hmem
  rcases hmem with rfl | rfl
  · exact hsink _ h
  · exact hsink _ h'

theorem accepted_graph_prepared_stereo :
    GraphPrepared (stereoYaml (ascii "l") (ascii "r")) (stereoSession (ascii "l") (ascii "r"))
      (stereoBindings (ascii "l") (ascii "r")) := by
  apply (accepted_graph_prepared (stereo_labelled (by decide) (by decide))
    (show validateStreamRuntimeContract _ (stereoSession (ascii "l") (ascii "r")) = none by decide +kernel)
    (show List.Perm ((stereoBindings (ascii "l") (ascii "r")).map (·.plan)) _ by decide +kernel)).mpr
  intro root values hroot hvalues
  rw [stereo_values hroot hvalues]
  exact ⟨by decide +kernel, fun _ => stereo_connected hroot⟩

theorem accepted_graph_refused :
    ¬ ∀ (yaml : YamlPmt) (session : Session) (bindings : List RuntimeStreamBinding),
      (∀ values, graphBlocks yaml session = some values → Labelled values) →
        validateStreamRuntimeContract yaml session = none →
          (bindings.map (·.plan)).Perm (derivedStreams yaml session) →
            normalizeGraphContent yaml session.grcContent bindings ≠ .error injectionFailure := by
  intro prepared
  exact prepared (stereoYaml (ascii "sink") (ascii "sink")) (stereoSession (ascii "sink") (ascii "sink"))
    (stereoBindings (ascii "sink") (ascii "sink")) (stereo_labelled (by decide) (by decide)) (by decide +kernel)
    (by decide +kernel) (by decide +kernel)

end Gr4ControlPlane
