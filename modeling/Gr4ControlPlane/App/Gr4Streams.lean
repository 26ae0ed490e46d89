import Gr4ControlPlane.App.Gr4Invariants
import Gr4ControlPlane.Runtime.GraphContentLaws

open Gr4ControlPlane.Interleaving

namespace Gr4ControlPlane

variable {yaml : YamlPmt} {s : Session} {graph : Bytes} {bindings : List RuntimeStreamBinding}
  {binding : RuntimeStreamBinding} {streamId : Bytes}

theorem Built.nodup (h : Built yaml s graph bindings) : (bindings.map (·.plan.streamId)).Nodup := by
  have hids := derivedStreams_nodup yaml s
  rw [← h.plans, List.map_map] at hids
  exact hids

theorem Built.unique {binding' : RuntimeStreamBinding} (h : Built yaml s graph bindings)
    (hb : binding ∈ bindings) (hb' : binding' ∈ bindings) (hid : binding.plan.streamId = binding'.plan.streamId) :
    binding = binding' :=
  List.inj_on_of_nodup_map h.nodup hb hb' hid

theorem Built.planned (h : Built yaml s graph bindings) (hb : binding ∈ bindings) : binding.plan.Planned s.id := by
  have hmem : binding.plan ∈ derivedStreams yaml s := by
    rw [← h.plans]
    exact List.mem_map_of_mem hb
  exact derivedStreams_planned hmem

/-- The graph has a block for the stream, and every block of its name publishes where the
binding says. -/
def CarriesEndpoint (yaml : YamlPmt) (graph : Bytes) (binding : RuntimeStreamBinding) : Prop :=
  ∃ root items, graph = yaml.serialize root ∧ root.find (ascii "blocks") = some (.tensor items) ∧
    (∃ block, Value.map block ∈ items ∧ runtimeName block = some binding.plan.blockInstanceName) ∧
    ∀ block, Value.map block ∈ items → runtimeName block = some binding.plan.blockInstanceName →
      endpointOf block = some binding.internal.endpoint

theorem Built.blocks (h : Built yaml s graph bindings) (hne : bindings ≠ []) : ∃ root items,
    yaml.deserialize s.grcContent = some root ∧ (root.find (ascii "blocks")).bind Value.getTensor = some items := by
  have hstreams : derivedStreams yaml s ≠ [] := by
    rw [← h.plans]
    simpa using hne
  have hblocks : ∃ blocks, graphBlocks yaml s = some blocks := by
    unfold derivedStreams at hstreams
    rcases deriveStreamRuntimePlan_cases yaml s with hnone | ⟨blocks, _, hblocks, -⟩
    · simp [hnone] at hstreams
    · exact ⟨blocks, hblocks⟩
  obtain ⟨blocks, hblocks⟩ := hblocks
  obtain ⟨root, hroot, hblocks⟩ := Option.bind_eq_some_iff.mp hblocks
  exact ⟨root, blocks, hroot, hblocks⟩

theorem Built.carriesEndpoint (h : Built yaml s graph bindings) (hb : binding ∈ bindings) :
    CarriesEndpoint yaml graph binding := by
  have hne : bindings ≠ [] := List.ne_nil_of_mem hb
  obtain ⟨root, items, hroot, hitems⟩ := h.blocks hne
  obtain ⟨root', items', hgraph, hitems', hinjected⟩ :=
    normalizeGraphContent_injected hne h.nodup hroot hitems h.content
  obtain ⟨block, hblock, hname, -⟩ := hinjected.each binding hb
  exact ⟨root', items', hgraph, hitems', ⟨block, hblock, hname⟩, hinjected.only binding hb⟩

theorem Built.protocol (h : Built yaml s graph bindings) (hb : binding ∈ bindings) :
    binding.internal.protocol = if isWebsocket binding.plan.transport then ascii "websocket" else ascii "http" := by
  obtain ⟨port, hport⟩ := h.internal binding hb
  rw [hport]
  unfold internalBinding
  split <;> rfl

namespace Gr4State

variable {σ : Gr4State} {r : SessionRuntimeResources}

theorem activeStreamPlan_live (h : σ.liveResources s = some r) :
    σ.activeStreamPlan s =
      if r.streamBindings.isEmpty then none else some ⟨r.streamBindings.map (·.plan)⟩ := by
  unfold activeStreamPlan
  rw [h]
  rfl

theorem findStream_ok {action : Bytes} {websocket : Bool} (h : σ.liveResources s = some r) :
    σ.findStream action websocket s streamId = .ok binding ↔ r.streamBindings.find? (fun binding =>
      binding.plan.streamId = streamId ∧ isWebsocket binding.plan.transport = websocket) = some binding := by
  unfold findStream
  rw [h]
  dsimp only
  split
  · next hfind => rw [hfind, Except.ok.injEq, Option.some.injEq]
  · next hfind =>
    rw [hfind]
    simp

end Gr4State

theorem Built.find_eq_some {kind : Bool} (h : Built yaml s graph bindings) :
    bindings.find? (fun binding => binding.plan.streamId = streamId ∧ isWebsocket binding.plan.transport = kind) =
      some binding ↔
    binding ∈ bindings ∧ binding.plan.streamId = streamId ∧ isWebsocket binding.plan.transport = kind := by
  constructor
  · intro hfind
    have hpred := List.find?_some hfind
    exact ⟨List.mem_of_find?_eq_some hfind, by simpa using hpred⟩
  · rintro ⟨hb, hid, hkind⟩
    obtain ⟨found, hfound⟩ : ∃ found, bindings.find? (fun binding => binding.plan.streamId = streamId ∧
        isWebsocket binding.plan.transport = kind) = some found := by
      rw [← Option.isSome_iff_exists, List.find?_isSome]
      exact ⟨binding, hb, by simp [hid, hkind]⟩
    have hpred := List.find?_some hfound
    have hsame := h.unique (List.mem_of_find?_eq_some hfound) hb (by simp at hpred; rw [hpred.1, hid])
    rw [hfound, hsame]

namespace SessionService

variable {c : Config (gr4Service yaml)} {x : Bytes}

theorem running_resources (h : Reachable (gr4RuntimeManager yaml) gr4Machine c) (hidle : ¬ ∃ i, UnderWay c x i)
    (hs : c.shared.1.repository.get x = some s) (hrun : s.state = .running) :
    ∃ a r execution, c.shared.2.entry x = some (a, r) ∧ c.shared.2.liveResources s = some r ∧
      r.execution = some execution ∧ Built yaml s execution.graph r.streamBindings := by
  obtain ⟨owners, hown⟩ := reach_gr4Owned h
  have hrest := hown.idle_rest hidle h
  have hshows := hrest.shows s hs
  rw [hrun] at hshows
  obtain ⟨a, r, hr, hphase, execution, hx, hrunning⟩ := hshows
  have hr : c.shared.2.entry x = some (a, r) := hr
  have hid : s.id = x := InMemorySessionRepository.id_of_get hs
  refine ⟨a, r, execution, hr, ?_, hx, ?_⟩
  · unfold Gr4State.liveResources
    rw [hid, hr]
    simp [Option.filter, hx, hrunning, hphase]
  · have ht := hown.idle_tidy hidle h hr
    rw [hs] at ht
    exact ht.built execution hx

theorem activeStreamPlan_idle (h : Reachable (gr4RuntimeManager yaml) gr4Machine c)
    (hidle : ¬ ∃ i, UnderWay c x i) (hs : c.shared.1.repository.get x = some s) :
    c.shared.1.activeStreamPlan c.shared.2.activeStreamPlan x =
      .ok (if s.state = .running then deriveStreamRuntimePlan yaml s else none) := by
  rw [activeStreamPlan_atRest (h.atRest hidle) hs]
  by_cases hrun : s.state = .running
  · obtain ⟨a, r, execution, -, hlive, -, hbuilt⟩ := running_resources h hidle hs hrun
    rw [if_pos hrun, if_pos hrun, Gr4State.activeStreamPlan_live hlive, deriveStreamRuntimePlan_eq, ← hbuilt.plans]
    simp
  · rw [if_neg hrun, if_neg hrun]

def Advertises (c : Config (gr4Service yaml)) (x streamId ending : Bytes) : Prop :=
  ∃ plan, c.shared.1.activeStreamPlan c.shared.2.activeStreamPlan x = .ok (some plan) ∧
    ∃ stream ∈ plan.streams, stream.streamId = streamId ∧ ending <:+ stream.path

theorem advertises_iff (h : Reachable (gr4RuntimeManager yaml) gr4Machine c) (hidle : ¬ ∃ i, UnderWay c x i)
    (hs : c.shared.1.repository.get x = some s) (hrun : s.state = .running) {ending : Bytes} :
    Advertises c x streamId ending ↔
      ∃ stream ∈ derivedStreams yaml s, stream.streamId = streamId ∧ ending <:+ stream.path := by
  unfold Advertises
  rw [activeStreamPlan_idle h hidle hs, if_pos hrun, deriveStreamRuntimePlan_eq]
  constructor
  · rintro ⟨plan, hplan, stream, hmem, hrest⟩
    split at hplan
    · cases hplan
    · cases hplan
      exact ⟨stream, hmem, hrest⟩
  · rintro ⟨stream, hmem, hrest⟩
    refine ⟨⟨derivedStreams yaml s⟩, ?_, stream, hmem, hrest⟩
    rw [if_neg (by simpa using List.ne_nil_of_mem hmem)]

structure Serves (yaml : YamlPmt) (r : SessionRuntimeResources) (execution : Execution)
    (streamId protocol : Bytes) (binding : RuntimeStreamBinding) : Prop where
  mem : binding ∈ r.streamBindings
  id : binding.plan.streamId = streamId
  unique : ∀ binding' ∈ r.streamBindings, binding'.plan.streamId = streamId → binding' = binding
  protocol : binding.internal.protocol = protocol
  endpoint : CarriesEndpoint yaml execution.graph binding

theorem lookup_advertised {r : SessionRuntimeResources} {execution : Execution}
    (streamId action protocol ending : Bytes) (websocket : Bool) (hlive : c.shared.2.liveResources s = some r)
    (hbuilt : Built yaml s execution.graph r.streamBindings)
    (hprotocol : (if websocket then ascii "websocket" else ascii "http") = protocol)
    (hending : ∀ plan : RuntimeStreamBindingPlan, plan.Planned s.id →
      (ending <:+ plan.path ↔ isWebsocket plan.transport = websocket)) :
    ((∃ binding, c.shared.2.findStream action websocket s streamId = .ok binding) ↔
        ∃ stream ∈ derivedStreams yaml s, stream.streamId = streamId ∧ ending <:+ stream.path) ∧
      ∀ binding, c.shared.2.findStream action websocket s streamId = .ok binding →
        Serves yaml r execution streamId protocol binding := by
  have hfound : ∀ binding, c.shared.2.findStream action websocket s streamId = .ok binding ↔
      binding ∈ r.streamBindings ∧ binding.plan.streamId = streamId ∧
        isWebsocket binding.plan.transport = websocket :=
    fun binding => (Gr4State.findStream_ok hlive).trans hbuilt.find_eq_some
  constructor
  · simp only [hfound, ← hbuilt.plans, List.mem_map]
    constructor
    · rintro ⟨binding, hb, hid, hkind⟩
      exact ⟨binding.plan, ⟨binding, hb, rfl⟩, hid, (hending _ (hbuilt.planned hb)).mpr hkind⟩
    · rintro ⟨_, ⟨binding, hb, rfl⟩, hid, hpath⟩
      exact ⟨binding, hb, hid, (hending _ (hbuilt.planned hb)).mp hpath⟩
  · intro binding hfind
    obtain ⟨hb, hid, hkind⟩ := (hfound binding).mp hfind
    refine ⟨hb, hid, fun binding' hb' hid' => hbuilt.unique hb' hb (hid'.trans hid.symm), ?_, hbuilt.carriesEndpoint hb⟩
    rw [hbuilt.protocol hb, hkind, hprotocol]

theorem advertised_served (h : Reachable (gr4RuntimeManager yaml) gr4Machine c) (hidle : ¬ ∃ i, UnderWay c x i)
    (hs : c.shared.1.repository.get x = some s) (hrun : s.state = .running) :
    ∃ a r execution, c.shared.2.entry x = some (a, r) ∧ r.execution = some execution ∧ ∀ streamId,
      ((∃ binding, c.shared.2.findHttpStream s streamId = .ok binding) ↔
        Advertises c x streamId (ascii "/http")) ∧
      ((∃ binding, c.shared.2.findWebsocketStream s streamId = .ok binding) ↔
        Advertises c x streamId (ascii "/ws")) ∧
      ¬ ((∃ binding, c.shared.2.findHttpStream s streamId = .ok binding) ∧
        ∃ binding, c.shared.2.findWebsocketStream s streamId = .ok binding) ∧
      (∀ binding, c.shared.2.findHttpStream s streamId = .ok binding →
        Serves yaml r execution streamId (ascii "http") binding) ∧
      ∀ binding, c.shared.2.findWebsocketStream s streamId = .ok binding →
        Serves yaml r execution streamId (ascii "websocket") binding := by
  obtain ⟨a, r, execution, hr, hlive, hx, hbuilt⟩ := running_resources h hidle hs hrun
  refine ⟨a, r, execution, hr, hx, fun streamId => ?_⟩
  obtain ⟨hhttp, hhttp'⟩ := lookup_advertised streamId (ascii "stream fetch") (ascii "http") (ascii "/http") false
    hlive hbuilt rfl
    fun plan hplan => by rw [hplan.path]; exact path_http
  obtain ⟨hws, hws'⟩ := lookup_advertised streamId (ascii "websocket route") (ascii "websocket") (ascii "/ws") true
    hlive hbuilt rfl
    fun plan hplan => by rw [hplan.path]; exact path_websocket
  refine ⟨?_, ?_, ?_, hhttp', hws'⟩
  · rw [advertises_iff h hidle hs hrun]
    exact hhttp
  · rw [advertises_iff h hidle hs hrun]
    exact hws
  · rintro ⟨⟨binding, hb⟩, binding', hb'⟩
    have hserves := hhttp' binding hb
    have hserves' := hws' binding' hb'
    -- both would be the one binding of that stream
    rw [hserves.unique binding' hserves'.mem hserves'.id] at hserves'
    exact absurd (hserves.protocol.symm.trans hserves'.protocol) (by decide)

def runningSession : Session :=
  (runningConfig.shared.1.repository.get (generateSessionId 7)).get (by decide +kernel)

theorem runningSession_running : runningSession.state = .running := by decide +kernel

theorem runningSession_stored : runningConfig.shared.1.repository.get (generateSessionId 7) = some runningSession :=
  (Option.some_get _).symm

attribute [irreducible] runningSession

theorem advertised_served_running :
    (∃ binding, runningConfig.shared.2.findHttpStream runningSession (ascii "spectrum") = .ok binding) ↔
      Advertises runningConfig (generateSessionId 7) (ascii "spectrum") (ascii "/http") := by
  obtain ⟨a, r, execution, -, -, hserved⟩ := advertised_served reachable_runningConfig
    (not_underWay runningConfig_idle) runningSession_stored runningSession_running
  exact (hserved (ascii "spectrum")).1

end SessionService

end Gr4ControlPlane
