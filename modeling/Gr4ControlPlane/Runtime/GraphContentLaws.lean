import Gr4ControlPlane.Runtime.GraphContent

namespace Gr4ControlPlane

variable {bindings : List RuntimeStreamBinding} {block : PropertyMap} {binding : RuntimeStreamBinding}

def endpointOf (block : PropertyMap) : Option Bytes :=
  parameterString (blockMap block (ascii "parameters")) (ascii "endpoint")

def withEndpoint (block : PropertyMap) (endpoint : Bytes) : PropertyMap :=
  block.insertOrAssign (ascii "parameters")
    (.map ((blockMap block (ascii "parameters")).insertOrAssign (ascii "endpoint") (.string endpoint)))

theorem blockMap_withEndpoint {endpoint : Bytes} :
    blockMap (withEndpoint block endpoint) (ascii "parameters") =
      (blockMap block (ascii "parameters")).insertOrAssign (ascii "endpoint") (.string endpoint) := by
  unfold withEndpoint
  rw [blockMap, PropertyMap.find_insertOrAssign_self]
  rfl

@[simp] theorem endpointOf_withEndpoint {endpoint : Bytes} :
    endpointOf (withEndpoint block endpoint) = some endpoint := by
  unfold endpointOf parameterString
  rw [blockMap_withEndpoint, PropertyMap.find_insertOrAssign_self]
  rfl

@[simp] theorem runtimeName_withEndpoint {endpoint : Bytes} :
    runtimeName (withEndpoint block endpoint) = runtimeName block := by
  have hname : ascii "name" ≠ ascii "endpoint" := by decide
  have hinstance : ascii "instance_name" ≠ ascii "parameters" := by decide
  have hfind : (withEndpoint block endpoint).find (ascii "instance_name") = block.find (ascii "instance_name") :=
    PropertyMap.find_insertOrAssign_of_ne _ _ hinstance
  unfold runtimeName PropertyMap.contains parameterString
  rw [blockMap_withEndpoint, PropertyMap.find_insertOrAssign_of_ne _ _ hname, hfind]

theorem injectBlock_named {name : Bytes} (h : runtimeName block = some name) (hne : name ≠ []) :
    injectBlock bindings (.map block) =
      match bindings.find? (·.plan.blockInstanceName = name) with
      | none => (.map block, none)
      | some binding => (.map (withEndpoint block binding.internal.endpoint), some binding.plan.streamId) := by
  cases name with
  | nil => exact absurd rfl hne
  | cons byte name =>
    simp only [injectBlock, h]
    cases bindings.find? (·.plan.blockInstanceName = byte :: name) <;> rfl

theorem injectBlock_unnamed (h : runtimeName block = none ∨ runtimeName block = some []) :
    injectBlock bindings (.map block) = (.map block, none) := by
  rcases h with h | h <;> simp only [injectBlock, h]

theorem injectBlock_taken {value value' : Value} {streamId : Bytes}
    (h : injectBlock bindings value = (value', some streamId)) :
    ∃ block name binding, runtimeName block = some name ∧ name ≠ [] ∧
      bindings.find? (·.plan.blockInstanceName = name) = some binding ∧
      binding.plan.streamId = streamId ∧ value' = .map (withEndpoint block binding.internal.endpoint) := by
  cases value with
  | map block =>
    cases hname : runtimeName block with
    | none => rw [injectBlock_unnamed (.inl hname)] at h; cases h
    | some name =>
      cases name with
      | nil => rw [injectBlock_unnamed (.inr hname)] at h; cases h
      | cons byte name =>
        rw [injectBlock_named hname (List.cons_ne_nil _ _)] at h
        split at h
        · cases h
        · next binding hfind =>
          cases h
          exact ⟨block, _, binding, hname, List.cons_ne_nil _ _, hfind, rfl, rfl⟩
  | _ => cases h

/-- Every stream's endpoint stands in the block the stream is named after, and no other
endpoint does. -/
structure Injected (bindings : List RuntimeStreamBinding) (items : List Value) : Prop where
  each : ∀ binding ∈ bindings, ∃ block, Value.map block ∈ items ∧
    runtimeName block = some binding.plan.blockInstanceName ∧
    endpointOf block = some binding.internal.endpoint
  only : ∀ binding ∈ bindings, ∀ block, Value.map block ∈ items →
    runtimeName block = some binding.plan.blockInstanceName →
    endpointOf block = some binding.internal.endpoint

abbrev takenIds (bindings : List RuntimeStreamBinding) (items : List Value) : List Bytes :=
  (items.map (injectBlock bindings)).filterMap Prod.snd

theorem taken_of_mem {items : List Value} {streamId : Bytes} (h : streamId ∈ takenIds bindings items) :
    ∃ block name binding, Value.map (withEndpoint block binding.internal.endpoint) ∈
        (items.map (injectBlock bindings)).map Prod.fst ∧
      runtimeName block = some name ∧ name ≠ [] ∧
      bindings.find? (·.plan.blockInstanceName = name) = some binding ∧ binding.plan.streamId = streamId := by
  obtain ⟨⟨value', taken⟩, hp, rfl⟩ := List.mem_filterMap.mp h
  obtain ⟨value, -, heq⟩ := List.mem_map.mp hp
  obtain ⟨block, name, b, hname, hne, hfind, hid, rfl⟩ := injectBlock_taken heq
  exact ⟨block, name, b, List.mem_map_of_mem hp, hname, hne, hfind, hid⟩

theorem takenIds_subset {items : List Value} :
    (takenIds bindings items).toFinset ⊆ (bindings.map (·.plan.streamId)).toFinset := by
  intro streamId hmem
  obtain ⟨_, _, b, _, _, _, hfind, rfl⟩ := taken_of_mem (List.mem_toFinset.mp hmem)
  exact List.mem_toFinset.mpr (List.mem_map_of_mem (List.mem_of_find?_eq_some hfind))

theorem first_of_card {items : List Value} (hids : (bindings.map (·.plan.streamId)).Nodup)
    (hcard : (takenIds bindings items).toFinset.card = bindings.length) (hb : binding ∈ bindings) :
    ∃ block name, Value.map (withEndpoint block binding.internal.endpoint) ∈
        (items.map (injectBlock bindings)).map Prod.fst ∧
      runtimeName block = some name ∧ name ≠ [] ∧
      bindings.find? (·.plan.blockInstanceName = name) = some binding := by
  have hall : (takenIds bindings items).toFinset = (bindings.map (·.plan.streamId)).toFinset := by
    refine Finset.eq_of_subset_of_card_le takenIds_subset ?_
    rw [hcard, List.toFinset_card_of_nodup hids, List.length_map]
  have hmem : binding.plan.streamId ∈ takenIds bindings items := by
    rw [← List.mem_toFinset, hall, List.mem_toFinset]
    exact List.mem_map_of_mem hb
  obtain ⟨block, name, b, hblock, hname, hne, hfind, hid⟩ := taken_of_mem hmem
  have hsame : b = binding := List.inj_on_of_nodup_map hids (List.mem_of_find?_eq_some hfind) hb hid
  subst hsame
  exact ⟨block, name, hblock, hname, hne, hfind⟩

theorem injectBlock_map {block' : PropertyMap} {taken : Option Bytes} {value : Value}
    (h : injectBlock bindings value = (.map block', taken)) :
    ∃ before, value = .map before ∧ runtimeName block' = runtimeName before := by
  cases taken with
  | some streamId =>
    cases value with
    | map before =>
      obtain ⟨block, name, binding, hname, hne, hfind, -, heq⟩ := injectBlock_taken h
      cases hname' : runtimeName before with
      | none => rw [injectBlock_unnamed (.inl hname')] at h; cases h
      | some name' =>
        cases name' with
        | nil => rw [injectBlock_unnamed (.inr hname')] at h; cases h
        | cons byte name' =>
          rw [injectBlock_named hname' (List.cons_ne_nil _ _)] at h
          split at h
          · cases h
          · cases h
            exact ⟨before, rfl, by rw [runtimeName_withEndpoint, hname']⟩
    | _ => cases h
  | none =>
    cases value with
    | map before =>
      refine ⟨before, rfl, ?_⟩
      cases hname : runtimeName before with
      | none => rw [injectBlock_unnamed (.inl hname)] at h; cases h; exact hname
      | some name =>
        cases name with
        | nil => rw [injectBlock_unnamed (.inr hname)] at h; cases h; exact hname
        | cons byte name =>
          rw [injectBlock_named hname (List.cons_ne_nil _ _)] at h
          split at h
          · cases h; exact hname
          · cases h
    | _ => cases h

theorem injected_of_card {items : List Value} (hids : (bindings.map (·.plan.streamId)).Nodup)
    (hcard : ((items.map (injectBlock bindings)).filterMap Prod.snd).toFinset.card = bindings.length) :
    Injected bindings ((items.map (injectBlock bindings)).map Prod.fst) := by
  constructor
  · intro binding hb
    obtain ⟨block, name, hblock, hname, hne, hfind⟩ := first_of_card hids hcard hb
    have hbname : binding.plan.blockInstanceName = name := by simpa using List.find?_some hfind
    exact ⟨_, hblock, by rw [runtimeName_withEndpoint, hname, hbname], endpointOf_withEndpoint⟩
  · intro binding hb block' hblock' hname'
    obtain ⟨block, name, -, hname, hne, hfind⟩ := first_of_card hids hcard hb
    have hbname : binding.plan.blockInstanceName = name := by simpa using List.find?_some hfind
    rw [List.map_map] at hblock'
    obtain ⟨value, -, heq⟩ := List.mem_map.mp hblock'
    obtain ⟨before, rfl, hkept⟩ := injectBlock_map (Prod.ext heq rfl)
    -- so the block took the endpoint of the first binding of its name
    have hbefore : runtimeName before = some name := by rw [← hkept, hname', hbname]
    rw [Function.comp_apply, injectBlock_named hbefore hne, hfind] at heq
    cases heq
    exact endpointOf_withEndpoint

theorem injectStreamBindings_ok {root root' : PropertyMap} {changed : Bool} {items : List Value}
    (hne : bindings ≠ []) (hids : (bindings.map (·.plan.streamId)).Nodup)
    (hitems : (root.find (ascii "blocks")).bind Value.getTensor = some items)
    (h : injectStreamBindings root bindings = .ok (root', changed)) :
    changed = true ∧ ∃ items', root'.find (ascii "blocks") = some (.tensor items') ∧
      Injected bindings items' := by
  unfold injectStreamBindings at h
  rw [if_neg hne, hitems] at h
  dsimp only at h
  split at h
  · next hcard =>
    cases h
    refine ⟨?_, _, PropertyMap.find_insertOrAssign_self _ _ _, injected_of_card hids hcard⟩
    rw [Bool.not_eq_true', List.isEmpty_eq_false_iff]
    intro hempty
    rw [hempty] at hcard
    exact hne (List.length_eq_zero_iff.mp hcard.symm)
  · cases h

variable {yaml : YamlPmt}

theorem normalizeGraphConnections_find {root root' : PropertyMap} {changed : Bool} {key : Bytes}
    (hkey : key ≠ ascii "connections") (h : normalizeGraphConnections yaml root = .ok (root', changed)) :
    root'.find key = root.find key := by
  unfold normalizeGraphConnections at h
  split at h
  · cases h; rfl
  · next connections _ =>
    cases hc : normalizeConnections yaml connections with
    | error what => rw [hc] at h; cases h
    | ok p =>
      rw [hc] at h
      cases h
      exact PropertyMap.find_insertOrAssign_of_ne _ _ hkey

theorem normalizeBlocks_tensor {root : PropertyMap} {items : List Value}
    (h : (root.find (ascii "blocks")).bind Value.getTensor = some items) :
    ∃ items', ((normalizeBlocks yaml root).1.find (ascii "blocks")).bind Value.getTensor = some items' := by
  unfold normalizeBlocks
  rw [h]
  exact ⟨_, by rw [PropertyMap.find_insertOrAssign_self]; rfl⟩

/-- The graph that is loaded for a session with streams carries their endpoints. -/
theorem normalizeGraphContent_injected {content content' : Bytes} {root : PropertyMap} {items : List Value}
    (hne : bindings ≠ []) (hids : (bindings.map (·.plan.streamId)).Nodup)
    (hroot : yaml.deserialize content = some root)
    (hitems : (root.find (ascii "blocks")).bind Value.getTensor = some items)
    (h : normalizeGraphContent yaml content bindings = .ok content') :
    ∃ root' items', content' = yaml.serialize root' ∧
      root'.find (ascii "blocks") = some (.tensor items') ∧ Injected bindings items' := by
  have hblocks : ascii "blocks" ≠ ascii "connections" := by decide
  obtain ⟨items₁, hitems₁⟩ := normalizeBlocks_tensor hitems
  unfold normalizeGraphContent at h
  rw [hroot] at h
  cases hconn : normalizeGraphConnections yaml (normalizeBlocks yaml root).1 with
  | error what => simp [hconn, bind, Except.bind] at h
  | ok p =>
    obtain ⟨root₂, changed₂⟩ := p
    rw [← normalizeGraphConnections_find hblocks hconn] at hitems₁
    cases hinj : injectStreamBindings root₂ bindings with
    | error what => simp [hconn, hinj, bind, Except.bind] at h
    | ok p =>
      obtain ⟨root₃, changed₃⟩ := p
      obtain ⟨rfl, items', hitems', hinjected⟩ := injectStreamBindings_ok hne hids hitems₁ hinj
      refine ⟨root₃, items', ?_, hitems', hinjected⟩
      simpa [hconn, hinj, bind, Except.bind, pure, Except.pure] using h.symm

end Gr4ControlPlane
