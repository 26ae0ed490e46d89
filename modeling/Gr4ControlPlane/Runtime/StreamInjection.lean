import Gr4ControlPlane.Runtime.AcceptedGraphs

namespace Gr4ControlPlane

variable {bindings : List RuntimeStreamBinding} {binding : RuntimeStreamBinding} {items : List Value}
  {block : PropertyMap} {root root' : PropertyMap} {changed : Bool}

inductive Rebound (bindings : List RuntimeStreamBinding) : Value → Value → Prop
  | bound {block block' : PropertyMap} {binding : RuntimeStreamBinding} (hb : binding ∈ bindings)
      (hname : runtimeName block = some binding.plan.blockInstanceName)
      (hendpoint : endpointOf block' = some binding.internal.endpoint)
      (hparameters : ∀ key, key ≠ ascii "endpoint" →
        (blockMap block' (ascii "parameters")).find key = (blockMap block (ascii "parameters")).find key)
      (hothers : ∀ key, key ≠ ascii "parameters" → block'.find key = block.find key) :
      Rebound bindings (.map block) (.map block')
  | kept {value : Value} (h : ∀ block, value = .map block → ∀ binding ∈ bindings,
      runtimeName block ≠ some binding.plan.blockInstanceName) : Rebound bindings value value

structure Injection (bindings : List RuntimeStreamBinding) (items : List Value) (root root' : PropertyMap) : Prop where
  names : (bindings.map (·.plan.blockInstanceName)).Nodup
  carried : ∀ binding ∈ bindings, ∃ block, Value.map block ∈ items ∧
    runtimeName block = some binding.plan.blockInstanceName
  blocks : ∃ items', root'.find (ascii "blocks") = some (.tensor items') ∧
    List.Forall₂ (Rebound bindings) items items'
  others : ∀ key, key ≠ ascii "blocks" → root'.find key = root.find key

theorem rebound_withEndpoint (hb : binding ∈ bindings) (hname : runtimeName block = some binding.plan.blockInstanceName) :
    Rebound bindings (.map block) (.map (withEndpoint block binding.internal.endpoint)) := by
  apply Rebound.bound hb hname endpointOf_withEndpoint
  · intro key hkey
    rw [blockMap_withEndpoint, PropertyMap.find_insertOrAssign_of_ne _ _ hkey]
  · intro key hkey
    exact PropertyMap.find_insertOrAssign_of_ne _ _ hkey

theorem injectBlock_rebound (hne : ∀ binding ∈ bindings, binding.plan.blockInstanceName ≠ []) (value : Value) :
    Rebound bindings value (injectBlock bindings value).1 := by
  cases value with
  | map block =>
    by_cases hnamed : ∃ name, runtimeName block = some name ∧ name ≠ []
    · obtain ⟨name, hname, hne⟩ := hnamed
      rw [injectBlock_named hname hne]
      cases hfind : bindings.find? (·.plan.blockInstanceName = name) with
      | none =>
        apply Rebound.kept
        rintro _ ⟨⟩ binding hb heq
        rw [hname] at heq
        simpa using List.find?_eq_none.mp hfind binding hb (by simpa using (Option.some.inj heq).symm)
      | some binding =>
        have hbname : binding.plan.blockInstanceName = name := by simpa using List.find?_some hfind
        exact rebound_withEndpoint (List.mem_of_find?_eq_some hfind) (hbname ▸ hname)
    · have hunnamed : runtimeName block = none ∨ runtimeName block = some [] := by
        cases hname : runtimeName block with
        | none => exact .inl rfl
        | some name =>
          by_cases hnil : name = []
          · exact .inr (hnil ▸ rfl)
          · exact absurd ⟨name, hname, hnil⟩ hnamed
      rw [injectBlock_unnamed hunnamed]
      apply Rebound.kept
      rintro _ ⟨⟩ binding hb heq
      exact hnamed ⟨_, heq, hne binding hb⟩
  | _ => exact .kept nofun

theorem carried_of_card (hids : (bindings.map (·.plan.streamId)).Nodup)
    (hcard : (takenIds bindings items).toFinset.card = bindings.length) (hb : binding ∈ bindings) :
    binding.plan.blockInstanceName ≠ [] ∧
      ∃ block, Value.map block ∈ items ∧ runtimeName block = some binding.plan.blockInstanceName := by
  obtain ⟨block, name, hblock, hname, hne, hfind⟩ := first_of_card hids hcard hb
  have hbname : binding.plan.blockInstanceName = name := by simpa using List.find?_some hfind
  rw [List.map_map] at hblock
  obtain ⟨value, hmem, heq⟩ := List.mem_map.mp hblock
  obtain ⟨before, rfl, hkept⟩ := injectBlock_map (Prod.ext heq rfl)
  rw [runtimeName_withEndpoint] at hkept
  exact ⟨hbname ▸ hne, before, hmem, by rw [← hkept, hname, hbname]⟩

/-- An injection that does not raise has given every stream to the blocks of its name, all of them
and no others, and touched nothing but their endpoints. -/
theorem injectStreamBindings_injection (hne : bindings ≠ []) (hids : (bindings.map (·.plan.streamId)).Nodup)
    (hitems : root.find (ascii "blocks") = some (.tensor items))
    (h : injectStreamBindings root bindings = .ok (root', changed)) : Injection bindings items root root' := by
  rw [injectStreamBindings_eq hne hitems] at h
  split at h
  · next hcard =>
    cases h
    refine ⟨nodup_of_card hids hcard, fun binding hb => (carried_of_card hids hcard hb).2,
      ⟨_, PropertyMap.find_insertOrAssign_self _ _ _, ?_⟩,
      fun key hkey => PropertyMap.find_insertOrAssign_of_ne _ _ hkey⟩
    rw [List.map_map, List.forall₂_map_right_iff, List.forall₂_same]
    intro value _
    exact injectBlock_rebound (fun binding hb => (carried_of_card hids hcard hb).1) value
  · cases h

def stereoItems : List Value :=
  [.map (namedSink (ascii "l") (ascii "left")), .map (namedSink (ascii "r") (ascii "right"))]

theorem injectStreamBindings_injection_left :
    Injection [stereoBinding (ascii "l") (ascii "left") 40001] stereoItems [(ascii "blocks", .tensor stereoItems)]
      [(ascii "blocks", .tensor [.map (withEndpoint (namedSink (ascii "l") (ascii "left"))
          (ascii "http://127.0.0.1:40001/snapshot")), .map (namedSink (ascii "r") (ascii "right"))])] :=
  injectStreamBindings_injection (by decide) (by decide) rfl
    (show injectStreamBindings [(ascii "blocks", .tensor stereoItems)] _ = .ok (_, true) by rfl)

end Gr4ControlPlane
