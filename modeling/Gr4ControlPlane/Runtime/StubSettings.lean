import Gr4ControlPlane.App.SettingsConversion
import Gr4ControlPlane.Runtime.StubRuntimeManager

namespace Gr4ControlPlane

open Json BlockSettingsService

namespace StubState

def insertPatch (settings patch : PropertyMap) : PropertyMap :=
  patch.foldl (fun settings entry => settings.insertOrAssign entry.1 entry.2) settings

variable (σ : StubState)

def getBlockSettings (session : Session) (blockUniqueName : Bytes) : PropertyMap :=
  match σ.settings.lookup session.id with
  | none => []
  | some blocks => (blocks.lookup blockUniqueName).getD []

def setBlockSettings (session : Session) (blockUniqueName : Bytes) (patch : PropertyMap) : StubState :=
  let blocks := (σ.settings.lookup session.id).getD ∅
  let settings := (blocks.lookup blockUniqueName).getD []
  { σ with settings := σ.settings.insert session.id (blocks.insert blockUniqueName (insertPatch settings patch)) }

def blockSettings : BlockSettingsRuntime where
  setBlockSettings _ _ _ _ := .ok ()
  getBlockSettings session block := .ok (σ.getBlockSettings session block)

end StubState

/-- The members that have been patched in, by session, block and key. -/
abbrev SettingsStore := Bytes → Bytes → Bytes → Option Json

namespace SettingsStore

def update (store : SettingsStore) (sessionId block : Bytes) (patch : Json) : SettingsStore := fun sessionId' block' key =>
  if sessionId' = sessionId ∧ block' = block then (patch.member key).or (store sessionId' block' key)
  else store sessionId' block' key

def erase (store : SettingsStore) (sessionId : Bytes) : SettingsStore := fun sessionId' block key =>
  if sessionId' = sessionId then none else store sessionId' block key

end SettingsStore

structure Keeps (settings : PropertyMap) (members : Bytes → Option Json) : Prop where
  keys : (settings.map Prod.fst).Nodup
  entry : ∀ key, match members key with
    | none => settings.find key = none
    | some v => Ordered v ∧ ∃ w, settings.find key = some w ∧ BlockSettingsService.Encodes v w

namespace Keeps

variable {settings patch : PropertyMap} {members : Bytes → Option Json} {key : Bytes} {value : Value} {document : Json}

theorem find_of_not_mem (h : key ∉ settings.map Prod.fst) : settings.find key = none :=
  List.lookup_eq_none_iff.mpr fun entry hentry => by
    rw [bne_iff_ne]
    rintro rfl
    exact h (List.mem_map_of_mem hentry)

theorem find_insertPatch (h : (patch.map Prod.fst).Nodup) (key : Bytes) :
    (StubState.insertPatch settings patch).find key = (patch.find key).or (settings.find key) := by
  induction patch generalizing settings with
  | nil => rfl
  | cons entry patch ih =>
    obtain ⟨k, value⟩ := entry
    rw [List.map_cons, List.nodup_cons] at h
    have hrest : (StubState.insertPatch settings ((k, value) :: patch)).find key =
        (StubState.insertPatch (settings.insertOrAssign k value) patch).find key := rfl
    rw [hrest, ih h.2]
    by_cases hkey : key = k
    · subst hkey
      rw [find_of_not_mem h.1, Option.none_or, PropertyMap.find_insertOrAssign_self, PropertyMap.find_cons_self]
      rfl
    · rw [PropertyMap.find_insertOrAssign_of_ne _ _ hkey, PropertyMap.find_cons_of_ne _ _ hkey]

theorem keys_insertOrAssign {k : Bytes} (h : k ∈ (settings.insertOrAssign key value).map Prod.fst) :
    k = key ∨ k ∈ settings.map Prod.fst := by
  induction settings with
  | nil => exact .inl (List.mem_singleton.mp h)
  | cons entry settings ih =>
    obtain ⟨k', v⟩ := entry
    unfold PropertyMap.insertOrAssign at h
    split at h
    · exact .inr h
    · rcases List.mem_cons.mp h with heq | h
      · exact .inr (List.mem_cons.mpr (.inl heq))
      · exact (ih h).imp_right (List.mem_cons_of_mem _)

theorem nodup_insertOrAssign (h : (settings.map Prod.fst).Nodup) :
    ((settings.insertOrAssign key value).map Prod.fst).Nodup := by
  induction settings with
  | nil => exact List.nodup_singleton _
  | cons entry settings ih =>
    obtain ⟨k, v⟩ := entry
    rw [List.map_cons, List.nodup_cons] at h
    unfold PropertyMap.insertOrAssign
    split
    · exact List.nodup_cons.mpr h
    · next hne =>
      refine List.nodup_cons.mpr ⟨fun hmem => ?_, ih h.2⟩
      exact (keys_insertOrAssign hmem).elim (fun heq => hne heq.symm) h.1

theorem nodup_insertPatch (h : (settings.map Prod.fst).Nodup) :
    ((StubState.insertPatch settings patch).map Prod.fst).Nodup := by
  induction patch generalizing settings with
  | nil => exact h
  | cons entry patch ih => exact ih (nodup_insertOrAssign h)

theorem empty : Keeps [] fun _ => none := ⟨.nil, fun _ => rfl⟩

theorem insertPatch {members' : Bytes → Option Json} (h : Keeps settings members) (hp : Keeps patch members') :
    Keeps (StubState.insertPatch settings patch) fun key => (members' key).or (members key) := by
  refine ⟨nodup_insertPatch h.keys, fun key => ?_⟩
  rw [find_insertPatch hp.keys]
  have hpatch := hp.entry key
  have hsettings := h.entry key
  cases hmembers' : members' key with
  | none =>
    rw [hmembers'] at hpatch
    rw [hpatch, Option.none_or, Option.none_or]
    exact hsettings
  | some v =>
    rw [hmembers'] at hpatch
    obtain ⟨hordered, w, hfind, hencodes⟩ := hpatch
    exact ⟨hordered, w, by rw [hfind]; rfl, hencodes⟩

theorem of_jsonToPropertyMap (hordered : Ordered document) (hfits : ∀ n, Within (.integer n) document → FitsInt64 n)
    (h : jsonToPropertyMap document = .ok patch) : Keeps patch fun key => document.member key := by
  have hencodes := encodes_of_jsonToPropertyMap hordered hfits h
  cases hencodes with
  | @object ms _ f hitems hentries =>
    have hkeys : (patch.map Prod.fst).Nodup := by
      rw [(hentries.map Prod.fst).nodup_iff, List.map_map]
      exact hordered.keys
    refine ⟨hkeys, fun key => ?_⟩
    cases hmember : Json.member key (.object ms) with
    | none =>
      refine find_of_not_mem fun hmem => ?_
      rw [(hentries.map Prod.fst).mem_iff, List.map_map] at hmem
      obtain ⟨⟨k, v⟩, he, rfl⟩ := List.mem_map.mp hmem
      have hlookup : ms.lookup k = none := hmember
      rw [lookup_of_mem hordered.keys he] at hlookup
      cases hlookup
    | some v =>
      have hmem : (key, v) ∈ ms := mem_of_lookup hmember
      have hentry : (key, f key) ∈ patch := hentries.mem_iff.mpr (List.mem_map.mpr ⟨(key, v), hmem, rfl⟩)
      exact ⟨hordered.member hmem, f key, lookup_of_mem hkeys hentry, hitems _ hmem⟩

theorem propertyMapToJson (h : Keeps settings members) : ∃ ms, propertyMapToJson settings = .ok (.object ms) ∧
    Sorted ms ∧ ∀ key, ms.lookup key = members key := by
  have hitems : ∀ e ∈ settings, pmtValueToJson e.2 = .ok ((members e.1).getD .null) := by
    rintro ⟨key, value⟩ he
    have hfind : settings.find key = some value := lookup_of_mem h.keys he
    have hentry := h.entry key
    cases hmember : members key with
    | none =>
      rw [hmember, hfind] at hentry
      cases hentry
    | some v =>
      rw [hmember] at hentry
      obtain ⟨hordered, w, hw, hencodes⟩ := hentry
      cases hfind.symm.trans hw
      exact pmtValueToJson_of_encodes hordered hencodes
  obtain ⟨ms, hms, hsorted, hperm⟩ :=
    @assignEntries_ok settings (fun key => (members key).getD .null) [] h.keys (fun _ _ => List.not_mem_nil) .nil hitems
  refine ⟨ms, by rw [BlockSettingsService.propertyMapToJson, hms]; rfl, hsorted, fun key => ?_⟩
  have hkeys : (ms.map Prod.fst).Nodup := by
    rw [(hperm.map Prod.fst).nodup_iff, List.nil_append, List.map_map]
    exact h.keys
  have hentry := h.entry key
  cases hmember : members key with
  | none =>
    rw [hmember] at hentry
    refine List.lookup_eq_none_iff.mpr fun e he => ?_
    obtain ⟨⟨k, value⟩, hmem, rfl⟩ := List.mem_map.mp (hperm.mem_iff.mp he)
    rw [bne_iff_ne]
    rintro rfl
    have hfind : settings.find key = some value := lookup_of_mem h.keys hmem
    exact absurd hfind (by rw [hentry]; nofun)
  | some v =>
    rw [hmember] at hentry
    obtain ⟨-, w, hw, -⟩ := hentry
    refine lookup_of_mem hkeys (hperm.mem_iff.mpr (List.mem_map.mpr ⟨(key, w), mem_of_lookup hw, ?_⟩))
    rw [hmember]
    rfl

end Keeps

namespace StubState

def Represents (σ : StubState) (store : SettingsStore) : Prop :=
  ∀ (session : Session) block, Keeps (σ.getBlockSettings session block) (store session.id block)

variable {σ : StubState} {store : SettingsStore} {session session' : Session} {block block' : Bytes} {patch : PropertyMap}

theorem getBlockSettings_set_self : (σ.setBlockSettings session block patch).getBlockSettings session block =
    insertPatch (σ.getBlockSettings session block) patch := by
  unfold getBlockSettings setBlockSettings
  dsimp only
  rw [Finmap.lookup_insert]
  dsimp only
  rw [Finmap.lookup_insert]
  cases σ.settings.lookup session.id <;> rfl

theorem getBlockSettings_set_of_ne (h : ¬ (session'.id = session.id ∧ block' = block)) :
    (σ.setBlockSettings session block patch).getBlockSettings session' block' = σ.getBlockSettings session' block' := by
  unfold getBlockSettings setBlockSettings
  dsimp only
  by_cases hid : session'.id = session.id
  · have hblock : block' ≠ block := fun heq => h ⟨hid, heq⟩
    rw [hid, Finmap.lookup_insert]
    dsimp only
    rw [Finmap.lookup_insert_of_ne _ hblock]
    cases σ.settings.lookup session.id <;> rfl
  · rw [Finmap.lookup_insert_of_ne _ hid]

theorem represents_init : init.Represents fun _ _ _ => none := fun _ _ => .empty

theorem Represents.set {document : Json} (h : σ.Represents store) (hordered : Ordered document)
    (hfits : ∀ n, Within (.integer n) document → FitsInt64 n) (hpatch : jsonToPropertyMap document = .ok patch) :
    (σ.setBlockSettings session block patch).Represents (store.update session.id block document) := by
  intro session' block'
  by_cases hsame : session'.id = session.id ∧ block' = block
  · obtain ⟨hid, rfl⟩ := hsame
    have hself : (σ.setBlockSettings session block' patch).getBlockSettings session' block' =
        insertPatch (σ.getBlockSettings session block') patch := by
      rw [← getBlockSettings_set_self]
      unfold getBlockSettings
      rw [hid]
    have hmembers : store.update session.id block' document session'.id block' =
        fun key => (document.member key).or (store session.id block' key) := by
      funext key
      rw [hid]
      exact if_pos ⟨rfl, rfl⟩
    rw [hself, hmembers]
    exact (h session block').insertPatch (.of_jsonToPropertyMap hordered hfits hpatch)
  · rw [getBlockSettings_set_of_ne hsame]
    have hmembers : store.update session.id block document session'.id block' = store session'.id block' := by
      funext key
      exact if_neg hsame
    rw [hmembers]
    exact h session' block'

theorem Represents.erase (h : σ.Represents store) (id : Bytes) :
    ({ σ with settings := σ.settings.erase id } : StubState).Represents (store.erase id) := by
  intro session block
  by_cases hid : session.id = id
  · subst hid
    have hnone : ({ σ with settings := σ.settings.erase session.id } : StubState).getBlockSettings session block = [] := by
      unfold getBlockSettings
      dsimp only
      rw [Finmap.lookup_erase]
    have hmembers : store.erase session.id session.id block = fun _ => none := by
      funext key
      exact if_pos rfl
    rw [hnone, hmembers]
    exact .empty
  · have hother : ({ σ with settings := σ.settings.erase id } : StubState).getBlockSettings session block =
        σ.getBlockSettings session block := by
      unfold getBlockSettings
      dsimp only
      rw [Finmap.lookup_erase_ne hid]
    have hmembers : store.erase id session.id block = store session.id block := by
      funext key
      exact if_neg hid
    rw [hother, hmembers]
    exact h session block

end StubState

end Gr4ControlPlane
