import Gr4ControlPlane.App.BlockSettingsService
import Gr4ControlPlane.Domain.JsonDocument
import Mathlib.Logic.Function.Basic

namespace Gr4ControlPlane

namespace BlockSettingsService

open Json

variable {v item : Json} {w : Value} {members : List (Bytes × Json)} {entries : PropertyMap}
  {result settings : PropertyMap} {key : Bytes} {err : AppError} {n : Int}

abbrev FitsInt64 (n : Int) : Prop := -2 ^ 63 ≤ n ∧ n < 2 ^ 63

theorem toInt64_eq_iff : toInt64 n = n ↔ FitsInt64 n := by
  unfold toInt64 FitsInt64
  omega

theorem insertMembers_cons (result : PropertyMap) (key : Bytes) (item : Json) (members : List (Bytes × Json)) :
    insertMembers result ((key, item) :: members) =
      jsonToPmtValue item >>= fun value => insertMembers (result.insertOrAssign key value) members := rfl

theorem jsonToPmtValue_object (members : List (Bytes × Json)) :
    jsonToPmtValue (.object members) = insertMembers [] members >>= fun settings => .ok (.map settings) := rfl

theorem insertMembers_error (h : insertMembers result members = .error err) :
    ∃ e ∈ members, jsonToPmtValue e.2 = .error err := by
  induction members generalizing result with
  | nil => cases h
  | cons e members ih =>
    obtain ⟨key, item⟩ := e
    rw [insertMembers_cons] at h
    rcases bind_eq_error h with h | ⟨value, -, h⟩
    · exact ⟨(key, item), List.mem_cons_self, h⟩
    · obtain ⟨e, he, herr⟩ := ih h
      exact ⟨e, List.mem_cons_of_mem _ he, herr⟩

theorem insertMembers_ok_iff :
    (∃ settings, insertMembers result members = .ok settings) ↔ ∀ e ∈ members, ∃ value, jsonToPmtValue e.2 = .ok value := by
  induction members generalizing result with
  | nil => exact iff_of_true ⟨result, rfl⟩ nofun
  | cons e members ih =>
    obtain ⟨key, item⟩ := e
    rw [List.forall_mem_cons, insertMembers_cons]
    cases hitem : jsonToPmtValue item with
    | error err =>
      refine iff_of_false ?_ ?_
      · rintro ⟨settings, ⟨⟩⟩
      · rintro ⟨⟨value, ⟨⟩⟩, -⟩
    | ok value =>
      rw [and_iff_right ⟨value, rfl⟩]
      exact ih

theorem jsonToPmtValue_object_ok : (∃ value, jsonToPmtValue (.object members) = .ok value) ↔
    ∃ settings, insertMembers [] members = .ok settings := by
  rw [jsonToPmtValue_object]
  cases insertMembers [] members with
  | error err => simp [bind, Except.bind]
  | ok settings => simp [bind, Except.bind]

theorem jsonToPmtValue_ok_iff : (∃ value, jsonToPmtValue v = .ok value) ↔ ∀ items, ¬ Within (.array items) v := by
  induction v using Json.inductionOn with
  | array items _ =>
    refine iff_of_false ?_ fun h => h items (.self _)
    rintro ⟨value, ⟨⟩⟩
  | object members ih =>
    rw [jsonToPmtValue_object_ok, insertMembers_ok_iff]
    constructor
    · intro h items hwithin
      cases hwithin with
      | @member item key _ hmem hwithin => exact (ih _ hmem).mp (h _ hmem) items hwithin
    · intro h e he
      exact (ih e he).mpr fun items hwithin => h items (.member he hwithin)
  | _ => exact iff_of_true ⟨_, rfl⟩ fun items h => by cases h

theorem jsonToPmtValue_error (h : jsonToPmtValue v = .error err) : ∃ what, err = .validation what := by
  induction v using Json.inductionOn with
  | array items _ =>
    cases h
    exact ⟨_, rfl⟩
  | object members ih =>
    rw [jsonToPmtValue_object] at h
    rcases bind_eq_error h with h | ⟨settings, -, h⟩
    · obtain ⟨e, he, herr⟩ := insertMembers_error h
      exact ih e he herr
    · cases h
  | _ => cases h

theorem jsonToPropertyMap_error (h : jsonToPropertyMap v = .error err) : ∃ what, err = .validation what := by
  cases v with
  | object members =>
    obtain ⟨e, -, herr⟩ := insertMembers_error h
    exact jsonToPmtValue_error herr
  | _ =>
    cases h
    exact ⟨_, rfl⟩

theorem jsonToPropertyMap_ok_iff : (∃ settings, jsonToPropertyMap v = .ok settings) ↔
    (∃ members, v = .object members) ∧ ∀ items, ¬ Within (.array items) v := by
  cases v with
  | object members =>
    rw [and_iff_right ⟨members, rfl⟩, ← jsonToPmtValue_ok_iff, jsonToPmtValue_object_ok]
    rfl
  | _ =>
    refine iff_of_false ?_ ?_
    · rintro ⟨settings, ⟨⟩⟩
    · rintro ⟨⟨members, ⟨⟩⟩, -⟩

/-- The setting a JSON value stands for; a map may have its entries in any order. -/
inductive Encodes : Json → Value → Prop
  | null : Encodes .null .null
  | boolean (b : Bool) : Encodes (.boolean b) (.boolean b)
  | integer (n : Int) : Encodes (.integer n) (.integer n)
  | real (bits : UInt64) : Encodes (.real bits) (.real bits)
  | string (s : Bytes) : Encodes (.string s) (.string s)
  | object {members : List (Bytes × Json)} {entries : List (Bytes × Value)} (f : Bytes → Value)
      (hitems : ∀ e ∈ members, Encodes e.2 (f e.1)) (hentries : entries.Perm (members.map fun e => (e.1, f e.1))) :
      Encodes (.object members) (.map entries)

theorem insertOrAssign_new {value : Value} (h : key ∉ result.map Prod.fst) :
    result.insertOrAssign key value = result ++ [(key, value)] := by
  induction result with
  | nil => rfl
  | cons e result ih =>
    obtain ⟨k, v⟩ := e
    rw [List.map_cons, List.mem_cons, not_or] at h
    rw [PropertyMap.insertOrAssign, if_neg h.1, ih h.2]
    rfl

theorem insertMembers_ok (hkeys : (members.map Prod.fst).Nodup)
    (hnew : ∀ e ∈ members, e.1 ∉ result.map Prod.fst) (h : insertMembers result members = .ok settings) :
    ∃ f : Bytes → Value, (∀ e ∈ members, jsonToPmtValue e.2 = .ok (f e.1)) ∧
      settings = result ++ members.map fun e => (e.1, f e.1) := by
  induction members generalizing result with
  | nil =>
    cases h
    exact ⟨fun _ => .null, nofun, (List.append_nil _).symm⟩
  | cons e members ih =>
    obtain ⟨key, item⟩ := e
    rw [List.map_cons, List.nodup_cons] at hkeys
    obtain ⟨value, hvalue, h⟩ := bind_eq_ok h
    have hother : ∀ e ∈ members, e.1 ≠ key := by
      rintro e he rfl
      exact hkeys.1 (List.mem_map.mpr ⟨e, he, rfl⟩)
    rw [insertOrAssign_new (hnew _ List.mem_cons_self)] at h
    have hnew' : ∀ e ∈ members, e.1 ∉ (result ++ [(key, value)]).map Prod.fst := by
      intro e he
      simp only [List.map_append, List.map_cons, List.map_nil, List.mem_append, List.mem_singleton, not_or]
      exact ⟨hnew e (List.mem_cons_of_mem _ he), hother e he⟩
    obtain ⟨f, hf, rfl⟩ := ih hkeys.2 hnew' h
    refine ⟨Function.update f key value, List.forall_mem_cons.mpr ⟨?_, fun e he => ?_⟩, ?_⟩
    · rw [Function.update_self, hvalue]
    · rw [Function.update_of_ne (hother e he), hf e he]
    · have hsame : members.map (fun e => (e.1, Function.update f key value e.1)) =
          members.map fun e => (e.1, f e.1) := by
        apply List.map_congr_left
        intro e he
        rw [Function.update_of_ne (hother e he)]
      rw [List.map_cons, hsame, Function.update_self, List.append_assoc]
      rfl

theorem encodes_of_ok (hordered : Ordered v) (hfits : ∀ n, Within (.integer n) v → FitsInt64 n)
    (h : jsonToPmtValue v = .ok w) : Encodes v w := by
  induction v using Json.inductionOn generalizing w with
  | null => cases h; exact .null
  | boolean b => cases h; exact .boolean b
  | integer n =>
    cases h
    rw [toInt64_eq_iff.mpr (hfits n (.self _))]
    exact .integer n
  | real bits => cases h; exact .real bits
  | string s => cases h; exact .string s
  | array items _ => cases h
  | object members ih =>
    rw [jsonToPmtValue_object] at h
    obtain ⟨settings, hsettings, h⟩ := bind_eq_ok h
    cases h
    obtain ⟨f, hf, rfl⟩ := insertMembers_ok hordered.keys (fun _ _ => List.not_mem_nil) hsettings
    exact .object f (fun e he => ih e he (hordered.member he) (fun n hn => hfits n (.member he hn)) (hf e he)) (.refl _)

abbrev Sorted (members : List (Bytes × Json)) : Prop := members.Pairwise fun e e' => e.1 < e'.1

theorem assignMember_perm (h : key ∉ members.map Prod.fst) :
    (assignMember members key item).Perm ((key, item) :: members) := by
  induction members with
  | nil => exact .refl _
  | cons e members ih =>
    obtain ⟨k, v⟩ := e
    rw [List.map_cons, List.mem_cons, not_or] at h
    rw [assignMember, if_neg h.1]
    split
    · exact .refl _
    · exact ((ih h.2).cons _).trans (.swap _ _ _)

theorem assignMember_sorted (h : key ∉ members.map Prod.fst) (hsorted : Sorted members) :
    Sorted (assignMember members key item) := by
  induction members with
  | nil => exact List.pairwise_singleton _ _
  | cons e members ih =>
    obtain ⟨k, v⟩ := e
    rw [List.map_cons, List.mem_cons, not_or] at h
    obtain ⟨hfirst, hrest⟩ := List.pairwise_cons.mp hsorted
    rw [assignMember, if_neg h.1]
    split
    · next hlt =>
      refine List.pairwise_cons.mpr ⟨List.forall_mem_cons.mpr ⟨hlt, fun e he => ?_⟩, hsorted⟩
      exact List.lt_trans hlt (hfirst e he)
    · next hge =>
      refine List.pairwise_cons.mpr ⟨fun e he => ?_, ih h.2 hrest⟩
      rcases List.mem_cons.mp ((assignMember_perm h.2).mem_iff.mp he) with rfl | he
      · exact Std.lt_of_le_of_ne hge (Ne.symm h.1)
      · exact hfirst e he

theorem assignEntries_ok {g : Bytes → Json} {old : List (Bytes × Json)} (hkeys : (entries.map Prod.fst).Nodup)
    (hnew : ∀ e ∈ entries, e.1 ∉ old.map Prod.fst) (hsorted : Sorted old)
    (hitems : ∀ e ∈ entries, pmtValueToJson e.2 = .ok (g e.1)) :
    ∃ members, assignEntries old entries = .ok members ∧ Sorted members ∧
      members.Perm (old ++ entries.map fun e => (e.1, g e.1)) := by
  induction entries generalizing old with
  | nil => exact ⟨old, rfl, hsorted, by rw [List.map_nil, List.append_nil]⟩
  | cons e entries ih =>
    obtain ⟨key, value⟩ := e
    rw [List.map_cons, List.nodup_cons] at hkeys
    have hfresh : key ∉ old.map Prod.fst := hnew _ List.mem_cons_self
    have hperm : (assignMember old key (g key)).Perm ((key, g key) :: old) := assignMember_perm hfresh
    have hnew' : ∀ e ∈ entries, e.1 ∉ (assignMember old key (g key)).map Prod.fst := by
      intro e he
      rw [(hperm.map Prod.fst).mem_iff, List.map_cons, List.mem_cons, not_or]
      refine ⟨?_, hnew e (List.mem_cons_of_mem _ he)⟩
      rintro rfl
      exact hkeys.1 (List.mem_map.mpr ⟨e, he, rfl⟩)
    obtain ⟨members, hmembers, hordered, hall⟩ := ih hkeys.2 hnew' (assignMember_sorted hfresh hsorted)
      fun e he => hitems e (List.mem_cons_of_mem _ he)
    refine ⟨members, ?_, hordered, ?_⟩
    · rw [assignEntries, hitems _ List.mem_cons_self]
      exact hmembers
    · rw [List.map_cons]
      exact (hall.trans (hperm.append_right _)).trans List.perm_middle.symm

theorem Sorted.eq_of_perm {members' : List (Bytes × Json)} (h : Sorted members) (h' : Sorted members')
    (hperm : members.Perm members') : members = members' := by
  apply List.Perm.eq_of_pairwise _ h h' hperm
  intro e e' _ _ hlt hgt
  exact absurd (List.lt_trans hlt hgt) (List.lt_irrefl _)

theorem pmtValueToJson_map (entries : PropertyMap) :
    pmtValueToJson (.map entries) = assignEntries [] entries >>= fun members => .ok (.object members) := rfl

theorem pmtValueToJson_of_encodes (hordered : Ordered v) (h : Encodes v w) : pmtValueToJson w = .ok v := by
  induction h with
  | null | boolean | integer | real | string => rfl
  | @object members entries f _ hentries ih =>
    have hkeys : (entries.map Prod.fst).Nodup := by
      rw [(hentries.map Prod.fst).nodup_iff, List.map_map]
      exact hordered.keys
    have hitems : ∀ e ∈ entries, pmtValueToJson e.2 = .ok ((members.lookup e.1).getD .null) := by
      intro e he
      obtain ⟨⟨key, item⟩, hmem, rfl⟩ := List.mem_map.mp (hentries.mem_iff.mp he)
      rw [lookup_of_mem hordered.keys hmem]
      exact ih _ hmem (hordered.member hmem)
    obtain ⟨members', hmembers', hsorted, hperm⟩ := assignEntries_ok (g := fun key => (members.lookup key).getD .null)
      hkeys (fun _ _ => List.not_mem_nil) .nil hitems
    have hall : members'.Perm members := by
      have hentries' := hentries.map fun e => (e.1, (members.lookup e.1).getD .null)
      have hsame : (members.map fun e => (e.1, (members.lookup e.1).getD .null)) = members := by
        refine (List.map_congr_left fun e he => ?_).trans (List.map_id members)
        rw [lookup_of_mem hordered.keys he]
        rfl
      rw [List.map_map] at hentries'
      exact hperm.trans (hentries'.trans (.of_eq hsame))
    rw [pmtValueToJson_map, hmembers', hsorted.eq_of_perm hordered.pairwise hall]
    rfl

def Passes (patch : Json) (settings : PropertyMap) : Prop :=
  ∀ (repository : InMemorySessionRepository) (runtime : BlockSettingsRuntime) sessionId session block mode,
    loadRunningSessionOrThrow repository sessionId = .ok session →
      update repository runtime sessionId block patch mode =
        ((runtime.setBlockSettings session block settings mode).mapError translate).map fun _ =>
          { sessionId := session.id, block := block, appliedVia := mode.toString, accepted := true }

def Rejected (patch : Json) : Prop :=
  ∃ what, ∀ (repository : InMemorySessionRepository) (runtime : BlockSettingsRuntime) sessionId session block mode,
    loadRunningSessionOrThrow repository sessionId = .ok session →
      update repository runtime sessionId block patch mode = .error (.app (.validation what))

theorem passes_of_ok (h : jsonToPropertyMap v = .ok settings) : Passes v settings := by
  intro repository runtime sessionId session block mode hload
  unfold update
  rw [hload, h]
  dsimp only [Except.mapError, bind, Except.bind]
  cases runtime.setBlockSettings session block settings mode <;> rfl

theorem rejected_of_error (h : jsonToPropertyMap v = .error err) : Rejected v := by
  obtain ⟨what, rfl⟩ := jsonToPropertyMap_error h
  refine ⟨what, fun repository runtime sessionId session block mode hload => ?_⟩
  unfold update
  rw [hload, h]
  rfl

def tunedSession : Session where
  id := ascii "sess_1"
  name := []
  grcContent := []
  schedulerAlias := none
  state := .running
  lastError := none
  createdAt := 1
  updatedAt := 2

def agreeableRuntime : BlockSettingsRuntime where
  setBlockSettings _ _ _ _ := .ok ()
  getBlockSettings _ _ := .ok []

theorem Passes.not_rejected (h : Passes v settings) : ¬ Rejected v := by
  rintro ⟨what, hrejected⟩
  have hload : loadRunningSessionOrThrow (InMemorySessionRepository.empty.put tunedSession) tunedSession.id =
      .ok tunedSession := loadRunningSessionOrThrow_eq_ok.mpr ⟨InMemorySessionRepository.get_put, rfl⟩
  have hpasses := h _ agreeableRuntime _ _ [] .staged hload
  rw [hrejected _ agreeableRuntime _ _ [] .staged hload] at hpasses
  cases hpasses

theorem encodes_of_jsonToPropertyMap (hordered : Ordered v) (hfits : ∀ n, Within (.integer n) v → FitsInt64 n)
    (h : jsonToPropertyMap v = .ok settings) : Encodes v (.map settings) := by
  obtain ⟨⟨members, rfl⟩, -⟩ := jsonToPropertyMap_ok_iff.mp ⟨settings, h⟩
  have hmembers : insertMembers [] members = .ok settings := h
  apply encodes_of_ok hordered hfits
  rw [jsonToPmtValue_object, hmembers]
  rfl

/-- Settings are converted exactly from objects without arrays, and lossless; any other patch is
refused before the runtime is asked. -/
theorem settings_conversion (document : JsonDocument) (hfits : ∀ n, Within (.integer n) document.value → FitsInt64 n) :
    ((∃ settings, jsonToPropertyMap document.value = .ok settings) ↔
        (∃ members, document.value = .object members) ∧ ∀ items, ¬ Within (.array items) document.value) ∧
      (∀ settings, jsonToPropertyMap document.value = .ok settings → propertyMapToJson settings = .ok document.value) ∧
      ((∀ settings, jsonToPropertyMap document.value ≠ .ok settings) → Rejected document.value) := by
  obtain ⟨v, hordered⟩ := document
  refine ⟨jsonToPropertyMap_ok_iff, fun settings h => ?_, fun hnone => ?_⟩
  · exact pmtValueToJson_of_encodes hordered (encodes_of_jsonToPropertyMap hordered hfits h)
  · cases h : jsonToPropertyMap v with
    | error err => exact rejected_of_error h
    | ok settings => exact absurd h (hnone settings)

def gainPatch (gain : Int) : JsonDocument where
  value := .object [(ascii "gain", .integer gain), (ascii "window", .object [(ascii "size", .integer 8)])]
  ordered := by
    intro members h
    cases h with
    | self => exact List.pairwise_pair.mpr (show ascii "gain" < ascii "window" by decide)
    | member hmem h =>
      simp only [List.mem_cons, List.not_mem_nil, or_false, Prod.mk.injEq] at hmem
      rcases hmem with ⟨-, rfl⟩ | ⟨-, rfl⟩
      · cases h
      · cases h with
        | self => exact List.pairwise_singleton _ _
        | member hmem h =>
          obtain ⟨-, rfl⟩ := Prod.mk.inj (List.mem_singleton.mp hmem)
          cases h

theorem within_gainPatch {gain n : Int} (h : Within (.integer n) (gainPatch gain).value) : n = gain ∨ n = 8 := by
  cases h with
  | member hmem h =>
    simp only [List.mem_cons, List.not_mem_nil, or_false, Prod.mk.injEq] at hmem
    rcases hmem with ⟨-, rfl⟩ | ⟨-, rfl⟩
    · cases h
      exact .inl rfl
    · cases h with
      | member hmem h =>
        obtain ⟨-, rfl⟩ := Prod.mk.inj (List.mem_singleton.mp hmem)
        cases h
        exact .inr rfl

theorem settings_conversion_gain :
    propertyMapToJson [(ascii "gain", .integer 3), (ascii "window", .map [(ascii "size", .integer 8)])] =
      .ok (gainPatch 3).value := by
  have hfits : ∀ n, Within (.integer n) (gainPatch 3).value → FitsInt64 n := by
    intro n hn
    rcases within_gainPatch hn with rfl | rfl <;> exact ⟨by decide, by decide⟩
  exact (settings_conversion (gainPatch 3) hfits).2.1 _ rfl

theorem Encodes.atPath {u : Json} {path : List Bytes} (hordered : Ordered v) (h : Encodes v w)
    (hpath : v.atPath path = some u) : ∃ w', w.atPath path = some w' ∧ Encodes u w' := by
  induction path generalizing v w with
  | nil =>
    rw [Json.atPath] at hpath
    cases hpath
    exact ⟨w, by rw [Value.atPath], h⟩
  | cons key path ih =>
    cases h with
    | @object members entries f hitems hentries =>
      rw [Json.atPath] at hpath
      obtain ⟨item, hlookup, hpath⟩ := Option.bind_eq_some_iff.mp hpath
      have hmem := mem_of_lookup hlookup
      have hkeys : (entries.map Prod.fst).Nodup := by
        rw [(hentries.map Prod.fst).nodup_iff, List.map_map]
        exact hordered.keys
      have hfind : PropertyMap.find entries key = some (f key) :=
        lookup_of_mem hkeys (hentries.mem_iff.mpr (List.mem_map.mpr ⟨_, hmem, rfl⟩))
      rw [Value.atPath, hfind]
      exact ih (hordered.member hmem) (hitems _ hmem) hpath
    | _ =>
      rw [Json.atPath] at hpath
      · cases hpath
      · intro members h
        cases h

structure IntegersKept (patch : Json) : Prop where
  passed : (∀ n, Within (.integer n) patch → FitsInt64 n) → (∀ items, ¬ Within (.array items) patch) →
    ∃ settings, Passes patch settings ∧ ∀ path n, patch.atPath path = some (.integer n) →
      (Value.map settings).atPath path = some (.integer n)
  rejected : (∃ n, Within (.integer n) patch ∧ ¬ FitsInt64 n) → Rejected patch

theorem integersKept_of_fits (patch : JsonDocument) (hobject : ∃ members, patch.value = .object members)
    (hfits : ∀ n, Within (.integer n) patch.value → FitsInt64 n) : IntegersKept patch.value := by
  refine ⟨fun _ hflat => ?_, fun ⟨n, hn, hunfit⟩ => absurd (hfits n hn) hunfit⟩
  obtain ⟨settings, hsettings⟩ := jsonToPropertyMap_ok_iff.mpr ⟨hobject, hflat⟩
  refine ⟨settings, passes_of_ok hsettings, fun path n hpath => ?_⟩
  obtain ⟨w, hw, hencodes⟩ := (encodes_of_jsonToPropertyMap patch.ordered hfits hsettings).atPath patch.ordered hpath
  cases hencodes
  exact hw

/-- A patch keeps its integers if they are all in range, and if there is an array to refuse it for. -/
theorem integersKept_iff (patch : JsonDocument) (hobject : ∃ members, patch.value = .object members) :
    IntegersKept patch.value ↔
      (∀ n, Within (.integer n) patch.value → FitsInt64 n) ∨ ∃ items, Within (.array items) patch.value := by
  constructor
  · intro hkept
    by_cases harray : ∃ items, Within (.array items) patch.value
    · exact .inr harray
    · left
      intro n hn
      by_contra hunfit
      obtain ⟨settings, hsettings⟩ := jsonToPropertyMap_ok_iff.mpr ⟨hobject, fun items h => harray ⟨items, h⟩⟩
      exact (passes_of_ok hsettings).not_rejected (hkept.rejected ⟨n, hn, hunfit⟩)
  · rintro (hfits | ⟨items, hitems⟩)
    · exact integersKept_of_fits patch hobject hfits
    · refine ⟨fun _ hflat => absurd hitems (hflat items), fun _ => ?_⟩
      cases h : jsonToPropertyMap patch.value with
      | error err => exact rejected_of_error h
      | ok settings => exact absurd hitems ((jsonToPropertyMap_ok_iff.mp ⟨settings, h⟩).2 items)

theorem integersKept_iff_gain : IntegersKept (gainPatch 3).value := by
  refine (integersKept_iff (gainPatch 3) ⟨_, rfl⟩).mpr (.inl fun n hn => ?_)
  rcases within_gainPatch hn with rfl | rfl <;> exact ⟨by decide, by decide⟩

theorem integer_altered :
    ¬ ∀ patch : JsonDocument, (∃ members, patch.value = .object members) → IntegersKept patch.value := by
  intro kept
  have hpasses : Passes (gainPatch (2 ^ 64 - 1)).value
      [(ascii "gain", .integer (-1)), (ascii "window", .map [(ascii "size", .integer 8)])] := passes_of_ok rfl
  apply hpasses.not_rejected
  apply (kept (gainPatch (2 ^ 64 - 1)) ⟨_, rfl⟩).rejected
  exact ⟨2 ^ 64 - 1, .member (List.mem_cons_self) (.self _), by decide⟩

end BlockSettingsService

end Gr4ControlPlane
