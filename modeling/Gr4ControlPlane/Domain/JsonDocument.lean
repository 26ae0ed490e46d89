import Gr4ControlPlane.Domain.Json

namespace Gr4ControlPlane

namespace Json

variable {v u : Json} {members : List (Bytes × Json)} {key : Bytes} {item : Json}

@[elab_as_elim]
theorem inductionOn {motive : Json → Prop} (v : Json) (null : motive .null) (boolean : ∀ b, motive (.boolean b))
    (integer : ∀ n, motive (.integer n)) (real : ∀ bits, motive (.real bits)) (string : ∀ s, motive (.string s))
    (array : ∀ items, (∀ item ∈ items, motive item) → motive (.array items))
    (object : ∀ members : List (Bytes × Json), (∀ e ∈ members, motive e.2) → motive (.object members)) : motive v := by
  refine Json.rec (motive_1 := motive) (motive_2 := fun items => ∀ item ∈ items, motive item)
    (motive_3 := fun members => ∀ e ∈ members, motive e.2) (motive_4 := fun e => motive e.2)
    null boolean integer real string array object ?_ ?_ ?_ ?_ ?_ v
  · exact nofun
  · exact fun item items hitem hitems => List.forall_mem_cons.mpr ⟨hitem, hitems⟩
  · exact nofun
  · exact fun e members he hmembers => List.forall_mem_cons.mpr ⟨he, hmembers⟩
  · exact fun _ _ hitem => hitem

inductive Within : Json → Json → Prop
  | self (v : Json) : Within v v
  | member {v item : Json} {key : Bytes} {members : List (Bytes × Json)} (hmem : (key, item) ∈ members)
      (h : Within v item) : Within v (.object members)
  | item {v item : Json} {items : List Json} (hmem : item ∈ items) (h : Within v item) : Within v (.array items)

/-- Every object has its members in the order of their keys, as a `std::map` has. -/
def Ordered (v : Json) : Prop := ∀ members, Within (.object members) v → members.Pairwise fun e e' => e.1 < e'.1

theorem Ordered.pairwise (h : Ordered (.object members)) : members.Pairwise fun e e' => e.1 < e'.1 :=
  h members (.self _)

theorem Ordered.member (h : Ordered (.object members)) (hmem : (key, item) ∈ members) : Ordered item :=
  fun inner hinner => h inner (.member hmem hinner)

theorem Ordered.keys (h : Ordered (.object members)) : (members.map Prod.fst).Nodup := by
  rw [List.Nodup, List.pairwise_map]
  apply h.pairwise.imp
  intro e e' hlt heq
  rw [heq] at hlt
  exact List.lt_irrefl _ hlt

def atPath : Json → List Bytes → Option Json
  | v, [] => some v
  | .object members, key :: path => (members.lookup key).bind (·.atPath path)
  | _, _ :: _ => none

theorem lookup_of_mem {α : Type} {entries : List (Bytes × α)} {value : α} (h : (entries.map Prod.fst).Nodup)
    (hmem : (key, value) ∈ entries) : entries.lookup key = some value := by
  induction entries with
  | nil => cases hmem
  | cons e entries ih =>
    obtain ⟨k, value'⟩ := e
    rw [List.map_cons, List.nodup_cons] at h
    rcases List.mem_cons.mp hmem with heq | htail
    · cases heq
      exact List.lookup_cons_self
    · have hne : key ≠ k := by
        rintro rfl
        exact h.1 (List.mem_map.mpr ⟨_, htail, rfl⟩)
      rw [List.lookup_cons, beq_eq_false_iff_ne.mpr hne]
      exact ih h.2 htail

theorem mem_of_lookup {α : Type} {entries : List (Bytes × α)} {value : α} (h : entries.lookup key = some value) :
    (key, value) ∈ entries := by
  induction entries with
  | nil => cases h
  | cons e entries ih =>
    obtain ⟨k, value'⟩ := e
    rw [List.lookup_cons] at h
    split at h
    · next heq =>
      cases h
      rw [eq_of_beq heq]
      exact List.mem_cons_self
    · exact List.mem_cons_of_mem _ (ih h)

end Json

/-- A value as `nlohmann::json` holds it. -/
structure JsonDocument where
  value : Json
  ordered : value.Ordered

end Gr4ControlPlane
