import Gr4ControlPlane.Domain.Bytes

namespace Gr4ControlPlane

/-- `gr::pmt::Value`: the kinds the control plane tells apart; the others it only passes on. -/
inductive Value : Type
  | null
  | boolean (b : Bool)
  | integer (n : Int)
  | real (bits : UInt64)
  | string (s : Bytes)
  | tensor (items : List Value)
  | map (entries : List (Bytes × Value))
  | other (repr : Bytes)

/-- `gr::property_map`, one entry per key. -/
abbrev PropertyMap := List (Bytes × Value)

namespace PropertyMap

def find (m : PropertyMap) (key : Bytes) : Option Value := m.lookup key

def contains (m : PropertyMap) (key : Bytes) : Bool := (m.find key).isSome

/-- `m[key] = value` and `m.insert_or_assign(key, value)`. -/
def insertOrAssign : PropertyMap → Bytes → Value → PropertyMap
  | [], key, value => [(key, value)]
  | (k, v) :: m, key, value =>
    if key = k then (k, value) :: m else (k, v) :: insertOrAssign m key value

theorem find_cons_self (m : PropertyMap) (key : Bytes) (value : Value) :
    find ((key, value) :: m) key = some value := by
  simp [find]

theorem find_cons_of_ne (m : PropertyMap) {key k : Bytes} (value : Value) (h : k ≠ key) :
    find ((key, value) :: m) k = m.find k := by
  simp [find, List.lookup_cons, beq_eq_false_iff_ne.mpr h]

theorem find_insertOrAssign_self (m : PropertyMap) (key : Bytes) (value : Value) :
    (m.insertOrAssign key value).find key = some value := by
  induction m with
  | nil => exact find_cons_self [] key value
  | cons e m ih =>
    obtain ⟨k, v⟩ := e
    unfold insertOrAssign
    split
    · next h =>
      subst h
      exact find_cons_self m key value
    · next h => exact (find_cons_of_ne _ v h).trans ih

theorem find_insertOrAssign_of_ne (m : PropertyMap) {key k : Bytes} (value : Value) (h : k ≠ key) :
    (m.insertOrAssign key value).find k = m.find k := by
  induction m with
  | nil => exact find_cons_of_ne [] value h
  | cons e m ih =>
    obtain ⟨k', v⟩ := e
    unfold insertOrAssign
    split
    · next heq =>
      subst heq
      exact (find_cons_of_ne m value h).trans (find_cons_of_ne m v h).symm
    · by_cases hk : k = k'
      · subst hk
        exact (find_cons_self _ k v).trans (find_cons_self m k v).symm
      · exact (find_cons_of_ne _ v hk).trans (ih.trans (find_cons_of_ne m v hk).symm)

end PropertyMap

def Value.valueToString : Value → Option Bytes
  | .string s => some s
  | _ => none

def Value.getMap : Value → Option PropertyMap
  | .map m => some m
  | _ => none

def Value.getTensor : Value → Option (List Value)
  | .tensor items => some items
  | _ => none

def Value.atPath : Value → List Bytes → Option Value
  | value, [] => some value
  | .map entries, key :: path => (PropertyMap.find entries key).bind (·.atPath path)
  | _, _ :: _ => none

/-- The GNU Radio side of the graph text, of which only the interface is used. -/
structure YamlPmt where
  deserialize : Bytes → Option PropertyMap
  serialize : PropertyMap → Bytes
  same : Value → Value → Bool

def YamlPmt.ofDocument (content : Bytes) (root : PropertyMap) : YamlPmt where
  deserialize text := if text = content then some root else none
  serialize _ := content
  same _ _ := true

end Gr4ControlPlane
