import Gr4ControlPlane.Catalog.ElementType
import Gr4ControlPlane.Domain.BlockCatalog
import Mathlib.Algebra.Group.Nat.Defs

namespace Gr4ControlPlane

def hasPortCountBounds (parameterName : Bytes) : Bool :=
  parameterName == ascii "n_inputs" || parameterName == ascii "n_outputs" || parameterName == ascii "n_ports"

def portCountLowerBound (parameterName : Bytes) : Option Int32 :=
  if hasPortCountBounds parameterName then some 1 else none

def portCountUpperBound (parameterName : Bytes) : Option Int32 :=
  if hasPortCountBounds parameterName then some 32 else none

def addPatterns (aliasName : Bytes) : List Bytes :=
  [ascii "n_" ++ aliasName, ascii "num_" ++ aliasName, aliasName, aliasName ++ ascii "_count",
    ascii "count_" ++ aliasName]

def singular (base : Bytes) : Bytes :=
  if 3 < base.length ∧ ascii "ies" <:+ base then base.take (base.length - 3) ++ ascii "y"
  else if 1 < base.length ∧ ascii "s" <:+ base then base.take (base.length - 1)
  else base

def plural (base : Bytes) : Bytes :=
  if ascii "s" <:+ base then base
  else if ascii "y" <:+ base ∧ 1 < base.length then base.take (base.length - 1) ++ ascii "ies"
  else base ++ ascii "s"

def sizeParameterCandidates (collectionName : Bytes) (isInput : Bool) : List Bytes :=
  let base := collectionName
  addPatterns base ++
    (if singular base ≠ base then addPatterns (singular base) else []) ++
    (if plural base ≠ base ∧ plural base ≠ singular base then addPatterns (plural base) else []) ++
    addPatterns (if isInput then ascii "in" else ascii "out") ++
    addPatterns (if isInput then ascii "input" else ascii "output") ++
    addPatterns (if isInput then ascii "inputs" else ascii "outputs")

def findParameter (parameters : List BlockParameterDescriptor) (name : Bytes) : Option BlockParameterDescriptor :=
  parameters.find? fun parameter => parameter.name = name

def inferCollectionSizeParameter (collectionName : Bytes) (isInput : Bool)
    (parameters : List BlockParameterDescriptor) : Option Bytes :=
  (sizeParameterCandidates collectionName isInput).eraseDups.find? fun candidate =>
    (findParameter parameters candidate).isSome

def parameterDefaultInt (parameter : BlockParameterDescriptor) : Option Int32 :=
  match parameter.defaultValue with
  | .integer n => some n
  | _ => none

def sizeParameterDefault (collectionName : Bytes) (isInput : Bool) (parameters : List BlockParameterDescriptor) :
    Option Int32 :=
  ((inferCollectionSizeParameter collectionName isInput parameters).bind (findParameter parameters)).bind
    parameterDefaultInt

/-- `if (min_port_count.has_value() && count < *min_port_count) count = *min_port_count;` -/
def raiseTo (minPortCount : Option Int32) (count : Int32) : Int32 :=
  match minPortCount with
  | some least => if count < least then least else count
  | none => count

def lowerTo (maxPortCount : Option Int32) (count : Int32) : Int32 :=
  match maxPortCount with
  | some most => if 0 ≤ most ∧ most < count then most else count
  | none => count

def inferCollectionRenderPortCount (collectionName : Bytes) (isInput : Bool)
    (parameters : List BlockParameterDescriptor) (currentCount : Nat) (minPortCount maxPortCount : Option Int32) :
    Option Int32 :=
  match sizeParameterDefault collectionName isInput parameters with
  | some count => some (lowerTo maxPortCount (raiseTo minPortCount count))
  | none =>
    if 0 < currentCount then some (Int32.ofNat currentCount)
    else minPortCount.filter (0 < ·)

structure CollectionMetadata where
  cardinalityKind : BlockPortCardinalityKind
  currentPortCount : Option Int32
  renderPortCount : Option Int32
  minPortCount : Option Int32
  maxPortCount : Option Int32
  sizeParameter : Option Bytes
  handleNameTemplate : Option Bytes
  elementType : Option Bytes

def inferCollectionMetadata (collectionName blockId : Bytes) (isInput : Bool)
    (parameters : List BlockParameterDescriptor) (currentCount : Nat) : CollectionMetadata :=
  let sizeParameter := inferCollectionSizeParameter collectionName isInput parameters
  let minPortCount := (sizeParameter.bind portCountLowerBound).getD (if currentCount = 0 then 0 else 1)
  let maxPortCount := (sizeParameter.bind portCountUpperBound).getD (-1)
  { cardinalityKind := .dynamic
    currentPortCount := some (Int32.ofNat currentCount)
    renderPortCount := inferCollectionRenderPortCount collectionName isInput parameters currentCount
      (some minPortCount) (some maxPortCount)
    minPortCount := some minPortCount
    maxPortCount := some maxPortCount
    sizeParameter := sizeParameter
    handleNameTemplate := some (collectionName ++ ascii "#$\x7bindex\x7d")
    elementType := inferCollectionElementType blockId }

/-- The counts agree; a maximum of -1 is none. -/
structure CollectionMetadata.Consistent (metadata : CollectionMetadata) : Prop where
  bounds : ∀ least most, metadata.minPortCount = some least → metadata.maxPortCount = some most → most ≠ -1 →
    least ≤ most
  atLeast : ∀ least count, metadata.minPortCount = some least → metadata.renderPortCount = some count → least ≤ count
  atMost : ∀ most count, metadata.maxPortCount = some most → metadata.renderPortCount = some count → most ≠ -1 →
    count ≤ most

def CountWithinBounds (collectionName : Bytes) (isInput : Bool) (parameters : List BlockParameterDescriptor)
    (currentCount : Nat) : Prop :=
  (inferCollectionSizeParameter collectionName isInput parameters).any hasPortCountBounds = true →
    sizeParameterDefault collectionName isInput parameters = none → currentCount ≤ 32

variable {collectionName blockId : Bytes} {isInput : Bool} {parameters : List BlockParameterDescriptor}
  {currentCount : Nat} {least most count : Int32}

theorem le_raiseTo (least count : Int32) : least ≤ raiseTo (some least) count := by
  unfold raiseTo
  dsimp only
  split
  · exact Int32.le_refl least
  · next h => exact Int32.not_lt.mp h

theorem le_lowerTo (hbounds : most ≠ -1 → least ≤ most) (h : least ≤ count) : least ≤ lowerTo (some most) count := by
  unfold lowerTo
  dsimp only
  split
  · next hcut =>
    apply hbounds
    rintro rfl
    exact absurd hcut.1 (by decide)
  · exact h

theorem lowerTo_le (h : 0 ≤ most) (count : Int32) : lowerTo (some most) count ≤ most := by
  unfold lowerTo
  dsimp only
  split
  · exact Int32.le_refl most
  · next hcut => exact Int32.not_lt.mp fun hlt => hcut ⟨h, hlt⟩

theorem ofNat_le_iff {n m : Nat} (hn : n < 2 ^ 31) (hm : m < 2 ^ 31) : Int32.ofNat n ≤ Int32.ofNat m ↔ n ≤ m := by
  rw [Int32.le_iff_toInt_le, Int32.toInt_ofNat_of_lt hn, Int32.toInt_ofNat_of_lt hm, Int.ofNat_le]

theorem consistent_iff {metadata : CollectionMetadata} (hleast : metadata.minPortCount = some least)
    (hmost : metadata.maxPortCount = some most) :
    metadata.Consistent ↔ (most ≠ -1 → least ≤ most) ∧ ∀ count, metadata.renderPortCount = some count →
      least ≤ count ∧ (most ≠ -1 → count ≤ most) := by
  constructor
  · intro h
    exact ⟨h.bounds _ _ hleast hmost, fun count hcount => ⟨h.atLeast _ _ hleast hcount, h.atMost _ _ hmost hcount⟩⟩
  · rintro ⟨hbounds, hrender⟩
    constructor
    · intro least' most' hleast' hmost'
      obtain rfl : least = least' := by simpa [hleast] using hleast'
      obtain rfl : most = most' := by simpa [hmost] using hmost'
      exact hbounds
    · intro least' count hleast' hcount
      obtain rfl : least = least' := by simpa [hleast] using hleast'
      exact (hrender count hcount).1
    · intro most' count hmost' hcount
      obtain rfl : most = most' := by simpa [hmost] using hmost'
      exact (hrender count hcount).2

theorem getD_lowerBound (size : Option Bytes) (otherwise : Int32) :
    (size.bind portCountLowerBound).getD otherwise = if size.any hasPortCountBounds = true then 1 else otherwise := by
  cases size with
  | none => rfl
  | some name =>
    rw [Option.bind_some, Option.any_some, portCountLowerBound]
    split <;> rfl

theorem getD_upperBound (size : Option Bytes) :
    (size.bind portCountUpperBound).getD (-1) = if size.any hasPortCountBounds = true then 32 else -1 := by
  cases size with
  | none => rfl
  | some name =>
    rw [Option.bind_some, Option.any_some, portCountUpperBound]
    split <;> rfl

theorem renderPortCount_of_default (h : sizeParameterDefault collectionName isInput parameters = some count)
    (minPortCount maxPortCount : Option Int32) :
    inferCollectionRenderPortCount collectionName isInput parameters currentCount minPortCount maxPortCount =
      some (lowerTo maxPortCount (raiseTo minPortCount count)) := by
  rw [inferCollectionRenderPortCount, h]

theorem renderPortCount_of_ports (h : sizeParameterDefault collectionName isInput parameters = none)
    (hpos : 0 < currentCount) (minPortCount maxPortCount : Option Int32) :
    inferCollectionRenderPortCount collectionName isInput parameters currentCount minPortCount maxPortCount =
      some (Int32.ofNat currentCount) := by
  rw [inferCollectionRenderPortCount, h]
  exact if_pos hpos

theorem renderPortCount_of_empty (h : sizeParameterDefault collectionName isInput parameters = none)
    (least : Int32) (maxPortCount : Option Int32) :
    inferCollectionRenderPortCount collectionName isInput parameters 0 (some least) maxPortCount =
      if 0 < least then some least else none := by
  rw [inferCollectionRenderPortCount, h]
  simp [Option.filter]

theorem least_le_renderPortCount (hbounds : most ≠ -1 → least ≤ most)
    (hports : 0 < currentCount → least ≤ Int32.ofNat currentCount)
    (hrender : inferCollectionRenderPortCount collectionName isInput parameters currentCount (some least) (some most) =
      some count) : least ≤ count := by
  cases hdefault : sizeParameterDefault collectionName isInput parameters with
  | some default =>
    rw [renderPortCount_of_default hdefault, Option.some.injEq] at hrender
    exact hrender ▸ le_lowerTo hbounds (le_raiseTo least default)
  | none =>
    rcases Nat.eq_zero_or_pos currentCount with rfl | hpos
    · rw [renderPortCount_of_empty hdefault, Option.ite_none_right_eq_some, Option.some.injEq] at hrender
      exact hrender.2 ▸ Int32.le_refl least
    · rw [renderPortCount_of_ports hdefault hpos, Option.some.injEq] at hrender
      exact hrender ▸ hports hpos

theorem renderPortCount_le (hmost : 0 ≤ most) (hbounds : least ≤ most)
    (hports : sizeParameterDefault collectionName isInput parameters = none → Int32.ofNat currentCount ≤ most)
    (hrender : inferCollectionRenderPortCount collectionName isInput parameters currentCount (some least) (some most) =
      some count) : count ≤ most := by
  cases hdefault : sizeParameterDefault collectionName isInput parameters with
  | some default =>
    rw [renderPortCount_of_default hdefault, Option.some.injEq] at hrender
    exact hrender ▸ lowerTo_le hmost _
  | none =>
    rcases Nat.eq_zero_or_pos currentCount with rfl | hpos
    · rw [renderPortCount_of_empty hdefault, Option.ite_none_right_eq_some, Option.some.injEq] at hrender
      exact hrender.2 ▸ hbounds
    · rw [renderPortCount_of_ports hdefault hpos, Option.some.injEq] at hrender
      exact hrender ▸ hports hdefault

/-- The counts of a collection agree exactly if one that is not from a default is within the bounds. -/
theorem collection_counts_consistent (hcount : currentCount < 2 ^ 31) :
    (inferCollectionMetadata collectionName blockId isInput parameters currentCount).Consistent ↔
      CountWithinBounds collectionName isInput parameters currentCount := by
  rw [consistent_iff rfl rfl, getD_lowerBound, getD_upperBound, CountWithinBounds]
  dsimp only [inferCollectionMetadata]
  rw [getD_lowerBound, getD_upperBound]
  have hone : 0 < currentCount → 1 ≤ Int32.ofNat currentCount := (ofNat_le_iff (by decide) hcount).mpr
  have hmost : Int32.ofNat currentCount ≤ 32 ↔ currentCount ≤ 32 := ofNat_le_iff hcount (by decide)
  cases (inferCollectionSizeParameter collectionName isInput parameters).any hasPortCountBounds with
  | true =>
    simp only [if_true, true_implies]
    constructor
    · rintro ⟨-, hrender⟩ hdefault
      rcases Nat.eq_zero_or_pos currentCount with rfl | hpos
      · exact Nat.zero_le 32
      · exact hmost.mp ((hrender _ (renderPortCount_of_ports hdefault hpos _ _)).2 (by decide))
    · intro hwithin
      refine ⟨fun _ => by decide, fun count hrender => ⟨least_le_renderPortCount (fun _ => by decide) hone hrender, ?_⟩⟩
      exact fun _ => renderPortCount_le (by decide) (by decide) (fun hdefault => hmost.mpr (hwithin hdefault)) hrender
  | false =>
    simp only [Bool.false_eq_true, if_false, false_implies, iff_true]
    have hleast : 0 < currentCount → (if currentCount = 0 then (0 : Int32) else 1) ≤ Int32.ofNat currentCount := by
      intro hpos
      rw [if_neg (Nat.ne_of_gt hpos)]
      exact hone hpos
    refine ⟨fun h => absurd rfl h, fun count hrender => ⟨?_, fun h => absurd rfl h⟩⟩
    exact least_le_renderPortCount (fun h => absurd rfl h) hleast hrender

def nInputs (defaultValue : BlockParameterDefault) : BlockParameterDescriptor :=
  { (default : BlockParameterDescriptor) with name := ascii "n_inputs", defaultValue := defaultValue }

theorem collection_counts_consistent_default :
    100 < 2 ^ 31 ∧
      (inferCollectionMetadata (ascii "inputs") (ascii "gr::math::Add") true [nInputs (.integer 64)] 100).Consistent := by
  have hcount : 100 < 2 ^ 31 := by decide
  refine ⟨hcount, (collection_counts_consistent hcount).mpr fun _ hdefault => ?_⟩
  exact absurd hdefault (by decide)

theorem collection_count_beyond_maximum :
    let metadata := inferCollectionMetadata (ascii "inputs") (ascii "gr::math::Add") true [nInputs .nullptr] 33
    metadata.maxPortCount = some 32 ∧ metadata.renderPortCount = some 33 ∧ ¬ metadata.Consistent := by
  refine ⟨by decide, by decide, fun h => ?_⟩
  exact absurd (h.atMost 32 33 (by decide) (by decide) (by decide)) (by decide)

end Gr4ControlPlane
