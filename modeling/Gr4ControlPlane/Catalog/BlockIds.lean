import Gr4ControlPlane.Domain.Pmt
import Gr4ControlPlane.Text.Search

open Gr4ControlPlane.Text

namespace Gr4ControlPlane

/-- `std::toupper` in the C locale. -/
def toUpper (byte : UInt8) : UInt8 := if 97 ≤ byte && byte ≤ 122 then byte - 32 else byte

def toLower (byte : UInt8) : UInt8 := if 65 ≤ byte && byte ≤ 90 then byte + 32 else byte

def titleCase (capitalize : Bool) : Bytes → Bytes
  | [] => []
  | ch :: value =>
    if ch == 95 || ch == 45 || ch == 46 then 32 :: titleCase true value
    else
      let ch := if capitalize then toUpper ch else toLower ch
      ch :: titleCase (isSpace ch) value

def toTitleCase (value : Bytes) : Bytes := titleCase true value

def isSeparator (byte : UInt8) : Bool := byte == 46 || byte == 47 || byte == 58

def deriveNameFromId (id : Bytes) : Bytes :=
  match findLast isSeparator id with
  | none => toTitleCase id
  | some separator => toTitleCase (id.drop (separator + 1))

def isTemplateMark (byte : UInt8) : Bool := byte == 60 || byte == 62 || byte == 40 || byte == 41 || byte == 44

def isSaneExplicitCategory (value : Bytes) : Bool := !value.isEmpty && !value.any isTemplateMark

def scopeTokens (token : Bytes) : Bytes → List Bytes
  | ch :: next :: rest =>
    if ch == 58 && next == 58 then token :: scopeTokens [] rest else scopeTokens (token ++ [ch]) (next :: rest)
  | rest => [token ++ rest]

def appendSegment (category segment : Bytes) : Bytes :=
  (if category.isEmpty then [] else category ++ ascii "/") ++ segment

def uncategorized : Bytes := ascii "Uncategorized"

def withoutGr (segments : List Bytes) : List Bytes :=
  if segments.head? = some (ascii "gr") then segments.tail else segments

def categorySegments (id : Bytes) : List Bytes := withoutGr ((scopeTokens [] id).filter (!·.isEmpty))

def joinSegments (segments : List Bytes) : Bytes :=
  if segments.length < 2 then uncategorized
  else
    let category := segments.dropLast.foldl appendSegment []
    if category.isEmpty then uncategorized else category

def deriveCategoryFromBlockId (id : Bytes) : Bytes := joinSegments (categorySegments id)

def deriveCategoryFromMetadata (info : PropertyMap) (fallbackId : Bytes) : Bytes :=
  let category := ((info.find (ascii "Drawable")).bind Value.getMap).bind fun drawable =>
    (drawable.find (ascii "Category")).bind Value.valueToString
  match category with
  | some value => if isSaneExplicitCategory value then value else deriveCategoryFromBlockId fallbackId
  | none => deriveCategoryFromBlockId fallbackId

example : deriveCategoryFromBlockId (ascii "gr::incubator::analog::QuadratureDemod") = ascii "incubator/analog" := by
  decide +kernel

/-- `p1::...::pn::last` -/
def scopedName (scopes : List Bytes) (last : Bytes) : Bytes := (scopes.flatMap (· ++ ascii "::")) ++ last

def templateName (base args : Bytes) : Bytes := base ++ 60 :: (args ++ [62])

structure IsIdPart (part : Bytes) : Prop where
  nonempty : part ≠ []
  marks : ∀ byte ∈ part, isTemplateMark byte = false
  separators : ∀ byte ∈ part, isSeparator byte = false

variable {scopes : List Bytes} {base args last token text category : Bytes}

theorem titleCase_length (capitalize : Bool) (value : Bytes) : (titleCase capitalize value).length = value.length := by
  induction value generalizing capitalize with
  | nil => rfl
  | cons ch value ih =>
    unfold titleCase
    split <;> simp [ih]

theorem deriveNameFromId_of_none (h : ∀ byte ∈ text, isSeparator byte = false) :
    deriveNameFromId text = toTitleCase text := by
  rw [deriveNameFromId, findLast_eq_none.mpr h]

theorem deriveNameFromId_of_last {before after : Bytes} {byte : UInt8} (hbyte : isSeparator byte = true)
    (hafter : ∀ byte ∈ after, isSeparator byte = false) :
    deriveNameFromId (before ++ byte :: after) = toTitleCase after := by
  rw [deriveNameFromId, findLast_append_cons hbyte hafter]
  simp

theorem scopeTokens_cons {ch : UInt8} (h : 58 ≠ ch) (token text : Bytes) :
    scopeTokens token (ch :: text) = scopeTokens (token ++ [ch]) text := by
  match text with
  | [] => simp [scopeTokens]
  | next :: rest => rw [scopeTokens, if_neg (by simp [Ne.symm h])]

theorem scopeTokens_plain (h : 58 ∉ text) (token : Bytes) : scopeTokens token text = [token ++ text] := by
  induction text generalizing token with
  | nil => rfl
  | cons ch text ih =>
    rw [List.mem_cons, not_or] at h
    rw [scopeTokens_cons h.1, ih h.2, List.append_assoc, List.singleton_append]

theorem scopeTokens_scope (h : 58 ∉ text) (token rest : Bytes) :
    scopeTokens token (text ++ (ascii "::" ++ rest)) = (token ++ text) :: scopeTokens [] rest := by
  induction text generalizing token with
  | nil =>
    rw [List.append_nil]
    rfl
  | cons ch text ih =>
    rw [List.mem_cons, not_or] at h
    rw [List.cons_append, scopeTokens_cons h.1, ih h.2, List.append_assoc, List.singleton_append]

theorem IsIdPart.no_colon (h : IsIdPart base) : 58 ∉ base :=
  fun hmem => absurd (h.separators 58 hmem) (by decide)

theorem scopeTokens_scopedName (hscopes : ∀ scope ∈ scopes, IsIdPart scope) (hlast : 58 ∉ last) :
    scopeTokens [] (scopedName scopes last) = scopes ++ [last] := by
  induction scopes with
  | nil => exact scopeTokens_plain hlast []
  | cons scope scopes ih =>
    rw [List.forall_mem_cons] at hscopes
    have hsplit : scopedName (scope :: scopes) last = scope ++ (ascii "::" ++ scopedName scopes last) := by
      simp [scopedName]
    rw [hsplit, scopeTokens_scope hscopes.1.no_colon, ih hscopes.2, List.nil_append, List.cons_append]

theorem appendSegment_ne_nil {segment : Bytes} (h : segment ≠ []) : appendSegment category segment ≠ [] := by
  simp [appendSegment, h]

theorem foldl_appendSegment_ne_nil (hscopes : ∀ scope ∈ scopes, IsIdPart scope) (h : category ≠ [] ∨ scopes ≠ []) :
    scopes.foldl appendSegment category ≠ [] := by
  induction scopes generalizing category with
  | nil => exact h.resolve_right (by simp)
  | cons scope scopes ih =>
    rw [List.forall_mem_cons] at hscopes
    exact ih hscopes.2 (.inl (appendSegment_ne_nil hscopes.1.nonempty))

def scopesCategory (scopes : List Bytes) : Bytes :=
  if scopes.isEmpty then uncategorized else scopes.foldl appendSegment []

theorem joinSegments_concat (hscopes : ∀ scope ∈ scopes, IsIdPart scope) :
    joinSegments (scopes ++ [last]) = scopesCategory scopes := by
  cases scopes with
  | nil => rfl
  | cons scope scopes =>
    have hne : (scope :: scopes).foldl appendSegment [] ≠ [] :=
      foldl_appendSegment_ne_nil hscopes (.inr (List.cons_ne_nil _ _))
    have hlong : ¬ (scope :: scopes ++ [last]).length < 2 := by simp
    unfold joinSegments
    rw [if_neg hlong, List.dropLast_concat, if_neg (by simpa using hne)]
    rfl

theorem deriveCategoryFromBlockId_scopedName (hscopes : ∀ scope ∈ scopes, IsIdPart scope) (hne : last ≠ [])
    (hlast : 58 ∉ last) :
    deriveCategoryFromBlockId (scopedName scopes last) = scopesCategory (withoutGr scopes) := by
  have hfilter : (scopes ++ [last]).filter (!·.isEmpty) = scopes ++ [last] := by
    rw [List.filter_eq_self]
    intro part hpart
    rcases List.mem_append.mp hpart with hscope | hlast
    · simpa using (hscopes part hscope).nonempty
    · simpa [List.mem_singleton.mp hlast] using hne
  unfold deriveCategoryFromBlockId categorySegments
  rw [scopeTokens_scopedName hscopes hlast, hfilter]
  unfold withoutGr
  cases scopes with
  | nil =>
    by_cases hgr : last = ascii "gr"
    · simp only [hgr]
      rfl
    · simp only [List.nil_append, List.head?_cons, Option.some.injEq, hgr, if_false]
      rfl
  | cons scope scopes =>
    rw [List.cons_append, List.head?_cons, List.head?_cons]
    split
    · exact joinSegments_concat fun scope hscope => hscopes scope (List.mem_cons_of_mem _ hscope)
    · exact joinSegments_concat hscopes

theorem appendSegment_marks {segment : Bytes} (hcategory : ∀ byte ∈ category, isTemplateMark byte = false)
    (hsegment : ∀ byte ∈ segment, isTemplateMark byte = false) :
    ∀ byte ∈ appendSegment category segment, isTemplateMark byte = false := by
  unfold appendSegment
  split
  · simpa using hsegment
  · have hslash : ∀ byte ∈ ascii "/", isTemplateMark byte = false := by decide +kernel
    intro byte hbyte
    simp only [List.mem_append] at hbyte
    rcases hbyte with (hbyte | hbyte) | hbyte
    · exact hcategory byte hbyte
    · exact hslash byte hbyte
    · exact hsegment byte hbyte

theorem foldl_appendSegment_marks (hscopes : ∀ scope ∈ scopes, IsIdPart scope)
    (hcategory : ∀ byte ∈ category, isTemplateMark byte = false) :
    ∀ byte ∈ scopes.foldl appendSegment category, isTemplateMark byte = false := by
  induction scopes generalizing category with
  | nil => exact hcategory
  | cons scope scopes ih =>
    rw [List.forall_mem_cons] at hscopes
    exact ih hscopes.2 (appendSegment_marks hcategory hscopes.1.marks)

theorem isSane_scopesCategory (hscopes : ∀ scope ∈ scopes, IsIdPart scope) :
    isSaneExplicitCategory (scopesCategory scopes) = true := by
  unfold scopesCategory
  split
  · decide +kernel
  · next hne =>
    have hnil : scopes.foldl appendSegment [] ≠ [] := foldl_appendSegment_ne_nil hscopes (.inr (by simpa using hne))
    have hmarks : ∀ byte ∈ scopes.foldl appendSegment [], isTemplateMark byte = false :=
      foldl_appendSegment_marks hscopes nofun
    simp only [isSaneExplicitCategory, Bool.and_eq_true, Bool.not_eq_true', List.any_eq_false, List.isEmpty_eq_false_iff]
    exact ⟨hnil, fun byte hbyte => by simp [hmarks byte hbyte]⟩

theorem withoutGr_subset {segments : List Bytes} {segment : Bytes} (h : segment ∈ withoutGr segments) :
    segment ∈ segments := by
  unfold withoutGr at h
  split at h
  · exact List.mem_of_mem_tail h
  · exact h

theorem deriveNameFromId_scopedName (hlast : ∀ byte ∈ last, isSeparator byte = false) :
    deriveNameFromId (scopedName scopes last) = toTitleCase last := by
  rcases List.eq_nil_or_concat scopes with rfl | ⟨scopes, scope, rfl⟩
  · exact deriveNameFromId_of_none hlast
  · have hsplit : scopedName (scopes ++ [scope]) last = (scopes.flatMap (· ++ ascii "::") ++ scope ++ [58]) ++ 58 :: last := by
      simp [scopedName, show ascii "::" = [58, 58] by rfl]
    rw [List.concat_eq_append, hsplit, deriveNameFromId_of_last (by decide) hlast]

theorem deriveNameFromId_cut (h : ∃ byte ∈ args, isSeparator byte = true) :
    deriveNameFromId (scopedName scopes (templateName base args)) ≠ toTitleCase (templateName base args) := by
  obtain ⟨before, byte, after, rfl, hbyte, hafter⟩ := exists_last h
  have hsplit : scopedName scopes (templateName base (before ++ byte :: after)) =
      (scopedName scopes base ++ 60 :: before) ++ byte :: (after ++ [62]) := by
    simp [scopedName, templateName]
  have hclose : ∀ byte ∈ after ++ [62], isSeparator byte = false := by
    intro byte hmem
    rcases List.mem_append.mp hmem with hmem | hmem
    · exact hafter byte hmem
    · rw [List.mem_singleton.mp hmem]
      decide
  rw [hsplit, deriveNameFromId_of_last hbyte hclose]
  intro heq
  have hlength := congrArg List.length heq
  simp only [toTitleCase, titleCase_length, templateName, List.length_append, List.length_cons] at hlength
  omega

/-- Template arguments stay out of the category and whole in the name exactly if they have no `.`, `/` or `:`. -/
theorem template_arguments_contained (hscopes : ∀ scope ∈ scopes, IsIdPart scope) (hbase : IsIdPart base) :
    (deriveCategoryFromBlockId (scopedName scopes (templateName base args)) =
          deriveCategoryFromBlockId (scopedName scopes base) ∧
        isSaneExplicitCategory (deriveCategoryFromBlockId (scopedName scopes (templateName base args))) = true ∧
        deriveNameFromId (scopedName scopes (templateName base args)) = toTitleCase (templateName base args)) ↔
      46 ∉ args ∧ 47 ∉ args ∧ 58 ∉ args := by
  have hfree : (46 ∉ args ∧ 47 ∉ args ∧ 58 ∉ args) ↔ ∀ byte ∈ args, isSeparator byte = false := by
    simp only [isSeparator, Bool.or_eq_false_iff, beq_eq_false_iff_ne]
    exact ⟨fun ⟨hdot, hslash, hcolon⟩ byte hmem => ⟨⟨fun he => hdot (he ▸ hmem), fun he => hslash (he ▸ hmem)⟩,
        fun he => hcolon (he ▸ hmem)⟩,
      fun h => ⟨fun hm => (h _ hm).1.1 rfl, fun hm => (h _ hm).1.2 rfl, fun hm => (h _ hm).2 rfl⟩⟩
  rw [hfree]
  constructor
  · rintro ⟨-, -, hname⟩
    by_contra hnot
    exact deriveNameFromId_cut (by simpa using hnot) hname
  · intro hargs
    have hlast : ∀ byte ∈ templateName base args, isSeparator byte = false := by
      intro byte hmem
      simp only [templateName, List.mem_append, List.mem_cons, List.not_mem_nil, or_false] at hmem
      rcases hmem with hmem | rfl | hmem | rfl
      · exact hbase.separators byte hmem
      · decide
      · exact hargs byte hmem
      · decide
    have hcolon : 58 ∉ templateName base args := fun hmem => absurd (hlast 58 hmem) (by decide)
    have hne : templateName base args ≠ [] := by simp [templateName]
    rw [deriveCategoryFromBlockId_scopedName hscopes hne hcolon,
      deriveCategoryFromBlockId_scopedName hscopes hbase.nonempty hbase.no_colon]
    exact ⟨rfl, isSane_scopesCategory fun scope hscope => hscopes scope (withoutGr_subset hscope),
      deriveNameFromId_scopedName hlast⟩

theorem isSane_deriveCategoryFromMetadata {info : PropertyMap} {id : Bytes}
    (h : isSaneExplicitCategory (deriveCategoryFromBlockId id) = true) :
    isSaneExplicitCategory (deriveCategoryFromMetadata info id) = true := by
  unfold deriveCategoryFromMetadata
  dsimp only
  split
  · split
    · next hsane => exact hsane
    · exact h
  · exact h

def addScopes : List Bytes := [ascii "gr", ascii "math"]

theorem isIdPart_addScopes : ∀ scope ∈ addScopes, IsIdPart scope := by
  simp only [addScopes, List.forall_mem_cons]
  exact ⟨⟨by decide, by decide +kernel, by decide +kernel⟩, ⟨by decide, by decide +kernel, by decide +kernel⟩, nofun⟩

theorem isIdPart_add : IsIdPart (ascii "Add") := ⟨by decide, by decide +kernel, by decide +kernel⟩

theorem template_arguments_contained_add :
    deriveCategoryFromBlockId (ascii "gr::math::Add<float32>") = deriveCategoryFromBlockId (ascii "gr::math::Add") ∧
      isSaneExplicitCategory (deriveCategoryFromBlockId (ascii "gr::math::Add<float32>")) = true ∧
      deriveNameFromId (ascii "gr::math::Add<float32>") = toTitleCase (ascii "Add<float32>") := by
  have htemplate : ascii "Add<float32>" = templateName (ascii "Add") (ascii "float32") := by decide
  have hid : ascii "gr::math::Add<float32>" = scopedName addScopes (ascii "Add<float32>") := by decide
  have hadd : ascii "gr::math::Add" = scopedName addScopes (ascii "Add") := by decide
  have hfree : 46 ∉ ascii "float32" ∧ 47 ∉ ascii "float32" ∧ 58 ∉ ascii "float32" := by decide
  rw [hid, hadd, htemplate]
  exact (template_arguments_contained isIdPart_addScopes isIdPart_add).mpr hfree

theorem template_arguments_leak :
    ¬ ∀ scopes base args, (∀ scope ∈ scopes, IsIdPart scope) → IsIdPart base →
      deriveCategoryFromBlockId (scopedName scopes (templateName base args)) =
          deriveCategoryFromBlockId (scopedName scopes base) ∧
        isSaneExplicitCategory (deriveCategoryFromBlockId (scopedName scopes (templateName base args))) = true ∧
        deriveNameFromId (scopedName scopes (templateName base args)) = toTitleCase (templateName base args) := by
  intro contained
  have hleak : deriveCategoryFromBlockId (scopedName addScopes (templateName (ascii "Add") (ascii "std::plus<float32>"))) =
      ascii "math/Add<std" := by decide +kernel
  obtain ⟨-, hsane, -⟩ := contained addScopes (ascii "Add") (ascii "std::plus<float32>") isIdPart_addScopes isIdPart_add
  rw [hleak] at hsane
  exact absurd hsane (by decide)

end Gr4ControlPlane
