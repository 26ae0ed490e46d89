import Gr4ControlPlane.App.BlockCatalogService
import Mathlib.Data.List.Lex

namespace Gr4ControlPlane

open Selection

variable {blocks listing : List BlockDescriptor} {block : BlockDescriptor}

/-! ### The two comparisons -/

theorem bytes_order : StrictOrderBy (fun s s' : Bytes => s < s') id where
  asymm s s' h h' := List.lt_irrefl _ (List.lt_trans h h')
  cotrans s s' s'' h := by
    by_cases hlt : s < s'
    · exact .inl hlt
    · exact .inr (List.lt_of_le_of_lt hlt h)
  total s s' hne := by
    by_cases hlt : s < s'
    · exact .inl hlt
    · exact .inr (Std.lt_of_le_of_ne hlt (Ne.symm hne))

theorem length_order : StrictOrderBy (fun m n : Nat => m > n) id where
  asymm m n := by omega
  cotrans m n k := by omega
  total m n := by simp only [id]; omega

theorem false_before_true : StrictOrderBy (fun b b' : Bool => b = false ∧ b' = true) id where
  asymm := by decide
  cotrans := by decide
  total := by decide

abbrev InListOrder : BlockDescriptor → BlockDescriptor → Prop :=
  LexBy (·.category) (· < ·) (LexBy (·.name) (· < ·) fun left right => left.id < right.id)

abbrev Better : BlockDescriptor → BlockDescriptor → Prop :=
  LexBy isCanonicalImplementationEntry (fun b b' => b = false ∧ b' = true)
    (LexBy (·.id.length) (· > ·) InListOrder)

theorem inListOrder_order : StrictOrderBy InListOrder (·.id) :=
  .lexBy bytes_order (.lexBy bytes_order (.of_tag bytes_order))

theorem better_order : StrictOrderBy Better (·.id) :=
  .lexBy false_before_true (.lexBy length_order inListOrder_order)

theorem listedBefore_iff {left right : BlockDescriptor} : listedBefore left right ↔ InListOrder left right := by
  unfold listedBefore
  apply lexBy_iff bytes_order.irrefl (fun _ => decide_eq_true_iff)
  apply lexBy_iff bytes_order.irrefl (fun _ => decide_eq_true_iff)
  exact decide_eq_true_iff

theorem isBetterBrowseEntry_iff {candidate current : BlockDescriptor} :
    isBetterBrowseEntry candidate current ↔ Better candidate current := by
  unfold isBetterBrowseEntry
  apply lexBy_iff false_before_true.irrefl
  · intro hne
    cases h : isCanonicalImplementationEntry candidate <;> cases h' : isCanonicalImplementationEntry current <;> simp_all
  apply lexBy_iff (f := fun block : BlockDescriptor => block.id.length) length_order.irrefl
  · exact fun _ => decide_eq_true_iff
  exact listedBefore_iff

instance : DecidableRel InListOrder := fun _ _ => decidable_of_iff _ listedBefore_iff

instance : DecidableRel Better := fun _ _ => decidable_of_iff _ isBetterBrowseEntry_iff

/-! ### The loop -/

theorem sortBlocks_perm (blocks : List BlockDescriptor) : (sortBlocks blocks).Perm blocks := List.mergeSort_perm _ _

theorem sortBlocks_pairwise (hids : (blocks.map (·.id)).Nodup) : (sortBlocks blocks).Pairwise InListOrder := by
  have hsame : ∀ left right, listedBefore left right = decide (InListOrder left right) := by
    intro left right
    rw [Bool.eq_iff_iff, listedBefore_iff, decide_eq_true_iff]
  unfold sortBlocks
  simp only [hsame]
  exact inListOrder_order.pairwise_mergeSort hids

theorem replaceEntry_eq (block : BlockDescriptor) (kept : List BlockDescriptor) :
    replaceEntry block kept = improve canonicalCatalogKey Better block kept := by
  induction kept with
  | nil => rfl
  | cons existing rest ih =>
    unfold replaceEntry improve
    simp only [isBetterBrowseEntry_iff, ih]
    split
    · split <;> rfl
    · rfl

def insertExact (exactBlocks : Finmap fun _ : Bytes => BlockDescriptor) (block : BlockDescriptor) :
    Finmap fun _ : Bytes => BlockDescriptor :=
  exactBlocks.insert block.id block

theorem foldl_addBlock {catalog : CachedCatalog} {browseKeys : Finset Bytes}
    (hkeys : ∀ key, key ∈ browseKeys ↔ key ∈ catalog.browseBlocks.map canonicalCatalogKey) :
    (blocks.foldl addBlock (catalog, browseKeys)).1 =
      ⟨blocks.foldl (keepBest canonicalCatalogKey Better) catalog.browseBlocks,
        blocks.foldl insertExact catalog.exactBlocks⟩ := by
  induction blocks generalizing catalog browseKeys with
  | nil => rfl
  | cons block blocks ih =>
    rw [List.foldl_cons, List.foldl_cons, List.foldl_cons]
    by_cases hkey : canonicalCatalogKey block ∈ browseKeys
    · have hround : addBlock (catalog, browseKeys) block =
          (⟨replaceEntry block catalog.browseBlocks, insertExact catalog.exactBlocks block⟩, browseKeys) := if_pos hkey
      have hkeep : keepBest canonicalCatalogKey Better catalog.browseBlocks block =
          replaceEntry block catalog.browseBlocks := by
        rw [keepBest, if_pos ((hkeys _).mp hkey), replaceEntry_eq]
      rw [hround, hkeep]
      apply ih
      intro key
      rw [replaceEntry_eq, BestPerKey.map_key_improve]
      exact hkeys key
    · have hround : addBlock (catalog, browseKeys) block =
          (⟨catalog.browseBlocks ++ [block], insertExact catalog.exactBlocks block⟩,
            insert (canonicalCatalogKey block) browseKeys) := if_neg hkey
      have hkeep : keepBest canonicalCatalogKey Better catalog.browseBlocks block = catalog.browseBlocks ++ [block] :=
        if_neg fun hmem => hkey ((hkeys _).mpr hmem)
      rw [hround, hkeep]
      apply ih
      intro key
      rw [Finset.mem_insert, hkeys, List.map_append, List.mem_append, List.map_singleton, List.mem_singleton, or_comm]

theorem buildCatalog_eq (blocks : List BlockDescriptor) :
    buildCatalog blocks =
      ⟨sortBlocks ((sortBlocks blocks).foldl (keepBest canonicalCatalogKey Better) []),
        (sortBlocks blocks).foldl insertExact ∅⟩ := by
  have hloop : ((sortBlocks blocks).foldl addBlock (⟨[], ∅⟩, ∅)).1 =
      ⟨(sortBlocks blocks).foldl (keepBest canonicalCatalogKey Better) [], (sortBlocks blocks).foldl insertExact ∅⟩ :=
    foldl_addBlock (by simp)
  unfold buildCatalog
  dsimp only
  rw [hloop]

/-! ### What is kept -/

theorem bestPerKey_buildCatalog (hids : (blocks.map (·.id)).Nodup) :
    BestPerKey canonicalCatalogKey Better blocks (buildCatalog blocks).browseBlocks := by
  have hsorted : ((sortBlocks blocks).map (·.id)).Nodup := ((sortBlocks_perm blocks).map _).nodup_iff.mpr hids
  have hnone : BestPerKey canonicalCatalogKey Better [] [] := .nil
  have hfold := hnone.foldl better_order hsorted
  rw [buildCatalog_eq]
  exact (hfold.of_mem_iff fun block => (sortBlocks_perm blocks).mem_iff.symm).perm (sortBlocks_perm _)

theorem buildCatalog_sorted (hids : (blocks.map (·.id)).Nodup) :
    (buildCatalog blocks).browseBlocks.Pairwise InListOrder := by
  have hbest := bestPerKey_buildCatalog hids
  have hkept : ((buildCatalog blocks).browseBlocks.map (·.id)).Nodup :=
    hbest.keys.of_map.map_on fun a ha b hb hid => List.inj_on_of_nodup_map hids (hbest.among a ha) (hbest.among b hb) hid
  rw [buildCatalog_eq] at hkept ⊢
  exact sortBlocks_pairwise (((sortBlocks_perm _).map _).nodup_iff.mp hkept)

theorem buildCatalog_perm (hids : (blocks.map (·.id)).Nodup) (hperm : listing.Perm blocks) :
    (buildCatalog listing).browseBlocks = (buildCatalog blocks).browseBlocks := by
  have hids' : (listing.map (·.id)).Nodup := (hperm.map _).nodup_iff.mpr hids
  apply inListOrder_order.eq_of_perm (buildCatalog_sorted hids') (buildCatalog_sorted hids)
  exact ((bestPerKey_buildCatalog hids').of_mem_iff fun _ => hperm.mem_iff.symm).unique better_order
    (bestPerKey_buildCatalog hids)

theorem lookup_insertExact {exactBlocks : Finmap fun _ : Bytes => BlockDescriptor} {id : Bytes}
    (hids : (blocks.map (·.id)).Nodup) :
    (blocks.foldl insertExact exactBlocks).lookup id = (blocks.find? (·.id = id)).or (exactBlocks.lookup id) := by
  induction blocks generalizing exactBlocks with
  | nil => rfl
  | cons block blocks ih =>
    rw [List.map_cons, List.nodup_cons] at hids
    rw [List.foldl_cons, ih hids.2, List.find?_cons, insertExact]
    by_cases hid : block.id = id
    · subst hid
      have hnone : blocks.find? (·.id = block.id) = none := by
        rw [List.find?_eq_none]
        intro b hb heq
        exact hids.1 (List.mem_map.mpr ⟨b, hb, by simpa using heq⟩)
      rw [hnone, Finmap.lookup_insert]
      simp
    · rw [Finmap.lookup_insert_of_ne _ (Ne.symm hid)]
      simp [hid]

theorem lookup_buildCatalog {id : Bytes} (hids : (blocks.map (·.id)).Nodup) :
    (buildCatalog blocks).exactBlocks.lookup id = (sortBlocks blocks).find? (·.id = id) := by
  have hids' : ((sortBlocks blocks).map (·.id)).Nodup := ((sortBlocks_perm blocks).map _).nodup_iff.mpr hids
  rw [buildCatalog_eq, lookup_insertExact hids', Finmap.lookup_empty, Option.or_none]

theorem lookup_of_id (hids : (blocks.map (·.id)).Nodup) (hblock : block ∈ blocks) :
    (buildCatalog blocks).exactBlocks.lookup block.id = some block := by
  rw [lookup_buildCatalog hids]
  cases hfind : (sortBlocks blocks).find? (·.id = block.id) with
  | none => simpa using List.find?_eq_none.mp hfind block ((sortBlocks_perm blocks).mem_iff.mpr hblock)
  | some found =>
    have hmem : found ∈ blocks := (sortBlocks_perm blocks).mem_iff.mp (List.mem_of_find?_eq_some hfind)
    rw [List.inj_on_of_nodup_map hids hmem hblock (by simpa using List.find?_some hfind)]

theorem lookup_of_no_id {id : Bytes} (hids : (blocks.map (·.id)).Nodup) (hid : ∀ block ∈ blocks, block.id ≠ id) :
    (buildCatalog blocks).exactBlocks.lookup id = none := by
  rw [lookup_buildCatalog hids, List.find?_eq_none]
  intro block hblock
  simpa using hid block ((sortBlocks_perm blocks).mem_iff.mp hblock)

/-! ### The service -/

namespace BlockCatalogService

inductive Request
  | list
  | get (id : Bytes)

def handle (answer : ProviderAnswer) (service : BlockCatalogService) : Request → BlockCatalogService
  | .list => (service.list answer).2
  | .get id => (service.get answer id).2

inductive Served (blocks : List BlockDescriptor) : BlockCatalogService → Prop
  | new : Served blocks ⟨none⟩
  | request {service : BlockCatalogService} (h : Served blocks service) (request : Request) (answer : ProviderAnswer)
      (hanswer : ∀ listing, answer = .ok listing → listing.Perm blocks) : Served blocks (handle answer service request)

variable {service : BlockCatalogService} {answer : ProviderAnswer}

theorem handle_eq (request : Request) : handle answer service request = (service.catalog answer).2 := by
  cases request <;> rfl

theorem Served.cached (h : Served blocks service) :
    service.cachedCatalog = none ∨
      ∃ listing, listing.Perm blocks ∧ service.cachedCatalog = some (buildCatalog listing) := by
  induction h with
  | new => exact .inl rfl
  | @request service h request answer hanswer ih =>
    rw [handle_eq]
    obtain ⟨_ | catalog⟩ := service
    · cases answer with
      | error what => exact .inl rfl
      | ok listing => exact .inr ⟨listing, hanswer listing rfl, rfl⟩
    · exact ih

theorem Served.catalog (h : Served blocks service) (hperm : listing.Perm blocks) :
    ∃ listing', listing'.Perm blocks ∧ (service.catalog (.ok listing)).1 = .ok (buildCatalog listing') := by
  unfold BlockCatalogService.catalog
  rcases h.cached with hcache | ⟨listing', hperm', hcache⟩
  · rw [hcache]
    exact ⟨listing, hperm, rfl⟩
  · rw [hcache]
    exact ⟨listing', hperm', rfl⟩

structure Browses (blocks browse : List BlockDescriptor) : Prop where
  sorted : browse.Pairwise fun left right => listedBefore left right
  each : ∀ block ∈ blocks, ∃! entry, entry ∈ browse ∧ canonicalCatalogKey entry = canonicalCatalogKey block
  greatest : ∀ entry ∈ browse, entry ∈ blocks ∧ ∀ block ∈ blocks,
    canonicalCatalogKey block = canonicalCatalogKey entry → block ≠ entry → isBetterBrowseEntry entry block

theorem browses_buildCatalog (hids : (blocks.map (·.id)).Nodup) : Browses blocks (buildCatalog blocks).browseBlocks := by
  have hbest := bestPerKey_buildCatalog hids
  have hinj := List.inj_on_of_nodup_map hbest.keys
  refine ⟨(buildCatalog_sorted hids).imp listedBefore_iff.mpr, fun block hblock => ?_, fun entry hentry => ?_⟩
  · obtain ⟨entry, hentry, hkey, -⟩ := hbest.best block hblock
    exact ⟨entry, ⟨hentry, hkey⟩, fun other hother => hinj hother.1 hentry (hother.2.trans hkey.symm)⟩
  · refine ⟨hbest.among entry hentry, fun block hblock hkey hne => ?_⟩
    obtain ⟨entry', hentry', hkey', hbetter⟩ := hbest.best block hblock
    obtain rfl := hinj hentry' hentry (hkey'.trans hkey)
    exact isBetterBrowseEntry_iff.mpr (hbetter.resolve_left (Ne.symm hne))

/-- The catalog is the same whatever order the provider lists its blocks in: for browsing the best
block of each key, sorted, and for lookups every block by its id. -/
theorem catalog_selection (hids : (blocks.map (·.id)).Nodup) :
    ((∀ block, ¬ isBetterBrowseEntry block block) ∧
        (∀ a b c, isBetterBrowseEntry a b → isBetterBrowseEntry b c → isBetterBrowseEntry a c) ∧
        ∀ a b, a.id ≠ b.id → isBetterBrowseEntry a b ∨ isBetterBrowseEntry b a) ∧
      ∃ browse, Browses blocks browse ∧ ∀ service listing, Served blocks service → listing.Perm blocks →
        (service.list (.ok listing)).1 = .ok browse ∧
        (∀ block ∈ blocks, (service.get (.ok listing) block.id).1 = .ok block) ∧
        ∀ id, (∀ block ∈ blocks, block.id ≠ id) →
          (service.get (.ok listing) id).1 = .error (.app (.notFound (ascii "block not found: " ++ id))) := by
  refine ⟨?_, (buildCatalog blocks).browseBlocks, browses_buildCatalog hids, fun service listing h hperm => ?_⟩
  · simp only [isBetterBrowseEntry_iff]
    exact ⟨better_order.irrefl, fun _ _ _ => better_order.trans, better_order.total⟩
  · obtain ⟨listing', hperm', hcatalog⟩ := h.catalog hperm
    have hids' : (listing'.map (·.id)).Nodup := (hperm'.map _).nodup_iff.mpr hids
    unfold list get
    dsimp only
    rw [hcatalog]
    refine ⟨congrArg _ (buildCatalog_perm hids hperm'), fun block hblock => ?_, fun id hid => ?_⟩
    · dsimp only [bind, Except.bind]
      rw [lookup_of_id hids' (hperm'.mem_iff.mpr hblock)]
    · dsimp only [bind, Except.bind]
      rw [lookup_of_no_id hids' fun block hblock => hid block (hperm'.mem_iff.mp hblock)]

def mathBlock (id canonicalType : String) : BlockDescriptor where
  id := ascii id
  canonicalType := some (ascii canonicalType)
  name := ascii "Multiply"
  category := ascii "Math"
  summary := []
  inputs := []
  outputs := []
  parameters := []

def aliasedBlocks : List BlockDescriptor :=
  [mathBlock "gr::blocks::math::MathOpImpl<float>" "gr::blocks::math::MathOpImpl<float>",
    mathBlock "gr::blocks::math::MultiplyConst<float>" "gr::blocks::math::MathOpImpl<float>"]

theorem catalog_selection_aliased : ∃ browse, Browses aliasedBlocks browse ∧
    (list (.ok aliasedBlocks.reverse) ⟨none⟩).1 = .ok browse := by
  obtain ⟨-, browse, hbrowses, hserved⟩ := catalog_selection (show (aliasedBlocks.map (·.id)).Nodup by decide)
  exact ⟨browse, hbrowses, (hserved ⟨none⟩ aliasedBlocks.reverse .new (List.reverse_perm _)).1⟩

end BlockCatalogService

end Gr4ControlPlane
