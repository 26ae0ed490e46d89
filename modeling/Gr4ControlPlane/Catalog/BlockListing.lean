import Gr4ControlPlane.App.BlockCatalogService
import Gr4ControlPlane.Catalog.BlockReflectionLaws
import Gr4ControlPlane.Selection.SortUnique

open Gr4ControlPlane.Interleaving

namespace Gr4ControlPlane

open Selection

/-- `path.filename()`. -/
def fileName (path : Bytes) : Bytes :=
  match Text.findLast (· == 47) path with
  | none => path
  | some slash => path.drop (slash + 1)

/-- `path.extension()`. -/
def fileExtension (path : Bytes) : Bytes :=
  match Text.findLast (· == 46) (fileName path) with
  | none | some 0 => []
  | some dot => if fileName path = ascii ".." then [] else (fileName path).drop dot

def isSharedLibrary (path : Bytes) : Bool := fileExtension path = ascii ".so"

def isPluginLibrary (path : Bytes) : Bool := isSharedLibrary path && ascii "Plugin" <:+: fileName path

def isSharedBlockLibrary (path : Bytes) : Bool := isSharedLibrary path && ascii "Shared" <:+: fileName path

def isLikelyGr4Library (path : Bytes) : Bool :=
  if ¬ isSharedLibrary path then false
  else if ascii "libGr" <+: fileName path then
    ascii "Shared" <:+: fileName path || ascii "Plugin" <:+: fileName path
  else ascii "libGood" <+: fileName path && ascii "Plugin" <:+: fileName path

structure DirectoryEntry where
  path : Bytes
  regular : Bool

/-- The libraries that are picked, in order; paths are compared as `std::filesystem` does, by their bytes here. -/
def likelyLibraries (entries : List DirectoryEntry) : List Bytes :=
  sortUnique (· < ·) (entries.filterMap fun entry =>
    if entry.regular && isLikelyGr4Library entry.path then some entry.path else none)

/-- What `list` comes across before it has the ids of the blocks.  What it does itself may throw what it says; what the
file system, the libraries and the plugin loader throw is theirs. -/
structure PluginWorld where
  /-- The configured directories as they are read; those that are none have no entries. -/
  pluginDirectories : List (Except Raised (List DirectoryEntry))
  /-- How `preload_support_libraries` ends. -/
  preload : Except Raised Unit
  /-- How `create_stage_directory` ends, for the plugins and for the shared libraries. -/
  pluginStagingDirectory : Except Raised Unit
  sharedStagingDirectory : Except Raised Unit
  /-- Whether a library can be linked or copied to there. -/
  stagesPlugin : Bytes → Bool
  stagesShared : Bytes → Bool
  /-- How `bootstrap_blocklib_symbols` ends, which lets the exceptions of the libraries through. -/
  bootstrap : Except Raised Unit
  /-- The failed plugins of a new loader. -/
  pluginLoader : Except Raised (List (Bytes × Bytes))
  globalBlockRegistry : List Bytes
  retainedLoaders : List (List Bytes)

/-- `stage_library`, as far as it goes wrong. -/
def stageLibrary (thrown : Bytes → Raised) (staged : Bool) (library : Bytes) : Except Raised Unit :=
  if staged then .ok () else .error (thrown (ascii "failed to stage GNU Radio 4 library: " ++ library))

namespace PluginWorld

variable (world : PluginWorld)

def stageLibraries : List Bytes → Except Raised Unit
  | [] => .ok ()
  | library :: libraries => do
    if isPluginLibrary library then stageLibrary .catalogLoad (world.stagesPlugin library) library
    if isSharedBlockLibrary library then stageLibrary .catalogLoad (world.stagesShared library) library
    stageLibraries libraries

def availableBlocksFromRetainedLoaders : List Bytes := sortUnique (· < ·) world.retainedLoaders.flatten

def collectCandidateLibraries : Except Raised Unit := do
  let libraries := likelyLibraries (← world.pluginDirectories.mapM id).flatten
  if libraries.isEmpty then
    throw (.catalogLoad (ascii "no likely GNU Radio 4 plugin libraries were found in configured plugin directories"))
  world.pluginStagingDirectory
  world.sharedStagingDirectory
  world.stageLibraries libraries

/-- Everything `list` does up to the keys of the registry. -/
def loadPlugins : Except Raised Unit := do
  if world.pluginDirectories.isEmpty then
    throw (.catalogLoad (ascii "GNU Radio 4 plugin directories are not configured"))
  world.preload
  world.collectCandidateLibraries
  world.bootstrap
  if let (path, error) :: _ := ← world.pluginLoader then
    throw (.catalogLoad (ascii "failed to load GNU Radio 4 plugin library (" ++ path ++ ascii ": " ++ error ++ ascii ")"))

def blocks : List Bytes :=
  sortUnique (· < ·) (world.globalBlockRegistry ++ world.availableBlocksFromRetainedLoaders)

/-- The loop over the blocks, with the lines it leaves on the error output. -/
def reflectBlocks (reflect : Bytes → Except CatalogLoadError BlockDescriptor) : List Bytes → List BlockDescriptor × List Bytes
  | [] => ([], [])
  | id :: ids =>
    let (descriptors, lines) := reflectBlocks reflect ids
    match reflect id with
    | .ok descriptor => (descriptor :: descriptors, lines)
    | .error err => (descriptors, (ascii "Skipping GNU Radio 4 block from catalog: " ++ cString err.what) :: lines)

def list (reflect : Bytes → Except CatalogLoadError BlockDescriptor) : Except Raised (List BlockDescriptor) := do
  world.loadPlugins
  if world.blocks.isEmpty then throw (.catalogLoad (ascii "GNU Radio 4 plugin loader found no registered blocks"))
  let (descriptors, _) := reflectBlocks reflect world.blocks
  if descriptors.isEmpty then
    throw (.catalogLoad (ascii "GNU Radio 4 catalog reflection produced no usable blocks"))
  return descriptors

end PluginWorld

theorem staged_of_likely {path : Bytes} (h : isLikelyGr4Library path) :
    isPluginLibrary path ∨ isSharedBlockLibrary path := by
  unfold isLikelyGr4Library at h
  unfold isPluginLibrary isSharedBlockLibrary
  split at h
  · cases h
  · next hshared =>
    have hshared : isSharedLibrary path = true := by simpa using hshared
    simp only [hshared, Bool.true_and]
    split at h
    · exact (Bool.or_eq_true_iff.mp h).symm
    · exact .inl (Bool.and_eq_true_iff.mp h).2

namespace ReflectionSetting

def forBlock (e : ReflectionSetting) (id : Bytes) : ReflectionSetting := { e with id := id }

def Outcome (e : ReflectionSetting) (r : Except CatalogLoadError BlockDescriptor) : Prop :=
  ∃ s, (reflectionMachine e).Reachable s ∧ s.result = some r

def UndisturbedOutcome (e : ReflectionSetting) (r : Except CatalogLoadError BlockDescriptor) : Prop :=
  ∃ s, (BlockReflection.undisturbed e).Reachable s ∧ s.result = some r

end ReflectionSetting

open ReflectionSetting (Outcome UndisturbedOutcome)
open BlockReflection (Transmits Arrived answer arrived_of_result result_of_undisturbed gainModel gainSetting gainReflected)

variable {e : ReflectionSetting} {world : PluginWorld} {ids : List Bytes} {id : Bytes}
  {reflect : Bytes → Except CatalogLoadError BlockDescriptor} {descriptors : List BlockDescriptor}
  {descriptor : BlockDescriptor}

theorem mem_reflectBlocks :
    descriptor ∈ (PluginWorld.reflectBlocks reflect ids).1 ↔ ∃ id ∈ ids, reflect id = .ok descriptor := by
  induction ids with
  | nil => simp [PluginWorld.reflectBlocks]
  | cons id ids ih =>
    unfold PluginWorld.reflectBlocks
    cases hid : reflect id with
    | error err => simp [ih, hid]
    | ok d => simp [ih, hid, eq_comm]

theorem reflectBlocks_sorted (hids : ids.Pairwise (· < ·)) (hid : ∀ id ∈ ids, ∀ d, reflect id = .ok d → d.id = id) :
    (PluginWorld.reflectBlocks reflect ids).1.Pairwise fun left right => left.id < right.id := by
  induction ids with
  | nil => exact .nil
  | cons id ids ih =>
    obtain ⟨hfirst, hrest⟩ := List.pairwise_cons.mp hids
    rw [List.forall_mem_cons] at hid
    have hsorted := ih hrest hid.2
    unfold PluginWorld.reflectBlocks
    cases hd : reflect id with
    | error err => exact hsorted
    | ok d =>
      refine List.pairwise_cons.mpr ⟨fun d' hd' => ?_, hsorted⟩
      obtain ⟨id', hid', hd'⟩ := mem_reflectBlocks.mp hd'
      rw [hid.1 d hd, hid.2 id' hid' d' hd']
      exact hfirst id' hid'

theorem mem_blocks : id ∈ world.blocks ↔ id ∈ world.globalBlockRegistry ∨ ∃ loader ∈ world.retainedLoaders, id ∈ loader := by
  simp [PluginWorld.blocks, PluginWorld.availableBlocksFromRetainedLoaders, mem_sortUnique]

theorem list_eq_ok : world.list reflect = .ok descriptors ↔
    world.loadPlugins = .ok () ∧ (PluginWorld.reflectBlocks reflect world.blocks).1 = descriptors ∧ descriptors ≠ [] := by
  unfold PluginWorld.list
  cases world.loadPlugins with
  | error what => simp [bind, Except.bind]
  | ok u =>
    cases hblocks : world.blocks with
    | nil => simp [bind, Except.bind, PluginWorld.reflectBlocks, throw, throwThe, MonadExceptOf.throw]
    | cons id ids =>
      cases hloop : (PluginWorld.reflectBlocks reflect (id :: ids)).1 with
      | nil =>
        simp only [bind, Except.bind, throw, throwThe, MonadExceptOf.throw, hloop, List.isEmpty_cons, List.isEmpty_nil,
          Bool.false_eq_true, reduceIte, reduceCtorEq, false_iff, not_and, true_and]
        exact fun heq hne => hne heq.symm
      | cons d ds =>
        simp only [bind, Except.bind, pure, Except.pure, hloop, List.isEmpty_cons, Bool.false_eq_true, reduceIte, true_and,
          Except.ok.injEq]
        exact ⟨fun heq => ⟨heq, heq ▸ List.cons_ne_nil d ds⟩, And.left⟩

/-- A catalog that holds of each block what its own worker has reflected, and every block whose worker was left alone. -/
structure CatalogOf (e : ReflectionSetting) (ids : List Bytes) (reflect : Bytes → Except CatalogLoadError BlockDescriptor)
    (descriptors : List BlockDescriptor) : Prop where
  sorted : descriptors.Pairwise fun left right => left.id < right.id
  reflected : ∀ descriptor ∈ descriptors, descriptor.id ∈ ids ∧ Arrived (e.forBlock descriptor.id) descriptor
  complete : ∀ id ∈ ids, UndisturbedOutcome (e.forBlock id) (reflect id) → ∀ descriptor,
    answer (e.forBlock id) = .ok descriptor → descriptor ∈ descriptors
  served : ∀ descriptor ∈ descriptors, (BlockCatalogService.get (.ok descriptors) ⟨none⟩ descriptor.id).1 = .ok descriptor
  missing : ∀ id ∈ ids, (reflect id).isOk = false →
    (BlockCatalogService.get (.ok descriptors) ⟨none⟩ id).1 = .error (.app (.notFound (ascii "block not found: " ++ id)))

theorem id_of_arrived (h : Arrived e descriptor) : descriptor.id = e.id := by
  obtain ⟨block, hblock, -, rfl⟩ := h
  have hid := e.factory.id_of_reflectBlock hblock
  exact hid

/-- Workers that crash, hang up or send nothing of use take only their own blocks out of the catalog. -/
theorem catalog_reflected (transmits : ∀ id, Transmits (e.forBlock id)) (hload : world.loadPlugins = .ok ())
    (houtcome : ∀ id ∈ world.blocks, Outcome (e.forBlock id) (reflect id)) :
    ((∃ descriptors, world.list reflect = .ok descriptors) ↔ ∃ id ∈ world.blocks, (reflect id).isOk) ∧
      ∀ descriptors, world.list reflect = .ok descriptors → CatalogOf e world.blocks reflect descriptors := by
  have harrived : ∀ id ∈ world.blocks, ∀ d, reflect id = .ok d → Arrived (e.forBlock id) d := by
    intro id hid d hd
    obtain ⟨s, hs, hr⟩ := houtcome id hid
    exact arrived_of_result (transmits id) hs (hr.trans (congrArg some hd))
  have hid : ∀ id ∈ world.blocks, ∀ d, reflect id = .ok d → d.id = id :=
    fun id hmem d hd => id_of_arrived (harrived id hmem d hd)
  refine ⟨⟨fun ⟨descriptors, hlist⟩ => ?_, fun ⟨id, hmem, hok⟩ => ?_⟩, fun descriptors hlist => ?_⟩
  · obtain ⟨-, rfl, hne⟩ := list_eq_ok.mp hlist
    obtain ⟨d, hd⟩ := List.exists_mem_of_ne_nil _ hne
    obtain ⟨id, hmem, hd⟩ := mem_reflectBlocks.mp hd
    exact ⟨id, hmem, by rw [hd]; rfl⟩
  · obtain ⟨d, hd⟩ : ∃ d, reflect id = .ok d := by
      cases hr : reflect id with
      | error err =>
        rw [hr] at hok
        cases hok
      | ok d => exact ⟨d, rfl⟩
    exact ⟨_, list_eq_ok.mpr ⟨hload, rfl, List.ne_nil_of_mem (mem_reflectBlocks.mpr ⟨id, hmem, hd⟩)⟩⟩
  · obtain ⟨-, rfl, -⟩ := list_eq_ok.mp hlist
    have hblocks : world.blocks.Pairwise (· < ·) := bytes_order.sortUnique_sorted
    have hsorted := reflectBlocks_sorted hblocks hid
    have hnodup : ((PluginWorld.reflectBlocks reflect world.blocks).1.map (·.id)).Nodup :=
      List.pairwise_map.mpr (hsorted.imp fun {a b} hlt (heq : a.id = b.id) => List.lt_irrefl _ (heq ▸ hlt))
    refine ⟨hsorted, fun d hd => ?_, fun id hmem ⟨s, hs, hr⟩ d hd => ?_, fun d hd => ?_, fun id hmem hfailed => ?_⟩
    · obtain ⟨id, hmem, hd⟩ := mem_reflectBlocks.mp hd
      rw [hid id hmem d hd]
      exact ⟨hmem, harrived id hmem d hd⟩
    · exact mem_reflectBlocks.mpr ⟨id, hmem, (result_of_undisturbed (transmits id) hs hr).trans hd⟩
    · simp only [BlockCatalogService.get, BlockCatalogService.catalog, bind, Except.bind, lookup_of_id hnodup hd]
    · have hnone : ∀ d ∈ (PluginWorld.reflectBlocks reflect world.blocks).1, d.id ≠ id := by
        rintro d hd rfl
        obtain ⟨id', hmem', hd⟩ := mem_reflectBlocks.mp hd
        rw [hid id' hmem' d hd, hd] at hfailed
        cases hfailed
      simp only [BlockCatalogService.get, BlockCatalogService.catalog, bind, Except.bind, lookup_of_no_id hnodup hnone]

def brokenId : Bytes := ascii "gr::math::Broken"

def crashRun : List ReflectionLabel :=
  [.parent .done, .parent .done, .worker .done, .kill 11, .parent .done, .parent .done, .parent .done, .parent .done]

theorem crashRun_isSome : ((reflectionMachine (gainSetting.forBlock brokenId)).run .init crashRun).isSome := by decide +kernel

def crashed : BlockReflection := ((reflectionMachine (gainSetting.forBlock brokenId)).run .init crashRun).get crashRun_isSome

def gainWorld : PluginWorld where
  pluginDirectories := [.ok [], .ok [⟨ascii "/opt/gr4/libGrMathPlugin.so", true⟩, ⟨ascii "/opt/gr4/libfftw3.so", true⟩]]
  preload := .ok ()
  pluginStagingDirectory := .ok ()
  sharedStagingDirectory := .ok ()
  stagesPlugin _ := true
  stagesShared _ := true
  bootstrap := .ok ()
  pluginLoader := .ok []
  globalBlockRegistry := [gainModel.typeName, brokenId]
  retainedLoaders := [[brokenId]]

theorem gainResult_isSome : gainReflected.result.isSome := by decide +kernel

theorem crashed_isSome : crashed.result.isSome := by decide +kernel

def gainReflect (id : Bytes) : Except CatalogLoadError BlockDescriptor :=
  if id = brokenId then crashed.result.get crashed_isSome else gainReflected.result.get gainResult_isSome

theorem transmits_forBlock (id : Bytes) : Transmits (gainSetting.forBlock id) := by
  intro block hblock
  obtain ⟨model, hmodel, rfl⟩ := BlockFactory.reflectBlock_eq_ok.mp hblock
  obtain ⟨rfl, hmodel⟩ := Option.ite_none_right_eq_some.mp hmodel
  cases hmodel
  exact BlockReflection.transmits_ofValue (by decide +kernel) (by decide +kernel) BlockReflection.gain_readBack

theorem gainReflect_outcome : ∀ id ∈ gainWorld.blocks, Outcome (gainSetting.forBlock id) (gainReflect id) := by
  intro id hid
  have hid : id = gainModel.typeName ∨ id = brokenId := by simpa [mem_blocks, gainWorld] using hid
  rcases hid with rfl | rfl
  · rw [gainReflect, if_neg (by decide +kernel)]
    exact ⟨gainReflected, .of_run .init (Option.some_get _).symm, (Option.some_get gainResult_isSome).symm⟩
  · rw [gainReflect, if_pos rfl]
    exact ⟨crashed, .of_run .init (Option.some_get crashRun_isSome).symm, (Option.some_get crashed_isSome).symm⟩

theorem catalog_reflected_crash : ∃ descriptors, gainWorld.list gainReflect = .ok descriptors ∧
    CatalogOf gainSetting gainWorld.blocks gainReflect descriptors := by
  have hload : gainWorld.loadPlugins = .ok () := by decide +kernel
  obtain ⟨hlist, hcatalog⟩ := catalog_reflected transmits_forBlock hload gainReflect_outcome
  obtain ⟨descriptors, hdescriptors⟩ := hlist.mpr ⟨gainModel.typeName, mem_blocks.mpr (.inl List.mem_cons_self), by decide +kernel⟩
  exact ⟨descriptors, hdescriptors, hcatalog descriptors hdescriptors⟩

end Gr4ControlPlane
