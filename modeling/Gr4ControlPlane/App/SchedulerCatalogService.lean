import Gr4ControlPlane.Catalog.BlockListing

namespace Gr4ControlPlane

open Selection

structure SchedulerDescriptor where
  id : Bytes
  deriving DecidableEq

structure SchedulerWorld where
  pluginDirectories : List (Except Raised (List DirectoryEntry))
  preload : Except Raised Unit
  pluginStagingDirectory : Except Raised Unit
  stagesPlugin : Bytes → Bool
  pluginLoader : Except Raised (List (Bytes × Bytes))
  /-- The ids in the registry, some of which are registered by `list` itself. -/
  availableSchedulers : List Bytes

def isAliasSchedulerId (id : Bytes) : Bool := 60 ∉ id

namespace SchedulerWorld

variable (world : SchedulerWorld)

/-- Only plugins are staged. -/
def stageLibraries : List Bytes → Except Raised Unit
  | [] => .ok ()
  | library :: libraries => do
    if isPluginLibrary library then stageLibrary .schedulerCatalogLoad (world.stagesPlugin library) library
    stageLibraries libraries

def collectCandidateLibraries : Except Raised Unit := do
  let libraries := likelyLibraries (← world.pluginDirectories.mapM id).flatten
  if libraries.isEmpty then
    throw (.schedulerCatalogLoad
      (ascii "no likely GNU Radio 4 plugin libraries were found in configured plugin directories"))
  world.pluginStagingDirectory
  world.stageLibraries libraries

def loadPlugins : Except Raised Unit := do
  if world.pluginDirectories.isEmpty then
    throw (.schedulerCatalogLoad (ascii "GNU Radio 4 plugin directories are not configured"))
  world.preload
  world.collectCandidateLibraries
  if let (path, error) :: _ := ← world.pluginLoader then
    throw (.schedulerCatalogLoad
      (ascii "failed to load GNU Radio 4 plugin library (" ++ path ++ ascii ": " ++ error ++ ascii ")"))

def schedulerIds : List Bytes := (sortUnique (· < ·) world.availableSchedulers).filter isAliasSchedulerId

def list : Except Raised (List SchedulerDescriptor) := do
  world.loadPlugins
  if world.schedulerIds.isEmpty then
    throw (.schedulerCatalogLoad (ascii "GNU Radio 4 plugin loader found no registered schedulers"))
  return world.schedulerIds.map (⟨·⟩)

end SchedulerWorld

structure CachedSchedulers where
  schedulers : List SchedulerDescriptor
  exactSchedulers : Finmap fun _ : Bytes => SchedulerDescriptor

/-- `std::sort`, and one round of the loop for each of the sorted schedulers. -/
def buildSchedulers (schedulers : List SchedulerDescriptor) : CachedSchedulers :=
  (schedulers.mergeSort fun left right => !decide (right.id < left.id)).foldl
    (fun catalog scheduler =>
      ⟨catalog.schedulers ++ [scheduler], catalog.exactSchedulers.insert scheduler.id scheduler⟩) ⟨[], ∅⟩

structure SchedulerCatalogService where
  cachedCatalog : Option CachedSchedulers

namespace SchedulerCatalogService

abbrev ProviderAnswer := Except Raised (List SchedulerDescriptor)

variable (answer : ProviderAnswer) (service : SchedulerCatalogService)

def catalog : Except Raised CachedSchedulers × SchedulerCatalogService :=
  match service.cachedCatalog with
  | some catalog => (.ok catalog, service)
  | none =>
    match answer with
    | .error raised => (.error raised, service)
    | .ok schedulers => (.ok (buildSchedulers schedulers), ⟨some (buildSchedulers schedulers)⟩)

def list : Except Raised (List SchedulerDescriptor) × SchedulerCatalogService :=
  let (result, service) := service.catalog answer
  (result.map (·.schedulers), service)

def get (id : Bytes) : Except Raised SchedulerDescriptor × SchedulerCatalogService :=
  let (result, service) := service.catalog answer
  (result >>= fun catalog =>
    match catalog.exactSchedulers.lookup id with
    | none => .error (.app (.notFound (ascii "scheduler not found: " ++ id)))
    | some scheduler => .ok scheduler, service)

end SchedulerCatalogService

variable {schedulers : List SchedulerDescriptor} {id : Bytes} {world : SchedulerWorld}

theorem foldl_schedulers (catalog : CachedSchedulers) :
    schedulers.foldl (fun catalog scheduler =>
        ⟨catalog.schedulers ++ [scheduler], catalog.exactSchedulers.insert scheduler.id scheduler⟩) catalog =
      ⟨catalog.schedulers ++ schedulers,
        schedulers.foldl (fun exactSchedulers scheduler => exactSchedulers.insert scheduler.id scheduler)
          catalog.exactSchedulers⟩ := by
  induction schedulers generalizing catalog with
  | nil => simp
  | cons scheduler schedulers ih => rw [List.foldl_cons, ih, List.append_assoc]; rfl

theorem lookup_schedulers {exactSchedulers : Finmap fun _ : Bytes => SchedulerDescriptor} :
    (schedulers.foldl (fun exactSchedulers scheduler => exactSchedulers.insert scheduler.id scheduler)
        exactSchedulers).lookup id =
      if ⟨id⟩ ∈ schedulers then some ⟨id⟩ else exactSchedulers.lookup id := by
  induction schedulers generalizing exactSchedulers with
  | nil => rfl
  | cons scheduler schedulers ih =>
    rw [List.foldl_cons, ih]
    by_cases hmem : (⟨id⟩ : SchedulerDescriptor) ∈ schedulers
    · rw [if_pos hmem, if_pos (List.mem_cons_of_mem _ hmem)]
    · rw [if_neg hmem]
      by_cases hid : scheduler.id = id
      · subst hid
        rw [Finmap.lookup_insert, if_pos List.mem_cons_self]
      · have hnot : (⟨id⟩ : SchedulerDescriptor) ∉ scheduler :: schedulers := by
          rw [List.mem_cons, not_or]
          exact ⟨fun heq => hid (congrArg SchedulerDescriptor.id heq).symm, hmem⟩
        rw [Finmap.lookup_insert_of_ne _ (Ne.symm hid), if_neg hnot]

theorem buildSchedulers_lookup :
    (buildSchedulers schedulers).exactSchedulers.lookup id = if ⟨id⟩ ∈ schedulers then some ⟨id⟩ else none := by
  unfold buildSchedulers
  rw [foldl_schedulers]
  dsimp only
  rw [lookup_schedulers, Finmap.lookup_empty]
  simp only [(List.mergeSort_perm _ _).mem_iff]

theorem buildSchedulers_schedulers :
    (buildSchedulers schedulers).schedulers = schedulers.mergeSort fun left right => !decide (right.id < left.id) := by
  unfold buildSchedulers
  rw [foldl_schedulers]
  rfl

namespace SchedulerWorld

theorem mem_schedulerIds : id ∈ world.schedulerIds ↔ id ∈ world.availableSchedulers ∧ 60 ∉ id := by
  simp [schedulerIds, mem_sortUnique, isAliasSchedulerId]

theorem schedulerIds_sorted : world.schedulerIds.Pairwise (· < ·) := bytes_order.sortUnique_sorted.filter _

theorem list_eq_ok : world.list = .ok schedulers ↔
    world.loadPlugins = .ok () ∧ world.schedulerIds.map (⟨·⟩) = schedulers ∧ schedulers ≠ [] := by
  unfold list
  cases world.loadPlugins with
  | error what => simp [bind, Except.bind]
  | ok u =>
    cases hids : world.schedulerIds with
    | nil =>
      simp only [bind, Except.bind, List.isEmpty_nil, reduceIte, throw, throwThe, MonadExceptOf.throw, reduceCtorEq,
        List.map_nil, true_and, false_iff, not_and]
      exact fun heq hne => hne heq.symm
    | cons id ids =>
      simp only [bind, Except.bind, List.isEmpty_cons, Bool.false_eq_true, reduceIte, pure, Except.pure, Except.ok.injEq,
        true_and]
      exact ⟨fun heq => ⟨heq, heq ▸ List.cons_ne_nil _ _⟩, And.left⟩

end SchedulerWorld

end Gr4ControlPlane
