import Gr4ControlPlane.App.SessionService
import Gr4ControlPlane.Domain.BlockCatalog
import Gr4ControlPlane.Selection.BestPerKey
import Mathlib.Data.Finmap

namespace Gr4ControlPlane

open Selection

def canonicalCatalogKey (block : BlockDescriptor) : Bytes :=
  match block.canonicalType with
  | none | some [] => block.id
  | some canonicalType => canonicalType

def isCanonicalImplementationEntry (block : BlockDescriptor) : Bool :=
  match block.canonicalType with
  | none | some [] => false
  | some canonicalType => block.id = canonicalType

def isBetterBrowseEntry (candidate current : BlockDescriptor) : Bool :=
  if isCanonicalImplementationEntry candidate ≠ isCanonicalImplementationEntry current then
    !isCanonicalImplementationEntry candidate
  else if candidate.id.length ≠ current.id.length then candidate.id.length > current.id.length
  else if candidate.category ≠ current.category then candidate.category < current.category
  else if candidate.name ≠ current.name then candidate.name < current.name
  else candidate.id < current.id

def listedBefore (left right : BlockDescriptor) : Bool :=
  if left.category ≠ right.category then left.category < right.category
  else if left.name ≠ right.name then left.name < right.name
  else left.id < right.id

def sortBlocks (blocks : List BlockDescriptor) : List BlockDescriptor :=
  blocks.mergeSort fun left right => !listedBefore right left

structure CachedCatalog where
  browseBlocks : List BlockDescriptor
  exactBlocks : Finmap fun _ : Bytes => BlockDescriptor

/-- The first entry with the block's key, found by `std::find_if`, gives way to a better one. -/
def replaceEntry (block : BlockDescriptor) : List BlockDescriptor → List BlockDescriptor
  | [] => []
  | existing :: rest =>
    if canonicalCatalogKey existing = canonicalCatalogKey block then
      if isBetterBrowseEntry block existing then block :: rest else existing :: rest
    else existing :: replaceEntry block rest

def addBlock (state : CachedCatalog × Finset Bytes) (block : BlockDescriptor) : CachedCatalog × Finset Bytes :=
  let (catalog, browseKeys) := state
  let exactBlocks := catalog.exactBlocks.insert block.id block
  let key := canonicalCatalogKey block
  if key ∈ browseKeys then (⟨replaceEntry block catalog.browseBlocks, exactBlocks⟩, browseKeys)
  else (⟨catalog.browseBlocks ++ [block], exactBlocks⟩, insert key browseKeys)

def buildCatalog (blocks : List BlockDescriptor) : CachedCatalog :=
  let (catalog, _) := (sortBlocks blocks).foldl addBlock (⟨[], ∅⟩, ∅)
  { catalog with browseBlocks := sortBlocks catalog.browseBlocks }

structure BlockCatalogService where
  cachedCatalog : Option CachedCatalog

namespace BlockCatalogService

/-- What the provider would answer now; an exception leaves the cache empty. -/
abbrev ProviderAnswer := Except Raised (List BlockDescriptor)

variable (answer : ProviderAnswer) (service : BlockCatalogService)

def catalog : Except Raised CachedCatalog × BlockCatalogService :=
  match service.cachedCatalog with
  | some catalog => (.ok catalog, service)
  | none =>
    match answer with
    | .error raised => (.error raised, service)
    | .ok blocks => (.ok (buildCatalog blocks), ⟨some (buildCatalog blocks)⟩)

def list : Except Raised (List BlockDescriptor) × BlockCatalogService :=
  let (result, service) := service.catalog answer
  (result.map (·.browseBlocks), service)

def get (id : Bytes) : Except Raised BlockDescriptor × BlockCatalogService :=
  let (result, service) := service.catalog answer
  (result >>= fun catalog =>
    match catalog.exactBlocks.lookup id with
    | none => .error (.app (.notFound (ascii "block not found: " ++ id)))
    | some block => .ok block, service)

end BlockCatalogService

end Gr4ControlPlane
