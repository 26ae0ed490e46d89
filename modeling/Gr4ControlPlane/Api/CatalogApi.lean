import Gr4ControlPlane.Api.ErrorResponses
import Gr4ControlPlane.App.SchedulerCatalogService
import Gr4ControlPlane.Interleaving.LoadOnce

/-! The routes for blocks and schedulers: once a catalog could be loaded, everybody is told of that one. -/

open Gr4ControlPlane.Interleaving

namespace Gr4ControlPlane

/-! ### The entries -/

def blockPortToJson (port : BlockPortDescriptor) : Json := .ofFields port.fields

def blockParameterFields (parameter : BlockParameterDescriptor) : List (Bytes × Option Json) :=
  [(ascii "allow_custom_value", parameter.allowCustomValue.map .boolean),
    (ascii "default", some parameter.defaultValue.toJson),
    (ascii "enum_choices", parameter.enumChoices.map fun choices => .array (choices.map .string)),
    (ascii "enum_labels", parameter.labels),
    (ascii "enum_source", parameter.enumSource.map .string),
    (ascii "enum_type", parameter.enumType.map .string),
    (ascii "name", some (.string parameter.name)),
    (ascii "required", some (.boolean parameter.required)),
    (ascii "runtime_mutability", parameter.runtimeMutability.map .string),
    (ascii "summary", some (.string parameter.summary)),
    (ascii "type", some (.string parameter.type)),
    (ascii "ui_hint", parameter.uiHint.map .string),
    (ascii "value_kind", parameter.valueKind.map .string)]

def blockParameterToJson (parameter : BlockParameterDescriptor) : Json := .ofFields (blockParameterFields parameter)

def blockToJson (block : BlockDescriptor) : Json :=
  .object
    [(ascii "category", .string block.category), (ascii "id", .string block.id),
      (ascii "inputs", .array (block.inputs.map blockPortToJson)), (ascii "name", .string block.name),
      (ascii "outputs", .array (block.outputs.map blockPortToJson)),
      (ascii "parameters", .array (block.parameters.map blockParameterToJson)),
      (ascii "summary", .string block.summary)]

def blocksToJson (blocks : List BlockDescriptor) : Json := .array (blocks.map blockToJson)

def schedulerToJson (scheduler : SchedulerDescriptor) : Json := .object [(ascii "id", .string scheduler.id)]

def schedulersToJson (schedulers : List SchedulerDescriptor) : Json := .array (schedulers.map schedulerToJson)

namespace Json

variable {fields : List (Bytes × Option Json)}

theorem printable_ofFields (hkeys : ∀ key ∈ fields.map Prod.fst, validUtf8 key = true) :
    (ofFields fields).printable = true ↔ ∀ item, some item ∈ fields.map Prod.snd → item.printable = true := by
  show printableMembers (fields.filterMap fun field => field.2.map (field.1, ·)) = true ↔ _
  induction fields with
  | nil => simp [printableMembers]
  | cons field fields ih =>
    obtain ⟨key, value⟩ := field
    rw [List.map_cons, List.forall_mem_cons] at hkeys
    cases value with
    | none => simpa using ih hkeys.2
    | some item =>
      have hhead : validUtf8 key = true := hkeys.1
      simp only [List.filterMap_cons, Option.map_some, printableMembers, Bool.and_eq_true, hhead, true_and,
        ih hkeys.2, List.map_cons, List.mem_cons, Option.some.injEq, forall_eq_or_imp]

end Json

theorem printable_blockParameterToJson {parameter : BlockParameterDescriptor} (h : parameter.toJson.printable = true) :
    (blockParameterToJson parameter).printable = true := by
  have hkeys : ∀ key ∈ parameter.fields.map Prod.fst, validUtf8 key = true := by
    change ∀ key ∈ (default : BlockParameterDescriptor).fields.map Prod.fst, validUtf8 key = true
    decide +kernel
  have hkeys' : ∀ key ∈ (blockParameterFields parameter).map Prod.fst, validUtf8 key = true := by
    change ∀ key ∈ (blockParameterFields default).map Prod.fst, validUtf8 key = true
    decide +kernel
  have hvalues : ∀ item, some item ∈ parameter.fields.map Prod.snd → item.printable = true :=
    (Json.printable_ofFields hkeys).mp h
  exact (Json.printable_ofFields hkeys').mpr hvalues

theorem printable_blockToJson {block : BlockDescriptor} (h : block.toJson.printable = true) :
    (blockToJson block).printable = true := by
  have hkeys : ∀ key ∈ block.fields.map Prod.fst, validUtf8 key = true := by
    change ∀ key ∈ (default : BlockDescriptor).fields.map Prod.fst, validUtf8 key = true
    decide +kernel
  have hvalues : ∀ item, some item ∈ block.fields.map Prod.snd → item.printable = true :=
    (Json.printable_ofFields hkeys).mp h
  have hparameters : (Json.array (block.parameters.map blockParameterToJson)).printable = true := by
    have hsent : (Json.array (block.parameters.map (·.toJson))).printable = true :=
      hvalues _ (by simp [BlockDescriptor.fields])
    rw [Json.printable_array] at hsent ⊢
    intro item hitem
    obtain ⟨parameter, hparameter, rfl⟩ := List.mem_map.mp hitem
    exact printable_blockParameterToJson (hsent _ (List.mem_map_of_mem hparameter))
  have htext : ∀ key text, (key, some (Json.string text)) ∈ block.fields → validUtf8 text = true :=
    fun key text hmem => hvalues _ (List.mem_map_of_mem hmem)
  have hports : ∀ key ports, (key, some (Json.array ports)) ∈ block.fields → (Json.array ports).printable = true :=
    fun key ports hmem => hvalues _ (List.mem_map_of_mem hmem)
  simp only [blockToJson, Json.printable, Json.printableMembers, Bool.and_eq_true, Bool.and_true]
  refine ⟨⟨by decide, htext (ascii "category") _ ?_⟩, ⟨by decide, htext (ascii "id") _ ?_⟩,
    ⟨by decide, hports (ascii "inputs") _ ?_⟩, ⟨by decide, htext (ascii "name") _ ?_⟩,
    ⟨by decide, hports (ascii "outputs") _ ?_⟩, ⟨by decide, hparameters⟩, by decide, htext (ascii "summary") _ ?_⟩ <;>
    simp [BlockDescriptor.fields, blockPortToJson, BlockPortDescriptor.toJson]

theorem printable_blocksToJson {blocks : List BlockDescriptor} (h : ∀ block ∈ blocks, block.toJson.printable = true) :
    (blocksToJson blocks).printable = true := by
  rw [blocksToJson, Json.printable_array]
  intro item hitem
  obtain ⟨block, hblock, rfl⟩ := List.mem_map.mp hitem
  exact printable_blockToJson (h block hblock)

/-! ### The routes -/

inductive CatalogRequest
  | list
  | get (encoded : Bytes)

namespace CatalogRoutes

section

variable (dump : Json → Except Bytes Bytes)

def serveCatalog {σ α : Type} (list : σ → Except Raised (List α) × σ) (get : σ → Bytes → Except Raised α × σ)
    (listToJson : List α → Json) (toJson : α → Json) (service : σ) : CatalogRequest → Except Bytes HttpResponse × σ
  | .list =>
    let (entries, service) := list service
    (execute dump do raiseStd (setJsonResponse dump (listToJson (← entries)) 200), service)
  | .get encoded =>
    match decodePercentEncoded encoded with
    | .error what => (execute dump (raiseStd (.error what)), service)
    | .ok id =>
      let (entry, service) := get service id
      (execute dump do raiseStd (setJsonResponse dump (toJson (← entry)) 200), service)

def serveBlocks (answer : BlockCatalogService.ProviderAnswer) :
    BlockCatalogService → CatalogRequest → Except Bytes HttpResponse × BlockCatalogService :=
  serveCatalog dump (·.list answer) (·.get answer) blocksToJson blockToJson

def serveSchedulers (answer : SchedulerCatalogService.ProviderAnswer) :
    SchedulerCatalogService → CatalogRequest → Except Bytes HttpResponse × SchedulerCatalogService :=
  serveCatalog dump (·.list answer) (·.get answer) schedulersToJson schedulerToJson

def responses {σ A : Type} (serve : A → σ → CatalogRequest → Except Bytes HttpResponse × σ) :
    σ → List (CatalogRequest × A) → List (Except Bytes HttpResponse)
  | _, [] => []
  | service, (request, answer) :: calls =>
    let (response, service) := serve answer service request
    response :: responses serve service calls

end

/-! ### What they answer -/

variable {α κ : Type} (dump : Json → Except Bytes Bytes) (kind : Bytes) (toJson : α → Json)

/-- A request for an entry whose id cannot be decoded is over before it comes to the catalog. -/
def refuse : CatalogRequest → Option (Except Bytes HttpResponse)
  | .list => none
  | .get encoded =>
    match decodePercentEncoded encoded with
    | .error what => some (handleException dump (.app (.stdException what)))
    | .ok _ => none

def reply (listed : κ → List α) (find : κ → Bytes → Option α) :
    CatalogRequest → Except Raised κ → Except Bytes HttpResponse
  | _, .error raised => handleException dump raised
  | .list, .ok catalog => execute dump (raiseStd (setJsonResponse dump (.array ((listed catalog).map toJson)) 200))
  | .get encoded, .ok catalog => execute dump (catalogRoute dump kind (find catalog) toJson encoded)

def client (listed : κ → List α) (find : κ → Bytes → Option α) :
    LoadOnce.Client Raised κ (Except Bytes HttpResponse) CatalogRequest where
  refuse := refuse dump
  reply := reply dump kind toJson listed find

abbrev blockClient : LoadOnce.Client Raised CachedCatalog (Except Bytes HttpResponse) CatalogRequest :=
  client dump (ascii "block") blockToJson (·.browseBlocks) fun catalog id => catalog.exactBlocks.lookup id

abbrev schedulerClient : LoadOnce.Client Raised CachedSchedulers (Except Bytes HttpResponse) CatalogRequest :=
  client dump (ascii "scheduler") schedulerToJson (·.schedulers) fun catalog id => catalog.exactSchedulers.lookup id

variable {dump kind toJson}

theorem catalogRoute_of_id {find : Bytes → Option α} {encoded id : Bytes} (hid : decodePercentEncoded encoded = .ok id) :
    catalogRoute dump kind find toJson encoded =
      (catalogGet kind find id >>= fun entry => raiseStd (setJsonResponse dump (toJson entry) 200)) := by
  unfold catalogRoute
  rw [hid]
  rfl

theorem serveCatalog_eq {σ β : Type} {list : σ → Except Raised (List α) × σ}
    {get : σ → Bytes → Except Raised α × σ} {listed : κ → List α} {find : κ → Bytes → Option α} {service : Option κ → σ}
    {build : β → κ} {source : Except Raised β} {kept : Option κ}
    (hlist : list (service kept) = ((LoadOnce.load build source kept).1.map listed,
      service (LoadOnce.load build source kept).2))
    (hget : ∀ id, get (service kept) id = ((LoadOnce.load build source kept).1 >>= fun catalog =>
      catalogGet kind (find catalog) id, service (LoadOnce.load build source kept).2))
    (request : CatalogRequest) :
    serveCatalog dump list get (fun entries => .array (entries.map toJson)) toJson (service kept) request =
      ((LoadOnce.call (client dump kind toJson listed find) build kept request source).1,
        service (LoadOnce.call (client dump kind toJson listed find) build kept request source).2) := by
  dsimp only [LoadOnce.call, client]
  cases request with
  | list =>
    dsimp only [serveCatalog, refuse]
    rw [hlist]
    cases (LoadOnce.load build source kept).1 <;> rfl
  | get encoded =>
    dsimp only [serveCatalog, refuse]
    cases hid : decodePercentEncoded encoded with
    | error what => rfl
    | ok id =>
      dsimp only
      rw [hget]
      cases (LoadOnce.load build source kept).1 with
      | error raised => rfl
      | ok catalog =>
        dsimp only [reply]
        rw [catalogRoute_of_id hid]
        rfl

theorem serveBlocks_eq (answer : BlockCatalogService.ProviderAnswer) (kept : Option CachedCatalog)
    (request : CatalogRequest) :
    serveBlocks dump answer ⟨kept⟩ request =
      ((LoadOnce.call (blockClient dump) buildCatalog kept request answer).1,
        ⟨(LoadOnce.call (blockClient dump) buildCatalog kept request answer).2⟩) := by
  have hcached : BlockCatalogService.catalog answer ⟨kept⟩ =
      ((LoadOnce.load buildCatalog answer kept).1, ⟨(LoadOnce.load buildCatalog answer kept).2⟩) := by
    cases kept with
    | some catalog => rfl
    | none => cases answer <;> rfl
  refine serveCatalog_eq ?_ (fun id => ?_) request
  · exact congrArg (fun loaded : Except Raised CachedCatalog × BlockCatalogService =>
      (loaded.1.map (·.browseBlocks), loaded.2)) hcached
  · unfold BlockCatalogService.get
    dsimp only
    rw [hcached]
    cases (LoadOnce.load buildCatalog answer kept).1 with
    | error raised => rfl
    | ok catalog =>
      dsimp only [bind, Except.bind, catalogGet]
      cases catalog.exactBlocks.lookup id <;> rfl

theorem serveSchedulers_eq (answer : SchedulerCatalogService.ProviderAnswer) (kept : Option CachedSchedulers)
    (request : CatalogRequest) :
    serveSchedulers dump answer ⟨kept⟩ request =
      ((LoadOnce.call (schedulerClient dump) buildSchedulers kept request answer).1,
        ⟨(LoadOnce.call (schedulerClient dump) buildSchedulers kept request answer).2⟩) := by
  have hcached : SchedulerCatalogService.catalog answer ⟨kept⟩ =
      ((LoadOnce.load buildSchedulers answer kept).1, ⟨(LoadOnce.load buildSchedulers answer kept).2⟩) := by
    cases kept with
    | some catalog => rfl
    | none => cases answer <;> rfl
  refine serveCatalog_eq ?_ (fun id => ?_) request
  · exact congrArg (fun loaded : Except Raised CachedSchedulers × SchedulerCatalogService =>
      (loaded.1.map (·.schedulers), loaded.2)) hcached
  · unfold SchedulerCatalogService.get
    dsimp only
    rw [hcached]
    cases (LoadOnce.load buildSchedulers answer kept).1 with
    | error raised => rfl
    | ok catalog =>
      dsimp only [bind, Except.bind, catalogGet]
      cases catalog.exactSchedulers.lookup id <;> rfl

theorem responses_eq {σ β : Type} {serve : Except Raised β → σ → CatalogRequest → Except Bytes HttpResponse × σ}
    {client : LoadOnce.Client Raised κ (Except Bytes HttpResponse) CatalogRequest} {build : β → κ} {service : Option κ → σ}
    (hserve : ∀ answer kept request, serve answer (service kept) request =
      ((LoadOnce.call client build kept request answer).1, service (LoadOnce.call client build kept request answer).2))
    (kept : Option κ) (calls : List (CatalogRequest × Except Raised β)) :
    responses serve (service kept) calls = LoadOnce.replies client build kept calls := by
  induction calls generalizing kept with
  | nil => rfl
  | cons call calls ih =>
    obtain ⟨request, answer⟩ := call
    rw [responses, hserve, LoadOnce.replies]
    exact congrArg _ (ih _)

/-! ### The catalogs -/

def Sends (dump : Json → Except Bytes Bytes) (body : Json) (response : Except Bytes HttpResponse) : Prop :=
  ∃ text, dump body = .ok text ∧ response = .ok ⟨200, ascii "application/json", text⟩

def Apologizes (dump : Json → Except Bytes Bytes) (response : Except Bytes HttpResponse) : Prop :=
  ∃ text, dump internalError = .ok text ∧ response = .ok ⟨500, ascii "application/json", text⟩

/-- A missing entry is told with the status 404 if its id is UTF-8 up to a NUL, and else nothing comes out of the handler. -/
inductive Misses (dump : Json → Except Bytes Bytes) (kind id : Bytes) : Except Bytes HttpResponse → Prop
  | told {text} : validUtf8 (cString id) = true →
      dump (errorBody (ascii "not_found") (kind ++ ascii " not found: " ++ cString id)) = .ok text →
      Misses dump kind id (.ok ⟨404, ascii "application/json", text⟩)
  | untold {what} : validUtf8 (cString id) = false → Misses dump kind id (.error what)

variable (dump kind toJson)

inductive Answered (idOf : α → Bytes) (entries listed : List α) (sent : Json → Except Bytes HttpResponse → Prop) :
    CatalogRequest → Except Bytes HttpResponse → Prop
  | listed {response} : sent (.array (listed.map toJson)) response → Answered idOf entries listed sent .list response
  | found {encoded entry response} : entry ∈ entries → decodePercentEncoded encoded = .ok (idOf entry) →
      sent (toJson entry) response → Answered idOf entries listed sent (.get encoded) response
  | missing {encoded id response} : decodePercentEncoded encoded = .ok id → (∀ entry ∈ entries, idOf entry ≠ id) →
      Misses dump kind id response → Answered idOf entries listed sent (.get encoded) response
  | undecodable {encoded what response} : decodePercentEncoded encoded = .error what → Apologizes dump response →
      Answered idOf entries listed sent (.get encoded) response

inductive Unavailable {β : Type} : CatalogRequest → Except Raised β → Except Bytes HttpResponse → Prop
  | load {request raised} : refuse dump request = none →
      Unavailable request (.error raised) (handleException dump raised)
  | undecodable {encoded source what response} : decodePercentEncoded encoded = .error what → Apologizes dump response →
      Unavailable (.get encoded) source response

variable {dump kind toJson}

theorem apologizes (strict : Json.StrictDump dump) (what : Bytes) :
    Apologizes dump (handleException dump (.app (.stdException what))) := by
  obtain ⟨text, hdump⟩ := strict.ok (show internalError.printable by decide +kernel)
  have hresponse : handleException dump (.app (.stdException what)) =
      (do return (⟨500, ascii "application/json", ← dump internalError⟩ : HttpResponse)) := rfl
  refine ⟨text, hdump, ?_⟩
  rw [hresponse, hdump]
  rfl

theorem misses (strict : Json.StrictDump dump) (plain : ∀ byte ∈ kind, byte ≤ 0x7f) (whole : 0 ∉ kind) (id : Bytes) :
    Misses dump kind id (handleException dump (.app (.notFound (kind ++ ascii " not found: " ++ id)))) := by
  have hdump := strict (errorBody (ascii "not_found") (kind ++ ascii " not found: " ++ cString id))
  rw [printable_notFound plain] at hdump
  have hresponse : handleException dump (.app (.notFound (kind ++ ascii " not found: " ++ id))) =
      (do return (⟨404, ascii "application/json", ← dump (errorBody (ascii "not_found")
        (cString (kind ++ ascii " not found: " ++ id)))⟩ : HttpResponse)) := rfl
  rw [hresponse, cString_notFound whole]
  cases htext : dump (errorBody (ascii "not_found") (kind ++ ascii " not found: " ++ cString id)) with
  | error what =>
    rw [htext] at hdump
    exact .untold hdump.symm
  | ok text =>
    rw [htext] at hdump
    exact .told hdump.symm htext

theorem unavailable {β : Type} {listed : κ → List α} {find : κ → Bytes → Option α} {build : β → κ}
    {request : CatalogRequest} {source : Except Raised β} (strict : Json.StrictDump dump)
    (h : refuse dump request = none → ∃ err, source = .error err) :
    Unavailable dump request source ((client dump kind toJson listed find).answer (source.map build) request) := by
  have hload : refuse dump request = none →
      Unavailable dump request source (reply dump kind toJson listed find request (source.map build)) := by
    intro hrefuse
    obtain ⟨raised, rfl⟩ := h hrefuse
    exact .load hrefuse
  cases request with
  | list => exact hload rfl
  | get encoded =>
    dsimp only [LoadOnce.Client.answer, client, refuse] at hload ⊢
    cases hid : decodePercentEncoded encoded with
    | error what => exact .undecodable hid (apologizes strict what)
    | ok id =>
      rw [hid] at hload
      exact hload rfl

theorem answered {listed : κ → List α} {find : κ → Bytes → Option α} {catalog : κ} {idOf : α → Bytes} {entries : List α}
    {sent : Json → Except Bytes HttpResponse → Prop} (strict : Json.StrictDump dump) (plain : ∀ byte ∈ kind, byte ≤ 0x7f)
    (whole : 0 ∉ kind)
    (hlisted : sent (.array ((listed catalog).map toJson))
      (execute dump (raiseStd (setJsonResponse dump (.array ((listed catalog).map toJson)) 200))))
    (hentry : ∀ entry ∈ entries, sent (toJson entry) (execute dump (raiseStd (setJsonResponse dump (toJson entry) 200))))
    (hfound : ∀ entry ∈ entries, find catalog (idOf entry) = some entry)
    (hmissing : ∀ id, (∀ entry ∈ entries, idOf entry ≠ id) → find catalog id = none) (request : CatalogRequest) :
    Answered dump kind toJson idOf entries (listed catalog) sent request
      ((client dump kind toJson listed find).answer (.ok catalog) request) := by
  cases request with
  | list => exact .listed hlisted
  | get encoded =>
    dsimp only [LoadOnce.Client.answer, client, refuse]
    cases hid : decodePercentEncoded encoded with
    | error what => exact .undecodable hid (apologizes strict what)
    | ok id =>
      dsimp only [Option.getD_none, reply]
      rw [catalogRoute_of_id hid, catalogGet]
      by_cases hmem : ∃ entry ∈ entries, idOf entry = id
      · obtain ⟨entry, hmem, rfl⟩ := hmem
        rw [hfound entry hmem]
        exact .found hmem hid (hentry entry hmem)
      · have hnone : ∀ entry ∈ entries, idOf entry ≠ id := fun entry hentry heq => hmem ⟨entry, hentry, heq⟩
        rw [hmissing id hnone]
        exact .missing hid hnone (misses strict plain whole id)

theorem sends_of_printable {body : Json} (strict : Json.StrictDump dump) (h : body.printable = true) :
    Sends dump body (execute dump (raiseStd (setJsonResponse dump body 200))) := by
  obtain ⟨text, hdump⟩ := strict.ok h
  refine ⟨text, hdump, ?_⟩
  unfold setJsonResponse
  rw [hdump]
  rfl

def SendsText (dump : Json → Except Bytes Bytes) (body : Json) (response : Except Bytes HttpResponse) : Prop :=
  if body.printable then Sends dump body response else Apologizes dump response

theorem sendsText (strict : Json.StrictDump dump) (body : Json) :
    SendsText dump body (execute dump (raiseStd (setJsonResponse dump body 200))) := by
  unfold SendsText
  split
  · next h => exact sends_of_printable strict h
  · next h =>
    have hdump := strict body
    unfold setJsonResponse
    cases htext : dump body with
    | error what => exact apologizes strict what
    | ok text =>
      rw [htext] at hdump
      exact absurd hdump.symm h

open BlockReflection (Transmits arrived_of_result)
open ReflectionSetting (Outcome)

structure ListingAttempt (e : ReflectionSetting) where
  world : PluginWorld
  factory : BlockFactory
  reflect : Bytes → Except CatalogLoadError BlockDescriptor
  outcome : ∀ id ∈ world.blocks, Outcome { e with id := id, factory := factory } (reflect id)

namespace ListingAttempt

variable {e : ReflectionSetting} (attempt : ListingAttempt e)

def setting (id : Bytes) : ReflectionSetting := { e with id := id, factory := attempt.factory }

def answer : BlockCatalogService.ProviderAnswer := attempt.world.list attempt.reflect

variable {attempt} {blocks : List BlockDescriptor}

theorem printable_of_answer (strict : Json.StrictDump e.library.dump) (transmits : ∀ id, Transmits (attempt.setting id))
    (h : attempt.answer = .ok blocks) : (blocks.map (·.id)).Nodup ∧ ∀ block ∈ blocks, block.toJson.printable := by
  obtain ⟨-, rfl, -⟩ := list_eq_ok.mp h
  have hsent : ∀ id ∈ attempt.world.blocks, ∀ block, attempt.reflect id = .ok block →
      block.id = id ∧ block.toJson.printable := by
    intro id hid block hblock
    obtain ⟨s, hs, hr⟩ := attempt.outcome id hid
    have harrived := arrived_of_result (transmits id) hs (hr.trans (congrArg some hblock))
    refine ⟨id_of_arrived harrived, ?_⟩
    obtain ⟨reflected, -, hdump, rfl⟩ := harrived
    rw [BlockDescriptor.toJson_sent]
    exact Json.printable_readBack ((strict reflected.toJson).symm.trans hdump)
  refine ⟨?_, fun block hblock => ?_⟩
  · have hblocks : attempt.world.blocks.Pairwise (· < ·) := bytes_order.sortUnique_sorted
    have hsorted := reflectBlocks_sorted hblocks fun id hid block hblock => (hsent id hid block hblock).1
    exact List.pairwise_map.mpr (hsorted.imp fun {a b} hlt (heq : a.id = b.id) => List.lt_irrefl _ (heq ▸ hlt))
  · obtain ⟨id, hid, hblock⟩ := mem_reflectBlocks.mp hblock
    exact (hsent id hid block hblock).2

end ListingAttempt

/-- Whatever the provider comes across, the requests for blocks fail, each for its own reason, until it has listed its
blocks for one of them; from then on that list is browsed and looked into, and all of it can be printed. -/
theorem blocks_served {e : ReflectionSetting} (strict : Json.StrictDump e.library.dump)
    (calls : List (CatalogRequest × ListingAttempt e))
    (transmits : ∀ call ∈ calls, ∀ id, Transmits (call.2.setting id)) :
    LoadOnce.Loads (refuse e.library.dump · = none) (Unavailable e.library.dump)
      (fun blocks request response => BlockCatalogService.Browses blocks (buildCatalog blocks).browseBlocks ∧
        Answered e.library.dump (ascii "block") blockToJson (·.id) blocks (buildCatalog blocks).browseBlocks
          (Sends e.library.dump) request response)
      (calls.map fun call => (call.1, call.2.answer))
      (responses (serveBlocks e.library.dump) ⟨none⟩ (calls.map fun call => (call.1, call.2.answer))) := by
  rw [responses_eq serveBlocks_eq none]
  refine LoadOnce.loads_replies (fun request source h => unavailable strict h) fun call hcall blocks hanswer request => ?_
  obtain ⟨call, hmem, rfl⟩ := List.mem_map.mp hcall
  obtain ⟨hids, hprintable⟩ := ListingAttempt.printable_of_answer strict (transmits call hmem) hanswer
  have hbrowses := BlockCatalogService.browses_buildCatalog hids
  refine ⟨hbrowses, answered strict (by decide +kernel) (by decide +kernel) ?_ (fun block hblock => ?_) (fun block hblock => ?_)
    (fun id hid => ?_) request⟩
  · exact sends_of_printable strict
      (printable_blocksToJson fun block hblock => hprintable block (hbrowses.greatest block hblock).1)
  · exact sends_of_printable strict (printable_blockToJson (hprintable block hblock))
  · exact lookup_of_id hids hblock
  · exact lookup_of_no_id hids hid

open BlockReflection (gainModel gainSetting)

def emptyAttempt : ListingAttempt gainSetting where
  world := { gainWorld with pluginDirectories := [.ok []] }
  factory := gainSetting.factory
  reflect := gainReflect
  outcome := gainReflect_outcome

def gainAttempt : ListingAttempt gainSetting where
  world := gainWorld
  factory := gainSetting.factory
  reflect := gainReflect
  outcome := gainReflect_outcome

def gainRequests : List (CatalogRequest × ListingAttempt gainSetting) :=
  [(.list, emptyAttempt), (.get (ascii "%zz"), gainAttempt), (.list, gainAttempt),
    (.get (ascii "gr::math::Gain%3Cfloat32%3E"), emptyAttempt), (.get brokenId, gainAttempt)]

theorem blocks_served_gain :
    LoadOnce.Loads (refuse gainSetting.library.dump · = none) (Unavailable gainSetting.library.dump)
      (fun blocks request response => BlockCatalogService.Browses blocks (buildCatalog blocks).browseBlocks ∧
        Answered gainSetting.library.dump (ascii "block") blockToJson (·.id) blocks (buildCatalog blocks).browseBlocks
          (Sends gainSetting.library.dump) request response)
      (gainRequests.map fun call => (call.1, call.2.answer))
      (responses (serveBlocks gainSetting.library.dump) ⟨none⟩ (gainRequests.map fun call => (call.1, call.2.answer))) := by
  refine blocks_served (Json.strictDump_dump _) gainRequests fun call hcall => ?_
  simp only [gainRequests, List.mem_cons, List.not_mem_nil, or_false] at hcall
  rcases hcall with rfl | rfl | rfl | rfl | rfl <;> exact transmits_forBlock

variable {schedulers : List SchedulerDescriptor}

theorem schedulers_of_sorted (h : schedulers.Pairwise fun left right => left.id < right.id) :
    (buildSchedulers schedulers).schedulers = schedulers := by
  rw [buildSchedulers_schedulers]
  refine List.mergeSort_of_pairwise (h.imp fun {left right} hlt => ?_)
  simpa using bytes_order.asymm _ _ hlt

/-- Whatever the registry holds, the requests for schedulers fail, each for its own reason, until those under an alias
could be listed for one of them; from then on that list is given, in the order of its ids, and looked into. -/
theorem schedulers_served (strict : Json.StrictDump dump) (calls : List (CatalogRequest × SchedulerWorld)) :
    LoadOnce.Loads (refuse dump · = none) (Unavailable dump)
      (fun schedulers request response => schedulers.Pairwise (fun left right => left.id < right.id) ∧
        (∀ scheduler ∈ schedulers, isAliasSchedulerId scheduler.id) ∧
        Answered dump (ascii "scheduler") schedulerToJson (·.id) schedulers schedulers (SendsText dump) request response)
      (calls.map fun call => (call.1, call.2.list))
      (responses (serveSchedulers dump) ⟨none⟩ (calls.map fun call => (call.1, call.2.list))) := by
  rw [responses_eq serveSchedulers_eq none]
  refine LoadOnce.loads_replies (fun request source h => unavailable strict h) fun call hcall schedulers hlist request => ?_
  obtain ⟨call, -, rfl⟩ := List.mem_map.mp hcall
  obtain ⟨-, rfl, -⟩ := SchedulerWorld.list_eq_ok.mp hlist
  have hsorted : (call.2.schedulerIds.map SchedulerDescriptor.mk).Pairwise fun left right => left.id < right.id :=
    List.pairwise_map.mpr call.2.schedulerIds_sorted
  refine ⟨hsorted, fun scheduler hscheduler => ?_, ?_⟩
  · obtain ⟨id, hid, rfl⟩ := List.mem_map.mp hscheduler
    simpa [isAliasSchedulerId] using (SchedulerWorld.mem_schedulerIds.mp hid).2
  · have hanswered : Answered dump (ascii "scheduler") schedulerToJson (·.id) (call.2.schedulerIds.map (⟨·⟩))
        (buildSchedulers (call.2.schedulerIds.map (⟨·⟩))).schedulers (SendsText dump) request
        ((schedulerClient dump).answer (.ok (buildSchedulers (call.2.schedulerIds.map (⟨·⟩)))) request) :=
      answered strict (by decide +kernel) (by decide +kernel) (sendsText strict _) (fun _ _ => sendsText strict _)
        (fun scheduler hscheduler => buildSchedulers_lookup.trans (if_pos hscheduler))
        (fun id hid => buildSchedulers_lookup.trans (if_neg fun hmem => hid _ hmem rfl)) request
    rwa [schedulers_of_sorted hsorted] at hanswered

def simpleWorld : SchedulerWorld where
  pluginDirectories := gainWorld.pluginDirectories
  preload := .ok ()
  pluginStagingDirectory := .ok ()
  stagesPlugin _ := true
  pluginLoader := .ok []
  availableSchedulers := [ascii "gr::scheduler::Simple<singleThreaded>", ascii "gr::scheduler::SimpleSingle"]

def simpleRequests : List (CatalogRequest × SchedulerWorld) :=
  [(.list, { simpleWorld with pluginStagingDirectory := .error (.app (.stdException (ascii "filesystem error"))) }),
    (.get (ascii "%ff"), simpleWorld), (.list, simpleWorld), (.get (ascii "gr::scheduler::SimpleSingle"), simpleWorld)]

theorem schedulers_served_simple :
    LoadOnce.Loads (refuse (Json.dump wholeNumber) · = none) (Unavailable (Json.dump wholeNumber))
      (fun schedulers request response => schedulers.Pairwise (fun left right => left.id < right.id) ∧
        (∀ scheduler ∈ schedulers, isAliasSchedulerId scheduler.id) ∧
        Answered (Json.dump wholeNumber) (ascii "scheduler") schedulerToJson (·.id) schedulers schedulers
          (SendsText (Json.dump wholeNumber)) request response)
      (simpleRequests.map fun call => (call.1, call.2.list))
      (responses (serveSchedulers (Json.dump wholeNumber)) ⟨none⟩ (simpleRequests.map fun call => (call.1, call.2.list))) :=
  schedulers_served (Json.strictDump_dump _) simpleRequests

end CatalogRoutes

end Gr4ControlPlane
