import Gr4ControlPlane.App.BlockSettingsService
import Gr4ControlPlane.Runtime.Gr4RuntimeManager

namespace Gr4ControlPlane

structure RuntimeBlock where
  name : Bytes
  uniqueName : Bytes
  typeName : Bytes
  settings : PropertyMap

def RuntimeBlock.settingsName (block : RuntimeBlock) : Option Bytes :=
  (block.settings.find (ascii "name")).bind Value.valueToString

def describeRuntimeBlock (block : RuntimeBlock) : Bytes :=
  block.uniqueName ++
    (if block.name ≠ [] ∧ block.name ≠ block.uniqueName then ascii " (name=" ++ block.name ++ ascii ")" else []) ++
    (if block.typeName ≠ [] then ascii " [type=" ++ block.typeName ++ ascii "]" else []) ++
    match block.settingsName with
    | some name =>
      if name ≠ [] ∧ name ≠ block.uniqueName ∧ name ≠ block.name then ascii " [settings.name=" ++ name ++ ascii "]"
      else []
    | none => []

def summarizeRuntimeBlocks (root : List RuntimeBlock) : Bytes :=
  if root.isEmpty then ascii "<none>" else List.intercalate (ascii ", ") (root.map describeRuntimeBlock)

def makeBlockNotFoundError (root : List RuntimeBlock) (blockUniqueName : Bytes) : SettingsThrown :=
  .blockNotFound (ascii "block not found in running session: " ++ blockUniqueName ++
    ascii "; available runtime blocks: " ++ summarizeRuntimeBlocks root)

def resolveRuntimeBlock (root : List RuntimeBlock) (requestedBlockTarget : Bytes) : Option RuntimeBlock :=
  (root.find? fun block => block.name = requestedBlockTarget).or
    ((root.find? fun block => block.uniqueName = requestedBlockTarget).or
      (root.find? fun block => block.settingsName = some requestedBlockTarget))

inductive SettingsCommand
  | get | set
  deriving DecidableEq

structure SettingsRequest where
  command : SettingsCommand
  serviceName : Bytes
  endpoint : Bytes
  payload : PropertyMap

inductive SettingsExchange
  | requestPortFailed (what : Bytes)
  | responsePortFailed (what : Bytes)
  | timedOut
  | replied (data : Except Bytes PropertyMap)

def BlockSettingsMode.endpoint : BlockSettingsMode → Bytes
  | .staged => ascii "StagedSettings"
  | .immediate => ascii "Settings"

def sendBlockSettingsRequest (ports : SettingsRequest → SettingsExchange) (request : SettingsRequest) :
    Except SettingsThrown (Except Bytes PropertyMap) :=
  match ports request with
  | .requestPortFailed what => .error (.exception (ascii "failed to connect runtime request port: " ++ what))
  | .responsePortFailed what => .error (.exception (ascii "failed to connect runtime response port: " ++ what))
  | .timedOut =>
    .error (.replyTimeout (ascii "timed out waiting for runtime reply from block " ++ request.serviceName))
  | .replied data => .ok data

def parseSettingsReply (reply : Except Bytes PropertyMap) (blockUniqueName endpoint : Bytes) :
    Except SettingsThrown PropertyMap :=
  reply.mapError fun error => .exception (ascii "runtime returned error for block " ++ blockUniqueName ++
    ascii " " ++ endpoint ++ ascii ": " ++ error)

def SettingsThrown.ofThrown : Thrown → SettingsThrown
  | .exception what => .exception what
  | .unknown => .unknown

/-- The handlers of a settings call, which name the session in all but their own errors. -/
def rethrown (session : Session) (action : Bytes) : SettingsThrown → SettingsThrown
  | .exception what => .ofThrown (Gr4RuntimeManager.runtimeError session action (cString what))
  | err => err

namespace Gr4State

variable (σ : Gr4State) (scheduler : Option (List RuntimeBlock)) (ports : SettingsRequest → SettingsExchange)

def settingsBlock (action : Bytes) (session : Session) (blockTarget : Bytes) : Except SettingsThrown RuntimeBlock :=
  let failed (detail : Bytes) : Except SettingsThrown RuntimeBlock :=
    .error (.ofThrown (Gr4RuntimeManager.runtimeError session action detail))
  match σ.liveResources session, scheduler with
  | none, _ => failed (ascii "session runtime is not running")
  | some _, none => failed (ascii "scheduler does not expose a runtime block model")
  | some _, some root =>
    match resolveRuntimeBlock root blockTarget with
    | none => .error (makeBlockNotFoundError root blockTarget)
    | some block => .ok block

def settingsUpdate (session : Session) (blockTarget : Bytes) (patch : PropertyMap) (mode : BlockSettingsMode) :
    Except SettingsThrown SettingsRequest := do
  let block ← σ.settingsBlock scheduler (ascii "settings update") session blockTarget
  return { command := .set, serviceName := block.uniqueName, endpoint := mode.endpoint, payload := patch }

def settingsRead (session : Session) (blockTarget : Bytes) : Except SettingsThrown SettingsRequest := do
  let block ← σ.settingsBlock scheduler (ascii "settings read") session blockTarget
  return { command := .get, serviceName := block.uniqueName, endpoint := ascii "Settings", payload := [] }

def exchangeSettings (action : Bytes) (session : Session) (request : SettingsRequest) :
    Except SettingsThrown PropertyMap :=
  ((sendBlockSettingsRequest ports request).bind fun reply =>
    parseSettingsReply reply request.serviceName request.endpoint).mapError (rethrown session action)

def setBlockSettings (session : Session) (blockTarget : Bytes) (patch : PropertyMap) (mode : BlockSettingsMode) :
    Except SettingsThrown Unit := do
  let request ← σ.settingsUpdate scheduler session blockTarget patch mode
  let _ ← exchangeSettings ports (ascii "settings update") session request

def getBlockSettings (session : Session) (blockTarget : Bytes) : Except SettingsThrown PropertyMap := do
  let request ← σ.settingsRead scheduler session blockTarget
  exchangeSettings ports (ascii "settings read") session request

def blockSettings : BlockSettingsRuntime where
  setBlockSettings := σ.setBlockSettings scheduler ports
  getBlockSettings := σ.getBlockSettings scheduler ports

end Gr4State

structure Reached (root : List RuntimeBlock) (block : RuntimeBlock) : Prop where
  resolved : resolveRuntimeBlock root block.uniqueName = some block
  updated : ∀ (σ : Gr4State) session patch mode request,
    σ.settingsUpdate (some root) session block.uniqueName patch mode = .ok request →
      request.serviceName = block.uniqueName
  read : ∀ (σ : Gr4State) session request,
    σ.settingsRead (some root) session block.uniqueName = .ok request → request.serviceName = block.uniqueName

/-- No block is named by the unique name of another, unless it comes after one that is so named itself. -/
def Unshadowed (root : List RuntimeBlock) : Prop :=
  ∀ before block after, root = before ++ block :: after →
    (∀ other ∈ before, other.name ≠ block.uniqueName) ∧
      (block.name ≠ block.uniqueName → ∀ other ∈ after, other.name ≠ block.uniqueName)

section resolution

variable {root before after : List RuntimeBlock} {block other : RuntimeBlock} {target : Bytes} {σ : Gr4State}
  {action : Bytes} {session : Session}

theorem resolveRuntimeBlock_of_named (h : root.find? (fun block => block.name = target) = some block) :
    resolveRuntimeBlock root target = some block := by
  rw [resolveRuntimeBlock, h, Option.some_or]

theorem resolveRuntimeBlock_of_not_named (h : ∀ other ∈ root, other.name ≠ target)
    (hblock : root.find? (fun block => block.uniqueName = target) = some block) :
    resolveRuntimeBlock root target = some block := by
  have hnone : root.find? (fun block => block.name = target) = none := by
    rw [List.find?_eq_none]
    intro other hother
    simpa using h other hother
  rw [resolveRuntimeBlock, hnone, Option.none_or, hblock, Option.some_or]

theorem resolveRuntimeBlock_named (h : ∃ other ∈ before, other.name = target) :
    ∃ block ∈ before, resolveRuntimeBlock (before ++ after) target = some block ∧ block.name = target := by
  obtain ⟨block, hblock⟩ : ∃ block, before.find? (fun block => block.name = target) = some block := by
    rw [← Option.isSome_iff_exists, List.find?_isSome]
    simpa using h
  have hname := List.find?_some hblock
  refine ⟨block, List.mem_of_find?_eq_some hblock, resolveRuntimeBlock_of_named ?_, by simpa using hname⟩
  rw [List.find?_append, hblock, Option.some_or]

theorem settingsBlock_of_ok (h : σ.settingsBlock (some root) action session target = .ok block) :
    resolveRuntimeBlock root target = some block := by
  unfold Gr4State.settingsBlock at h
  dsimp only at h
  cases hlive : σ.liveResources session with
  | none =>
    rw [hlive] at h
    cases h
  | some resources =>
    rw [hlive] at h
    dsimp only at h
    cases hblock : resolveRuntimeBlock root target with
    | none =>
      rw [hblock] at h
      cases h
    | some found =>
      rw [hblock] at h
      cases h
      rfl

theorem reached_of_resolved (h : resolveRuntimeBlock root block.uniqueName = some block) : Reached root block := by
  have hfound : ∀ {σ : Gr4State} {action session found},
      σ.settingsBlock (some root) action session block.uniqueName = .ok found → found = block := by
    intro σ action session found hfound
    rw [settingsBlock_of_ok hfound, Option.some.injEq] at h
    exact h
  constructor
  · exact h
  · intro σ session patch mode request hrequest
    obtain ⟨found, hblock, hrequest⟩ := bind_eq_ok hrequest
    cases hrequest
    rw [hfound hblock]
  · intro σ session request hrequest
    obtain ⟨found, hblock, hrequest⟩ := bind_eq_ok hrequest
    cases hrequest
    rw [hfound hblock]

theorem not_mem_of_unique (hunique : ((before ++ block :: after).map (·.uniqueName)).Nodup)
    (hother : other ∈ before ∨ other ∈ after) : other.uniqueName ≠ block.uniqueName := by
  rw [List.map_append, List.map_cons, List.nodup_middle, List.nodup_cons, ← List.map_append] at hunique
  intro heq
  exact hunique.1 (heq ▸ List.mem_map_of_mem (List.mem_append.mpr hother))

theorem find_split {α : Type} {p : α → Bool} {before after : List α} {a : α} (hbefore : ∀ b ∈ before, p b = false)
    (ha : p a = true) : (before ++ a :: after).find? p = some a := by
  rw [List.find?_append, List.find?_eq_none.mpr (by simpa using hbefore), Option.none_or, List.find?_cons, ha]

end resolution

/-- Every block is reached by its unique name exactly if no name shadows one. -/
theorem block_settings_reach_unique_name {root : List RuntimeBlock}
    (hunique : (root.map (·.uniqueName)).Nodup) : (∀ block ∈ root, Reached root block) ↔ Unshadowed root := by
  constructor
  · rintro hreached before block after rfl
    have hresolved := (hreached block (by simp)).resolved
    refine ⟨fun other hother hname => ?_, fun hblock other hother hname => ?_⟩
    · obtain ⟨found, hmem, hfound, -⟩ := resolveRuntimeBlock_named ⟨other, hother, hname⟩
      rw [hresolved, Option.some.injEq] at hfound
      exact not_mem_of_unique hunique (.inl hmem) (hfound ▸ rfl)
    · obtain ⟨found, -, hfound, hnamed⟩ :=
        @resolveRuntimeBlock_named _ [] _ ⟨other, List.mem_append_right before (.tail block hother), hname⟩
      rw [List.append_nil, hresolved, Option.some.injEq] at hfound
      exact hblock (hfound ▸ hnamed)
  · intro hnames block hblock
    obtain ⟨before, after, rfl⟩ := List.append_of_mem hblock
    obtain ⟨hbefore, hafter⟩ := hnames before block after rfl
    apply reached_of_resolved
    by_cases hname : block.name = block.uniqueName
    · exact resolveRuntimeBlock_of_named (find_split (by simpa using hbefore) (by simpa using hname))
    · have hnone : ∀ other ∈ before ++ block :: after, other.name ≠ block.uniqueName := by
        intro other hother
        rcases List.mem_append.mp hother with hother | hother
        · exact hbefore other hother
        · rcases List.mem_cons.mp hother with rfl | hother
          · exact hname
          · exact hafter hname other hother
      refine resolveRuntimeBlock_of_not_named hnone (find_split ?_ (by simp))
      intro other hother
      simpa using not_mem_of_unique hunique (.inl hother)

def runningAdder (name uniqueName : String) : RuntimeBlock where
  name := ascii name
  uniqueName := ascii uniqueName
  typeName := ascii "gr::math::Add"
  settings := [(ascii "name", .string (ascii name))]

theorem block_settings_reach_unique_name_distinct :
    let root := [runningAdder "left" "add#0", runningAdder "right" "add#1"]
    (root.map (·.uniqueName)).Nodup ∧ ∀ block ∈ root, Reached root block := by
  intro root
  have hunique : (root.map (·.uniqueName)).Nodup := by decide
  refine ⟨hunique, (block_settings_reach_unique_name hunique).mpr ?_⟩
  -- no name is a unique name at all
  have hnames : ∀ block ∈ root, ∀ other ∈ root, other.name ≠ block.uniqueName := by decide
  intro before block after heq
  have hblock : block ∈ root := by simp [heq]
  exact ⟨fun other hother => hnames block hblock other (by simp [heq, hother]),
    fun _ other hother => hnames block hblock other (by simp [heq, hother])⟩

theorem block_settings_reach_named_block :
    let root := [runningAdder "add#1" "add#0", runningAdder "right" "add#1"]
    (root.map (·.uniqueName)).Nodup ∧
      (resolveRuntimeBlock root (ascii "add#1")).map (·.uniqueName) = some (ascii "add#0") ∧
      ¬ ∀ block ∈ root, Reached root block := by
  intro root
  have hresolved : (resolveRuntimeBlock root (ascii "add#1")).map (·.uniqueName) = some (ascii "add#0") := by decide
  refine ⟨by decide, hresolved, fun h => ?_⟩
  have hreached := (h (runningAdder "right" "add#1") (by simp [root])).resolved
  have hname : (runningAdder "right" "add#1").uniqueName = ascii "add#1" := rfl
  rw [hname] at hreached
  rw [hreached] at hresolved
  exact absurd hresolved (by decide)

end Gr4ControlPlane
