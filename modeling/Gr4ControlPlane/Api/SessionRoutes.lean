import Gr4ControlPlane.Api.ErrorResponses
import Gr4ControlPlane.Api.StreamRoutes
import Gr4ControlPlane.App.SessionCalls
import Gr4ControlPlane.Interleaving.Rely

open Gr4ControlPlane.Interleaving

namespace Gr4ControlPlane

def streamToJson (stream : BrowserStreamDescriptor) : Json :=
  .object [(ascii "block_instance_name", .string stream.blockInstanceName), (ascii "id", .string stream.id),
    (ascii "path", .string stream.path), (ascii "payload_format", .string stream.payloadFormat),
    (ascii "ready", .boolean stream.ready), (ascii "transport", .string stream.transport)]

def streamPlanToJson (plan : StreamRuntimePlan) : Json :=
  .array (plan.streams.map fun stream => streamToJson (toBrowserStreamDescriptor stream))

/-- The members stand in the order of their keys. -/
def sessionToJson (session : Session) (streamPlan : Option StreamRuntimePlan) : Json :=
  .object <|
    [(ascii "created_at", .string (formatTimestampUtc session.createdAt)), (ascii "id", .string session.id),
      (ascii "last_error", session.lastError.elim .null .string), (ascii "name", .string session.name)] ++
    (session.schedulerAlias.map fun id => (ascii "scheduler_id", .string id)).toList ++
    [(ascii "state", .string session.state.toString)] ++
    (streamPlan.map fun plan => (ascii "streams", streamPlanToJson plan)).toList ++
    [(ascii "updated_at", .string (formatTimestampUtc session.updatedAt))]

theorem sessionToJson_state (session : Session) (streamPlan : Option StreamRuntimePlan) :
    (sessionToJson session streamPlan).member (ascii "state") = some (.string session.state.toString) := by
  unfold sessionToJson
  cases session.schedulerAlias <;> rfl

theorem sessionToJson_streams (session : Session) (streamPlan : Option StreamRuntimePlan) :
    (sessionToJson session streamPlan).member (ascii "streams") = streamPlan.map streamPlanToJson := by
  unfold sessionToJson
  cases session.schedulerAlias <;> cases streamPlan <;> rfl

def sessionEntries : List Session → List (Option StreamRuntimePlan) → List Json
  | [], _ => []
  | session :: sessions, [] => sessionToJson session none :: sessionEntries sessions []
  | session :: sessions, plan :: plans => sessionToJson session plan :: sessionEntries sessions plans

def sessionsToJson (sessions : List Session) (streamPlans : List (Option StreamRuntimePlan)) : Json :=
  .array (sessionEntries sessions streamPlans)

inductive ClientRequest
  | call (call : SessionCall)
  | getSessions
  | getSession (id : Bytes)
  deriving DecidableEq

inductive ClientResult
  | result (result : CallResult)
  | body (body : Json)

namespace SessionRoutes

open SessionService

variable {R : Interface}

def streamPlansOf : List Session → Call R (List (Option StreamRuntimePlan))
  | [] => return []
  | session :: sessions => do
    let plan ← Call.activeStreamPlan session.id
    return plan :: (← streamPlansOf sessions)

def getSessions : Call R Json := do
  let sessions ← Call.list
  let streamPlans ← streamPlansOf sessions
  return sessionsToJson sessions streamPlans

def getSession (id : Bytes) : Call R Json := do
  let session ← Call.get id
  return sessionToJson session (← Call.activeStreamPlan session.id)

def serve (rm : RuntimeManager R) : ClientRequest → Call R ClientResult
  | .call call => do return .result (← dispatch rm call)
  | .getSessions => do return .body (← getSessions)
  | .getSession id => do return .body (← getSession id)

def respond (dump : Json → Except Bytes Bytes) (result : Except AppError Json) : Except Bytes HttpResponse :=
  execute dump (do raiseStd (setJsonResponse dump (← result.mapError .app) 200))

/-- The sessions of which a request has the record, but has still to ask for the streams. -/
def pending : Trace (callInterface R) → List Session
  | [] => []
  | ⟨.inl (.inl .list), sessions⟩ :: _ => sessions
  | ⟨.inl (.inl (.get _)), .ok session⟩ :: _ => [session]
  | ⟨.inl (.inl (.planGate _)), _⟩ :: t => (pending t).tail
  | _ :: t => pending t

variable {M : RuntimeMachine R} (rm : RuntimeManager R) (streams : StreamMachine M)

abbrev clientSystem : System (callInterface R) := callSystem rm streams fun request => (serve rm request).run

/-- What a request relies on about each session it has the record of, and what it then can say of
the streams it is given for it; `fails` is what has to be the case for an exception. -/
structure Reading where
  keeps : Session → SessionService → Prop
  fits : Session → Option StreamRuntimePlan → Prop
  fails : Prop
  starts : ∀ {s service}, service.repository.get s.id = some s → keeps s service
  closed : ∀ {s service}, keeps s service → service.planGate s.id = .ok none → fits s none
  opened : ∀ {s service session}, keeps s service → service.planGate s.id = .ok (some session) → ∀ plan, fits s plan
  missing : ∀ {s service err}, keeps s service → service.planGate s.id = .error err → fails
  throws : ∀ {session e σ thrown σ'}, streams.exec (.activeStreamPlan session) e σ = some (.error thrown, σ') → fails

variable {rm streams} {G : Reading streams}
  {rely : Trace (callInterface R) → SessionService × M.State → SessionService × M.State → Prop}
  {t : Trace (callInterface R)} {σ : SessionService × M.State} {s : Session} {sessions : List Session}

def Relies (G : Reading streams)
    (rely : Trace (callInterface R) → SessionService × M.State → SessionService × M.State → Prop) : Prop :=
  ∀ {t σ τ}, rely t σ τ → ∀ s ∈ pending t, G.keeps s σ.1 → G.keeps s τ.1

section

variable (hrely : Relies G rely)
include hrely

theorem keeps_all {τ : SessionService × M.State} (h : ∀ s ∈ pending t, G.keeps s σ.1) (hr : rely t σ τ) :
    ∀ s ∈ pending t, G.keeps s τ.1 := fun s hs => hrely hr s hs (h s hs)

theorem activeStreamPlan_assured {Q : Except AppError (Option StreamRuntimePlan) → Trace (callInterface R) →
      SessionService × M.State → Prop} (hp : pending t = s :: sessions) (hk : ∀ s' ∈ pending t, G.keeps s' σ.1)
    (hok : ∀ plan t' τ, G.fits s plan → pending t' = sessions → t <:+ t' → (∀ s' ∈ pending t', G.keeps s' τ.1) →
      Q (.ok plan) t' τ)
    (herr : G.fails → ∀ err t' τ, Q (.error err) t' τ) :
    (Call.activeStreamPlan s.id).run.Assured (clientSystem rm streams) rely Q t σ := by
  apply Action.assured_bind
  apply Program.Assured.step (keeps_all hrely) hk
  intro e r τ τ' hk hr
  obtain ⟨rfl, rfl⟩ := Prod.mk.inj (Option.some.inj hr)
  have hs : G.keeps s τ.1 := hk s (hp ▸ List.mem_cons_self)
  have htail : pending (⟨.inl (.inl (.planGate s.id)), τ.1.planGate s.id⟩ :: t : Trace (callInterface R)) = sessions :=
    congrArg List.tail hp
  have hkept : ∀ s' ∈ sessions, G.keeps s' τ.1 := fun s' hs' => hk s' (hp ▸ List.mem_cons_of_mem s hs')
  change Program.Assured _ _ _ (.ret (τ.1.planGate s.id)) _ _
  generalize hgate : τ.1.planGate s.id = gate at htail
  match gate with
  | .error err => exact herr (G.missing hs hgate) _ _ _
  | .ok none => exact hok none _ _ (G.closed hs hgate) htail (List.suffix_cons ..) (htail ▸ hkept)
  | .ok (some session) =>
    apply Action.assured_bind
    apply Program.Assured.step (keeps_all hrely) (htail ▸ hkept)
    intro e r τ₁ τ₂ hk hr
    obtain ⟨⟨answer, runtime⟩, hanswer, heq⟩ := Option.map_eq_some_iff.mp hr
    obtain ⟨rfl, rfl⟩ := Prod.mk.inj heq
    match answer with
    | .error thrown => exact herr (G.throws hanswer) _ _ _
    | .ok plan =>
      exact hok plan _ _ (G.opened hs hgate plan) htail ((List.suffix_cons ..).trans (List.suffix_cons ..)) hk

def Reading.Found (G : Reading streams) (sessions : List Session) (t : Trace (callInterface R)) :
    Except AppError (List (Option StreamRuntimePlan)) → Trace (callInterface R) → SessionService × M.State → Prop
  | .error _, _, _ => G.fails
  | .ok plans, t', _ => t <:+ t' ∧ List.Forall₂ G.fits sessions plans

theorem streamPlansOf_assured (hp : pending t = sessions) (hk : ∀ s ∈ pending t, G.keeps s σ.1) :
    (streamPlansOf sessions).run.Assured (clientSystem rm streams) rely (G.Found sessions t) t σ := by
  induction sessions generalizing t σ with
  | nil => exact ⟨List.suffix_rfl, .nil⟩
  | cons s sessions ih =>
    apply Action.assured_bind
    apply activeStreamPlan_assured hrely hp hk _ fun hfails _ _ _ => hfails
    intro plan t' τ hfits hp' hsuffix hk'
    apply Action.assured_bind
    apply (ih hp' hk').mono
    intro r t'' _ hr
    match r, hr with
    | .error err, hfails => exact hfails
    | .ok plans, ⟨hsuffix', hplans⟩ => exact ⟨hsuffix.trans hsuffix', .cons hfits hplans⟩

def listed (t : Trace (callInterface R)) : Option (List Session) :=
  match t.getLast? with
  | some ⟨.inl (.inl .list), sessions⟩ => some sessions
  | _ => none

def Reading.Answers (G : Reading streams) : ClientRequest → Except AppError ClientResult → Trace (callInterface R) → Prop
  | .getSessions, .error _, _ => G.fails
  | .getSessions, .ok r, t => ∃ sessions plans, listed t = some sessions ∧ List.Forall₂ G.fits sessions plans ∧
      r = .body (sessionsToJson sessions plans)
  | .getSession _, .ok r, _ => ∃ session plan, G.fits session plan ∧ r = .body (sessionToJson session plan)
  | _, _, _ => True

theorem getSessions_assured (σ : SessionService × M.State) :
    (serve rm .getSessions).run.Assured (clientSystem rm streams) rely
      (fun r t _ => G.Answers .getSessions r t) [] σ := by
  apply Action.assured_bind
  apply Action.assured_bind
  apply Program.Assured.step (P := fun _ => True) (fun _ _ => trivial) trivial
  intro e sessions τ τ' _ hr
  obtain ⟨rfl, rfl⟩ := Prod.mk.inj (Option.some.inj hr)
  have hk : ∀ s ∈ τ.1.list, G.keeps s τ.1 := fun s hs => G.starts (mem_list.mp hs)
  apply Action.assured_bind
  apply (streamPlansOf_assured (t := [⟨.inl (.inl .list), τ.1.list⟩]) hrely rfl hk).mono
  intro r t _ hr
  match r, hr with
  | .error err, hfails => exact hfails
  | .ok plans, ⟨⟨t₀, ht⟩, hplans⟩ =>
    refine ⟨τ.1.list, plans, ?_, hplans, rfl⟩
    rw [← ht, listed, List.getLast?_concat]

theorem getSession_assured (id : Bytes) (σ : SessionService × M.State) :
    (serve rm (.getSession id)).run.Assured (clientSystem rm streams) rely
      (fun r t _ => G.Answers (.getSession id) r t) [] σ := by
  apply Action.assured_bind
  apply Action.assured_bind
  apply Program.Assured.step (P := fun _ => True) (fun _ _ => trivial) trivial
  intro e loaded τ τ' _ hr
  obtain ⟨rfl, rfl⟩ := Prod.mk.inj (Option.some.inj hr)
  change Program.Assured _ _ _ (.ret (τ.1.loadOrThrow id)) _ _
  generalize hload : τ.1.loadOrThrow id = loaded
  match loaded with
  | .error err => trivial
  | .ok session =>
    have hget := loadOrThrow_eq_ok.mp hload
    have hid : session.id = id := InMemorySessionRepository.id_of_get hget
    have hp : pending ([⟨.inl (.inl (.get id)), τ.1.loadOrThrow id⟩] : Trace (callInterface R)) = [session] := by
      rw [hload]
      rfl
    apply Action.assured_bind
    apply activeStreamPlan_assured hrely hp
    · intro s hs
      obtain rfl := List.mem_singleton.mp (hp ▸ hs)
      exact G.starts (hid.symm ▸ hget)
    · exact fun plan _ _ hfits _ _ _ => ⟨session, plan, hfits, rfl⟩
    · exact fun _ _ _ _ => trivial

end

end SessionRoutes

end Gr4ControlPlane
