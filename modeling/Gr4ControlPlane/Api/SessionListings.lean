import Gr4ControlPlane.Api.SessionRoutes
import Gr4ControlPlane.Runtime.OutcomeRuntime

open Gr4ControlPlane.Interleaving

namespace Gr4ControlPlane.SessionRoutes

open SessionService

variable {R : Interface} {M : RuntimeMachine R} {rm : RuntimeManager R} {streams : StreamMachine M}
  {c c' : Config (clientSystem rm streams)} {l : Label (clientSystem rm streams)}

theorem step_service (hs : c.step l = some c') :
    c'.shared.1 = c.shared.1 ∨ ∃ cmd now r, c.next l = some (.inr (.inl cmd)) ∧
      c.shared.1.exec now cmd = some (r, c'.shared.1) := by
  obtain ⟨cmd, e, r, hnext, hexec⟩ := Config.step_next hs
  match cmd, r, hexec with
  | .inl (.inl _), _, hexec => exact .inl (congrArg Prod.fst (Prod.mk.inj (Option.some.inj hexec)).2.symm)
  | .inl (.inr _), _, hexec =>
    obtain ⟨p, -, heq⟩ := Option.map_eq_some_iff.mp hexec
    exact .inl (by rw [← (Prod.mk.inj heq).2])
  | .inr (.inl cmd), r, hexec =>
    obtain ⟨⟨r', service'⟩, hc, heq⟩ := Option.map_eq_some_iff.mp hexec
    obtain ⟨rfl, hσ⟩ := Prod.mk.inj heq
    refine .inr ⟨cmd, e.now, r', hnext, ?_⟩
    rw [← hσ]
    exact hc
  | .inr (.inr _), _, hexec =>
    obtain ⟨p, -, heq⟩ := Option.map_eq_some_iff.mp hexec
    exact .inl (by rw [← (Prod.mk.inj heq).2])

section

variable {G : Reading streams} {concerns : ClientRequest → Prop}
  {ok : Config (clientSystem rm streams) → Label (clientSystem rm streams) → Config (clientSystem rm streams) → Prop}

def relies (G : Reading streams) (concerns : ClientRequest → Prop) (request : ClientRequest)
    (t : Trace (callInterface R)) (σ τ : SessionService × M.State) : Prop :=
  concerns request → ∀ s ∈ pending t, G.keeps s σ.1 → G.keeps s τ.1

theorem body_assured (request : ClientRequest) (σ : SessionService × M.State) :
    ((clientSystem rm streams).body request).Assured (clientSystem rm streams) (relies G concerns request)
      (fun r t _ => concerns request → G.Answers request r t) [] σ := by
  by_cases hc : concerns request
  · have hrelies : Relies G (relies G concerns request) := fun hr => hr hc
    cases request with
    | call call => exact .of_forall fun r t _ _ => by cases r <;> trivial
    | getSessions => exact (getSessions_assured hrelies σ).mono fun _ _ _ h _ => h
    | getSession id => exact (getSession_assured hrelies id σ).mono fun _ _ _ h _ => h
  · exact .of_forall fun _ _ _ h => absurd h hc

variable (G concerns) in
theorem reads_assured {σ₀ : SessionService × M.State} (h : Reach ok ⟨σ₀, []⟩ c)
    (hok : ∀ {c l c'}, c.step l = some c' → ok c l c' → ∀ th ∈ c.threads, th.active → concerns th.op →
      ∀ s ∈ pending th.trace, G.keeps s c.shared.1 → G.keeps s c'.shared.1) :
    ∀ th ∈ c.threads, th.Assured (relies G concerns) (fun op r t => concerns op → G.Answers op r t) c.shared :=
  Reach.assured h body_assured fun hs ho th hth hact hc => hok hs ho th hth hact hc

end

theorem entries_of_plans {fits : Session → Option StreamRuntimePlan → Prop} {sessions : List Session}
    {plans : List (Option StreamRuntimePlan)} (h : List.Forall₂ fits sessions plans) :
    List.Forall₂ (fun s entry => ∃ plan, fits s plan ∧ entry = sessionToJson s plan) sessions
      (sessionEntries sessions plans) := by
  induction h with
  | nil => exact .nil
  | cons hfits _ ih => exact .cons ⟨_, hfits, rfl⟩ ih

theorem fits_of_mem_entries {fits : Session → Option StreamRuntimePlan → Prop} {sessions : List Session}
    {plans : List (Option StreamRuntimePlan)} (h : List.Forall₂ fits sessions plans) :
    ∀ entry ∈ sessionEntries sessions plans, ∃ s plan, fits s plan ∧ entry = sessionToJson s plan := by
  induction h with
  | nil => nofun
  | cons hfits _ ih =>
    intro entry hentry
    rcases List.mem_cons.mp hentry with rfl | hmem
    · exact ⟨_, _, hfits, rfl⟩
    · exact ih entry hmem

/-- The response has an entry for each session the listing began with, and is sent with status 200. -/
structure ListsAll (dump : Json → Except Bytes Bytes) (r : Except AppError ClientResult) (t : Trace (callInterface R))
    (sessions : List Session) (entries : List Json) : Prop where
  snapshot : listed t = some sessions
  body : r = .ok (.body (.array entries))
  each : List.Forall₂ (fun s entry => ∃ plan, entry = sessionToJson s plan) sessions entries
  status : ∃ text, dump (.array entries) = .ok text ∧
    respond dump (.ok (.array entries)) = .ok ⟨200, ascii "application/json", text⟩

/-- The runtime manager's own lookup does not throw. -/
def LooksUp (streams : StreamMachine M) : Prop :=
  ∀ session e σ r σ', streams.exec (.activeStreamPlan session) e σ = some (r, σ') → ∃ plan, r = .ok plan

/-- Nothing but its removal keeps a listing from having the streams of a session. -/
def storedReading (h : LooksUp streams) : Reading streams where
  keeps s service := (service.slot s.id).record.isSome
  fits _ _ := True
  fails := False
  starts hget := Option.isSome_iff_exists.mpr ⟨_, hget⟩
  closed _ _ := trivial
  opened _ _ _ := trivial
  missing hkept hgate := by
    have hnone := planGate_eq_error hgate
    simp [slot, hnone] at hkept
  throws hanswer := by
    obtain ⟨plan, hplan⟩ := h _ _ _ _ _ hanswer
    cases hplan

def removed : (callInterface R).Cmd → Option Bytes
  | .inr (.inl (.commit .remove id)) => some id
  | _ => none

/-- No session is removed while a listing has it and is still to ask for its streams. -/
def KeepsListed (c : Config (clientSystem rm streams)) (l : Label (clientSystem rm streams))
    (_ : Config (clientSystem rm streams)) : Prop :=
  ∀ id ∈ (c.next l).bind removed, ∀ th ∈ c.threads, th.op = .getSessions → th.active →
    ∀ s ∈ pending th.trace, s.id ≠ id

instance {c c' : Config (clientSystem rm streams)} {l : Label (clientSystem rm streams)} :
    Decidable (KeepsListed c l c') := by
  unfold KeepsListed
  infer_instance

theorem respond_ok {dump : Json → Except Bytes Bytes} {body : Json} {text : Bytes} (h : dump body = .ok text) :
    respond dump (.ok body) = .ok ⟨200, ascii "application/json", text⟩ := by
  simp [respond, Except.mapError, setJsonResponse, raiseStd, h, bind, Except.bind, pure, Except.pure, execute]

def Printable (sessions : List Session) : Prop := ∀ s ∈ sessions, (sessionToJson s none).printable

def PrintablePlan : Except Thrown (Option StreamRuntimePlan) → Prop
  | .ok (some plan) => (streamPlanToJson plan).printable
  | _ => True

instance decidablePrintable (sessions : List Session) : Decidable (Printable sessions) := by
  unfold Printable
  infer_instance

instance decidablePrintablePlan : (answer : Except Thrown (Option StreamRuntimePlan)) → Decidable (PrintablePlan answer)
  | .ok (some plan) => inferInstanceAs (Decidable ((streamPlanToJson plan).printable = true))
  | .ok none => inferInstanceAs (Decidable True)
  | .error _ => inferInstanceAs (Decidable True)

def shown : (cmd : (callInterface R).Cmd) → (callInterface R).Ans cmd → Prop
  | .inl (.inl .list), sessions => Printable sessions
  | .inl (.inr (.activeStreamPlan _)), answer => PrintablePlan answer
  | _, _ => True

instance : (cmd : (callInterface R).Cmd) → (r : (callInterface R).Ans cmd) → Decidable (shown cmd r)
  | .inl (.inl .list), sessions => decidablePrintable sessions
  | .inl (.inr (.activeStreamPlan _)), answer => decidablePrintablePlan answer
  | .inl (.inl (.get _)), _ | .inl (.inl (.planGate _)), _ | .inl (.inl (.streamGate _)), _
  | .inl (.inr (.fetchHttpStream ..)), _ | .inl (.inr (.resolveWebsocketStream ..)), _ | .inr _, _ =>
    inferInstanceAs (Decidable True)

/-- What a listing reads at the step is UTF-8. -/
def ReadsText (c : Config (clientSystem rm streams)) (l : Label (clientSystem rm streams))
    (_ : Config (clientSystem rm streams)) : Prop :=
  c.caller l = some .getSessions → ∀ cmd ∈ c.next l, ∀ p ∈ (clientSystem rm streams).exec cmd l.env c.shared,
    shown cmd p.1

instance {c c' : Config (clientSystem rm streams)} {l : Label (clientSystem rm streams)} :
    Decidable (ReadsText c l c') := by
  unfold ReadsText
  infer_instance

def Listable (c : Config (clientSystem rm streams)) (l : Label (clientSystem rm streams))
    (c' : Config (clientSystem rm streams)) : Prop :=
  KeepsListed c l c' ∧ ReadsText c l c'

instance {c c' : Config (clientSystem rm streams)} {l : Label (clientSystem rm streams)} :
    Decidable (Listable c l c') := by
  unfold Listable
  infer_instance

theorem printable_plan {s : Session} {plan : Option StreamRuntimePlan} (h : (sessionToJson s none).printable)
    (hplan : ∀ p ∈ plan, (streamPlanToJson p).printable) : (sessionToJson s plan).printable := by
  cases plan with
  | none => exact h
  | some p =>
    have hkey : validUtf8 (ascii "streams") = true := by decide +kernel
    have hp : (streamPlanToJson p).printable = true := hplan p rfl
    simp only [sessionToJson, Json.printable, Json.printableMembers_append, Json.printableMembers, Option.map_some,
      Option.map_none, Option.toList_some, Option.toList_none, Bool.and_true, hkey, hp] at h ⊢
    exact h

theorem printable_entries {sessions : List Session} {plans : List (Option StreamRuntimePlan)}
    (h : ∀ s ∈ sessions, (sessionToJson s none).printable)
    (hplans : ∀ plan ∈ plans, ∀ p ∈ plan, (streamPlanToJson p).printable) :
    ∀ entry ∈ sessionEntries sessions plans, entry.printable := by
  induction sessions generalizing plans with
  | nil => nofun
  | cons s sessions ih =>
    obtain ⟨hs, hsessions⟩ := List.forall_mem_cons.mp h
    cases plans with
    | nil => exact List.forall_mem_cons.mpr ⟨hs, ih hsessions hplans⟩
    | cons plan plans =>
      obtain ⟨hplan, hplans⟩ := List.forall_mem_cons.mp hplans
      exact List.forall_mem_cons.mpr ⟨printable_plan hs hplan, ih hsessions hplans⟩

def OkText {α : Type} (text : α → Prop) (r : Except AppError α) : Prop := ∀ a, r = .ok a → text a

theorem activeStreamPlan_text (id : Bytes) : (Call.activeStreamPlan id : Call R _).run.Ends shown
    (OkText fun plan => ∀ p ∈ plan, (streamPlanToJson p).printable) := by
  rintro (err | (_ | session)) -
  · nofun
  · rintro _ ⟨⟩
    nofun
  · rintro (thrown | (_ | plan)) htext
    · nofun
    · rintro _ ⟨⟩
      nofun
    · rintro _ ⟨⟩ p ⟨⟩
      exact htext

theorem streamPlansOf_text (sessions : List Session) : (streamPlansOf sessions : Call R _).run.Ends shown
    (OkText fun plans => ∀ plan ∈ plans, ∀ p ∈ plan, (streamPlanToJson p).printable) := by
  induction sessions with
  | nil =>
    rintro _ ⟨⟩
    nofun
  | cons s sessions ih =>
    apply Program.Ends.bind
    apply (activeStreamPlan_text s.id).mono
    rintro (err | plan) hplan
    · nofun
    · apply Program.Ends.bind
      apply ih.mono
      rintro (err | plans) hplans
      · nofun
      · rintro _ ⟨⟩
        exact List.forall_mem_cons.mpr ⟨hplan plan rfl, hplans plans rfl⟩

theorem getSessions_text (rm : RuntimeManager R) : (serve rm .getSessions).run.Ends shown
    (OkText fun result => ∀ body, result = .body body → body.printable) := by
  apply Program.Ends.bind
  apply Program.Ends.bind
  intro sessions hsessions
  apply Program.Ends.bind
  apply (streamPlansOf_text sessions).mono
  rintro (err | plans) hplans
  · nofun
  · rintro _ ⟨⟩ _ ⟨⟩
    exact Json.printable_array.mpr (printable_entries hsessions (hplans plans rfl))

def readsOnly : (callInterface R).Cmd → Prop
  | .inl (.inl _) | .inl (.inr (.activeStreamPlan _)) => True
  | _ => False

theorem activeStreamPlan_readsOnly (id : Bytes) :
    (Call.activeStreamPlan id : Call R _).run.All readsOnly fun _ _ => True := by
  refine ⟨trivial, fun r _ => ?_⟩
  rcases r with err | (_ | session)
  · trivial
  · trivial
  · refine ⟨trivial, fun r _ => ?_⟩
    rcases r with thrown | plan <;> trivial

theorem streamPlansOf_readsOnly (sessions : List Session) :
    (streamPlansOf sessions : Call R _).run.All readsOnly fun _ _ => True := by
  induction sessions with
  | nil => trivial
  | cons s sessions ih =>
    exact Program.all_bind (activeStreamPlan_readsOnly s.id) fun _ => Program.all_bind ih fun _ => trivial

theorem getSessions_readsOnly (rm : RuntimeManager R) : (serve rm .getSessions).run.All readsOnly fun _ _ => True := by
  refine Program.all_bind (Program.all_bind ⟨trivial, fun _ _ => trivial⟩ fun sessions => ?_) fun _ => trivial
  exact Program.all_bind (streamPlansOf_readsOnly sessions) fun _ => trivial

/-- Every listing answers for all the sessions it began with, and comes to its end on its own
unless the runtime manager keeps it waiting. -/
structure ListingsAnswer (dump : Json → Except Bytes Bytes) (c : Config (clientSystem rm streams)) : Prop where
  done : ∀ th ∈ c.threads, th.op = .getSessions → ∀ r, th.result = some r →
    ∃ sessions entries, ListsAll dump r th.trace sessions entries
  goesOn : (∀ session e σ, (streams.exec (.activeStreamPlan session) e σ).isSome) →
    ∀ (i : Nat) (th : Thread (clientSystem rm streams)), c.threads[i]? = some th → th.op = .getSessions →
      ∀ envs : Nat → Env M.Env, ∃ n c' th' r, c.run ((List.range n).map fun k => .run i (envs k)) = some c' ∧
        c'.threads[i]? = some th' ∧ th'.result = some r ∧
          (c.runOk ReadsText ((List.range n).map fun k => .run i (envs k)) = some c' →
            ∃ sessions entries, ListsAll dump r th'.trace sessions entries)

section

variable {dump : Json → Except Bytes Bytes}

variable (rm) in
theorem listsAll_of_answers {hlookup : LooksUp streams} (strict : Json.StrictDump dump)
    {r : Except AppError ClientResult} {t : Trace (callInterface R)}
    (hfollows : (serve rm .getSessions).run.Follows t (.ret r)) (htext : ∀ ev ∈ t, shown ev.1 ev.2)
    (h : (storedReading hlookup).Answers .getSessions r t) : ∃ sessions entries, ListsAll dump r t sessions entries := by
  match r, h with
  | .ok _, ⟨sessions, plans, hlisted, hplans, rfl⟩ =>
    have hprintable := (getSessions_text rm).follows hfollows htext _ rfl _ rfl
    obtain ⟨text, hdump⟩ := strict.ok hprintable
    refine ⟨sessions, _, hlisted, rfl, ?_, text, hdump, respond_ok hdump⟩
    exact (entries_of_plans hplans).imp fun _ _ ⟨plan, _, heq⟩ => ⟨plan, heq⟩

theorem step_keepsListed (hlookup : LooksUp streams) (hs : c.step l = some c') (hok : KeepsListed c l c') :
    ∀ th ∈ c.threads, th.active → th.op = .getSessions → ∀ s ∈ pending th.trace,
      (storedReading hlookup).keeps s c.shared.1 → (storedReading hlookup).keeps s c'.shared.1 := by
  intro th hth hact hop s hs' hkept
  rcases step_service hs with heq | ⟨cmd, now, r, hnext, hexec⟩
  · rw [heq]
    exact hkept
  · apply exec_stored hexec _ hkept
    rintro rfl
    have hremoved : s.id ∈ (c.next l).bind removed := by
      rw [hnext]
      rfl
    exact hok s.id hremoved th hth hop hact s hs' rfl

theorem heard_text {c₀ : Config (clientSystem rm streams)}
    {ok : Config (clientSystem rm streams) → Label (clientSystem rm streams) → Config (clientSystem rm streams) → Prop}
    (hok : ∀ {c l c'}, ok c l c' → ReadsText c l c') (h : Reach ok c₀ c)
    (hinit : ∀ th ∈ c₀.threads, th.op = .getSessions → ∀ ev ∈ th.trace, shown ev.1 ev.2) :
    ∀ th ∈ c.threads, th.op = .getSessions → ∀ ev ∈ th.trace, shown ev.1 ev.2 :=
  h.heard (fun op => op = .getSessions) hinit fun ho _ hcaller hlists => hok ho (hlists ▸ hcaller)

theorem reach_readsOnly
    {ok : Config (clientSystem rm streams) → Label (clientSystem rm streams) → Config (clientSystem rm streams) → Prop}
    (h : Reach ok ⟨(empty, M.init), []⟩ c) :
    ∀ th ∈ c.threads, th.op = .getSessions → th.prog.All readsOnly fun _ _ => True := by
  refine Reach.each h ?_ ?_
  · intro op hop
    cases op with
    | getSessions => exact getSessions_readsOnly rm
    | call | getSession => cases hop
  · intro th th' e σ σ' hth hadv hop
    obtain ⟨cmd, k, r, hp, -, rfl⟩ := Thread.advance_cases hadv
    have hleft := hth hop
    rw [hp] at hleft
    exact hleft.2 r trivial

theorem exec_readsOnly (hready : ∀ session e σ, (streams.exec (.activeStreamPlan session) e σ).isSome) :
    ∀ cmd, readsOnly cmd → ∀ e σ, ((clientSystem rm streams).exec cmd e σ).isSome := by
  intro cmd hcmd e σ
  match cmd, hcmd with
  | .inl (.inl _), _ => rfl
  | .inl (.inr (.activeStreamPlan session)), _ => simpa using hready session e.runtime σ.2

/-- While no session is removed that a listing has still to look up, and what it reads is text, no listing fails. -/
theorem listing_answers (strict : Json.StrictDump dump) (hlookup : LooksUp streams)
    (h : Reach Listable ⟨(empty, M.init), []⟩ c) : ListingsAnswer dump c := by
  have hall := reads_assured (storedReading hlookup) (· = .getSessions) h
    fun hs hok => step_keepsListed hlookup hs hok.1
  have htext := heard_text (fun hok => hok.2) h fun th hth => by cases hth
  constructor
  · intro th hth hop r hr
    have hans := (hall th hth).result hr hop
    have hfollows := h.follows th hth
    rw [Thread.prog_of_result hr, hop] at hfollows
    rw [hop] at hans
    exact listsAll_of_answers rm strict hfollows (htext th hth hop) hans
  · intro hready i th hi hop envs
    have hth := List.mem_of_getElem? hi
    have hends : (th.prog.alone (clientSystem rm streams) envs c.shared th.trace).isSome :=
      Program.alone_isSome_of_all (exec_readsOnly hready) (reach_readsOnly h th hth hop)
    obtain ⟨⟨r, σ', t'⟩, halone⟩ := Option.isSome_iff_exists.mp hends
    obtain ⟨n, es, hrun⟩ := Config.run_alone (c := c) hi halone
    have hans := Program.Assured.alone (hall th hth) halone hop
    rw [hop] at hans
    have hlt : i < c.threads.length := (List.getElem?_eq_some_iff.mp hi).1
    have hi' : (c.threads.set i ⟨th.op, .ret r, t', es⟩)[i]? = some ⟨th.op, .ret r, t', es⟩ := List.getElem?_set_self hlt
    refine ⟨n, _, ⟨th.op, .ret r, t', es⟩, r, hrun, hi', rfl, fun hgiven => ?_⟩
    have hmem := List.mem_of_getElem? hi'
    have htext' := heard_text id (.of_runOk .init hgiven) htext _ hmem hop
    have hfollows := ((h.mono fun _ _ _ _ => trivial).of_run hrun).follows _ hmem
    rw [hop] at hfollows
    exact listsAll_of_answers rm strict hfollows htext' hans

end

def graphStreams : StreamMachine outcomeMachine where
  exec
    | .activeStreamPlan session, _, seen => some (.ok (deriveStreamRuntimePlan sinkYaml session), seen)
    | .fetchHttpStream .., _, seen => some (.error .unknown, seen)
    | .resolveWebsocketStream .., _, seen => some (.error .unknown, seen)

theorem graphStreams_looksUp : LooksUp graphStreams := by
  intro session e σ r σ' h
  exact ⟨_, (Prod.mk.inj (Option.some.inj h)).1.symm⟩

abbrev GraphSystem : System (callInterface outcomeInterface) := clientSystem outcomeRuntime graphStreams

def listingRun (rest : List (Label GraphSystem)) : List (Label GraphSystem) :=
  [.invoke (.call (.request (.create 7 (ascii "fm") sinkGraph none))) ⟨1, .ok ()⟩,
    .invoke (.call (.request (.create 8 (ascii "am") sinkGraph none))) ⟨2, .ok ()⟩,
    .invoke (.call (.request (.lifecycle .remove (generateSessionId 8)))) ⟨3, .ok ()⟩,
    .run 2 ⟨4, .ok ()⟩, .invoke .getSessions ⟨5, .ok ()⟩, .run 3 ⟨6, .ok ()⟩] ++ rest

def lateRemoval : Config GraphSystem :=
  (Config.runOk Listable ⟨(empty, []), []⟩ (listingRun [.run 3 ⟨7, .ok ()⟩, .run 2 ⟨8, .ok ()⟩])).get
    (by decide +kernel)

theorem reach_lateRemoval : Reach Listable ⟨(empty, []), []⟩ lateRemoval :=
  .of_runOk .init (Option.some_get _).symm

theorem listing_answers_lateRemoval : ListingsAnswer (Json.dump fun _ => []) lateRemoval :=
  listing_answers (Json.strictDump_dump _) graphStreams_looksUp reach_lateRemoval

def earlyRemoval : Config GraphSystem :=
  (Config.run ⟨(empty, []), []⟩ (listingRun [.run 2 ⟨7, .ok ()⟩, .run 3 ⟨8, .ok ()⟩])).get (by decide +kernel)

theorem reach_earlyRemoval : Reach (fun _ _ _ => True) ⟨(empty, []), []⟩ earlyRemoval :=
  .of_run .init (Option.some_get _).symm

theorem earlyRemoval_fails : earlyRemoval.threads[3]?.map (fun th => (th.op, th.result.map Except.isOk)) =
    some (.getSessions, some false) := by
  decide +kernel

attribute [irreducible] earlyRemoval

theorem listing_fails :
    ¬ ∀ dump : Json → Except Bytes Bytes, Json.StrictDump dump →
      ∀ streams : StreamMachine outcomeMachine, LooksUp streams → ∀ c : Config (clientSystem outcomeRuntime streams),
        Reach (fun _ _ _ => True) ⟨(empty, []), []⟩ c → ListingsAnswer dump c := by
  intro answers
  have hdone := (answers (Json.dump fun _ => []) (Json.strictDump_dump _) graphStreams graphStreams_looksUp earlyRemoval
    reach_earlyRemoval).done
  obtain ⟨th, hi, hth⟩ := Option.map_eq_some_iff.mp earlyRemoval_fails
  obtain ⟨hop, hresult⟩ := Prod.mk.inj hth
  obtain ⟨r, hr, hfailed⟩ := Option.map_eq_some_iff.mp hresult
  obtain ⟨sessions, entries, hlists⟩ := hdone th (List.mem_of_getElem? hi) hop r hr
  rw [hlists.body] at hfailed
  cases hfailed

def sessionObjects : ClientRequest → Json → List Json
  | .getSessions, .array items => items
  | .getSession _, body => [body]
  | _, _ => []

def StreamsOnlyRunning (object : Json) : Prop :=
  (object.member (ascii "streams")).isSome → object.member (ascii "state") = some (.string (ascii "running"))

theorem streamsOnlyRunning_iff {s : Session} {plan : Option StreamRuntimePlan} :
    StreamsOnlyRunning (sessionToJson s plan) ↔ (plan.isSome → s.state = .running) := by
  unfold StreamsOnlyRunning
  rw [sessionToJson_streams, sessionToJson_state, Option.isSome_map]
  apply imp_congr_right
  intro _
  cases s.state <;> simp [SessionState.toString] <;> decide

def runningReading (streams : StreamMachine M) : Reading streams where
  keeps s service := s.state ≠ .running → ¬ service.Served s.id
  fits s plan := plan.isSome → s.state = .running
  fails := True
  starts hget hstate hserved := by
    obtain ⟨s', hgate⟩ := hserved
    obtain ⟨hget', hrun, -⟩ := streamGate_eq_ok.mp hgate
    obtain rfl := Option.some.inj (hget.symm.trans hget')
    exact hstate hrun
  closed _ _ := nofun
  opened hkept hgate _ _ := by
    by_contra hstate
    exact hkept hstate ⟨_, planGate_eq_some.mp hgate⟩
  missing _ _ := trivial
  throws _ := trivial

def started : (callInterface R).Cmd → Option Bytes
  | .inr (.inl (.commit .start id)) | .inr (.inl (.commit .restart id)) => some id
  | _ => none

/-- No session starts running while a request has read it as not running and is still to ask for
its streams. -/
def KeepsIdle (c : Config (clientSystem rm streams)) (l : Label (clientSystem rm streams))
    (_ : Config (clientSystem rm streams)) : Prop :=
  ∀ id ∈ (c.next l).bind started, ∀ th ∈ c.threads, th.active →
    ∀ s ∈ pending th.trace, s.id = id → s.state = .running

instance {c c' : Config (clientSystem rm streams)} {l : Label (clientSystem rm streams)} :
    Decidable (KeepsIdle c l c') := by
  unfold KeepsIdle
  infer_instance

theorem step_keepsIdle (hs : c.step l = some c') (hok : KeepsIdle c l c') :
    ∀ th ∈ c.threads, th.active → True → ∀ s ∈ pending th.trace,
      (runningReading streams).keeps s c.shared.1 → (runningReading streams).keeps s c'.shared.1 := by
  intro th hth hact _ s hs' hkept hstate
  rcases step_service hs with heq | ⟨cmd, now, r, hnext, hexec⟩
  · rw [heq]
    exact hkept hstate
  · have hidle : ∀ id, started (.inr (.inl cmd) : (callInterface R).Cmd) = some id → id ≠ s.id := by
      rintro id hid rfl
      have hstarted : s.id ∈ (c.next l).bind started := by
        rw [hnext]
        exact hid
      exact hstate (hok s.id hstarted th hth hact s hs' rfl)
    refine exec_not_served hexec ?_ ?_ (hkept hstate)
    · rintro rfl
      exact hidle s.id rfl rfl
    · rintro rfl
      exact hidle s.id rfl rfl

theorem objects_of_answers {request : ClientRequest} {body : Json} {t : Trace (callInterface R)}
    (h : (runningReading streams).Answers request (.ok (.body body)) t) :
    ∀ object ∈ sessionObjects request body, StreamsOnlyRunning object := by
  intro object hobject
  cases request with
  | call call => cases hobject
  | getSessions =>
    obtain ⟨sessions, plans, -, hplans, heq⟩ := h
    cases heq
    obtain ⟨s, plan, hfits, rfl⟩ := fits_of_mem_entries hplans object hobject
    exact streamsOnlyRunning_iff.mpr hfits
  | getSession id =>
    obtain ⟨s, plan, hfits, heq⟩ := h
    cases heq
    obtain rfl := List.mem_singleton.mp hobject
    exact streamsOnlyRunning_iff.mpr hfits

structure ResponsesAgree (c : Config (clientSystem rm streams)) : Prop where
  shown : ∀ th ∈ c.threads, ∀ body, th.result = some (.ok (.body body)) →
    ∀ object ∈ sessionObjects th.op body, StreamsOnlyRunning object

/-- While no session is started of which a request has read that it is not running, streams are
shown for running sessions only. -/
theorem streams_only_running (h : Reach KeepsIdle ⟨(empty, M.init), []⟩ c) : ResponsesAgree c := by
  constructor
  intro th hth body hr
  have hall := reads_assured (runningReading streams) (fun _ => True) h step_keepsIdle
  exact objects_of_answers ((hall th hth).result hr trivial)

def startingRun (rest : List (Label GraphSystem)) : List (Label GraphSystem) :=
  [.invoke (.call (.request (.create 7 (ascii "fm") sinkGraph none))) ⟨1, .ok ()⟩,
    .invoke (.call (.request (.lifecycle .start (generateSessionId 7)))) ⟨2, .ok ()⟩,
    .run 1 ⟨3, .ok ()⟩, .run 1 ⟨4, .ok ()⟩, .invoke (.getSession (generateSessionId 7)) ⟨5, .ok ()⟩] ++ rest

def lateStart : Config GraphSystem :=
  (Config.runOk KeepsIdle ⟨(empty, []), []⟩ (startingRun [.run 2 ⟨6, .ok ()⟩, .run 1 ⟨7, .ok ()⟩,
    .invoke .getSessions ⟨8, .ok ()⟩, .run 3 ⟨9, .ok ()⟩, .run 3 ⟨10, .ok ()⟩])).get (by decide +kernel)

theorem reach_lateStart : Reach KeepsIdle ⟨(empty, []), []⟩ lateStart := .of_runOk .init (Option.some_get _).symm

theorem streams_only_running_lateStart : ResponsesAgree lateStart := streams_only_running reach_lateStart

def earlyStart : Config GraphSystem :=
  (Config.run ⟨(empty, []), []⟩ (startingRun [.run 1 ⟨6, .ok ()⟩, .run 2 ⟨7, .ok ()⟩, .run 2 ⟨8, .ok ()⟩])).get
    (by decide +kernel)

theorem reach_earlyStart : Reach (fun _ _ _ => True) ⟨(empty, []), []⟩ earlyStart :=
  .of_run .init (Option.some_get _).symm

def bodyOf : Except AppError ClientResult → Option Json
  | .ok (.body body) => some body
  | _ => none

theorem earlyStart_op : earlyStart.threads[2]?.map (·.op) = some (.getSession (generateSessionId 7)) := by
  decide +kernel

theorem earlyStart_shows : (earlyStart.threads[2]?.bind fun th => th.result.bind bodyOf).map (fun body =>
    ((body.member (ascii "streams")).isSome, (body.member (ascii "state")).bind Json.text)) =
      some (true, some (ascii "stopped")) := by
  decide +kernel

attribute [irreducible] earlyStart

theorem stopped_session_shows_streams :
    ¬ ∀ (streams : StreamMachine outcomeMachine) (c : Config (clientSystem outcomeRuntime streams)),
      Reach (fun _ _ _ => True) ⟨(empty, []), []⟩ c → ResponsesAgree c := by
  intro agree
  obtain ⟨body, hbody, hshown⟩ := Option.map_eq_some_iff.mp earlyStart_shows
  obtain ⟨th, hi, hbody⟩ := Option.bind_eq_some_iff.mp hbody
  obtain ⟨r, hr, hbody⟩ := Option.bind_eq_some_iff.mp hbody
  obtain rfl : r = .ok (.body body) := by
    unfold bodyOf at hbody
    split at hbody
    · cases hbody
      rfl
    · cases hbody
  have hop : th.op = .getSession (generateSessionId 7) := by
    have hop := earlyStart_op
    rw [hi] at hop
    exact Option.some.inj hop
  obtain ⟨hstreams, hstate⟩ := Prod.mk.inj hshown
  have hobject : body ∈ sessionObjects th.op body := by
    rw [hop]
    exact List.mem_singleton_self body
  have hagree := agree graphStreams earlyStart reach_earlyStart
  have hrunning := hagree.shown th (List.mem_of_getElem? hi) body hr body hobject
  rw [hrunning hstreams] at hstate
  exact absurd hstate (by decide)

end Gr4ControlPlane.SessionRoutes
