import Gr4ControlPlane.Api.SessionListings
import Gr4ControlPlane.Domain.Timestamps

open Gr4ControlPlane.Interleaving

namespace Gr4ControlPlane.SessionRoutes

open SessionService

structure Dated (now : Timestamp) (s : Session) : Prop where
  first : -2 ^ 63 ≤ s.createdAt
  order : s.createdAt ≤ s.updatedAt
  last : s.updatedAt ≤ now

def AllDated (now : Timestamp) (service : SessionService) : Prop :=
  ∀ x s, (service.slot x).record = some s → Dated now s

section

variable {service service' : SessionService} {past now : Timestamp} {s : Session} {x : Bytes}

theorem Dated.mono (h : Dated past s) (hle : past ≤ now) : Dated now s := ⟨h.first, h.order, h.last.trans hle⟩

theorem Dated.touch {state : SessionState} {lastError : Option Bytes} (h : Dated past s) (hle : past ≤ now) :
    Dated now { s with state := state, lastError := lastError, updatedAt := now } :=
  ⟨h.first, h.order.trans (h.last.trans hle), Int.le_refl now⟩

theorem AllDated.of_sameBut (h : AllDated past service) (hle : past ≤ now) (hsame : service.SameBut x service')
    (hx : ∀ s, (service'.slot x).record = some s → Dated now s) : AllDated now service' := by
  intro y s hs
  by_cases hy : y = x
  · subst hy
    exact hx s hs
  · rw [hsame y hy] at hs
    exact (h y s hs).mono hle

theorem create_dated {draw : UInt64} {name grc : Bytes} {schedulerAlias : Option Bytes}
    {outcome : Except AppError (Session × SessionService)} (hnow : -2 ^ 63 ≤ now) (h : AllDated past service)
    (hle : past ≤ now) (hcreate : service.create draw name grc schedulerAlias now = some outcome) :
    AllDated now (service.settle outcome).2 := by
  have hsame := (create_outcome hcreate).2
  have hold : AllDated now service := fun x s hs => (h x s hs).mono hle
  unfold create at hcreate
  split at hcreate
  · cases hcreate
    exact hold
  · dsimp only at hcreate
    cases hget : service.repository.get (generateSessionId draw) with
    | some s =>
      rw [hget] at hcreate
      cases hcreate
    | none =>
      rw [hget, InMemorySessionRepository.create_of_get hget] at hcreate
      cases hcreate
      refine h.of_sameBut hle hsame fun s hs => ?_
      cases InMemorySessionRepository.get_put.symm.trans hs
      exact ⟨hnow, Int.le_refl now, Int.le_refl now⟩

theorem exec_dated {c : ServiceCmd} {r : serviceInterface.Ans c} (hnow : -2 ^ 63 ≤ now) (h : AllDated past service)
    (hle : past ≤ now) (hexec : service.exec now c = some (r, service')) : AllDated now service' := by
  have hold : AllDated now service := fun x s hs => (h x s hs).mono hle
  cases c with
  | create draw name grc schedulerAlias =>
    obtain ⟨outcome, hcreate, heq⟩ := Option.map_eq_some_iff.mp hexec
    have hdated := create_dated hnow h hle hcreate
    rwa [heq] at hdated
  | admission op id =>
    obtain ⟨hadmits, hsame⟩ := admission_outcome op id service
    have heq : service.settle (service.admission op id) = (r, service') := Option.some.inj hexec
    rw [heq] at hadmits hsame
    exact h.of_sameBut hle hsame fun s hs => hold id s (hadmits.keeps_record ▸ hs)
  | fail id message =>
    have heq : service.settle (service.recordRuntimeFailure id message now) = (r, service') := Option.some.inj hexec
    cases hrec : (service.slot id).record with
    | none =>
      rw [recordRuntimeFailure_of_missing hrec] at heq
      cases heq
      exact hold
    | some s =>
      obtain ⟨service', hfail, hslot, hsame⟩ := recordRuntimeFailure_of_stored message now hrec
      rw [hfail, settle_ok] at heq
      cases heq
      refine h.of_sameBut hle hsame fun s' hs' => ?_
      rw [hslot] at hs'
      cases hs'
      exact (h id s hrec).touch hle
  | commit op id =>
    have heq : service.settle (service.commit op id now) = (r, service') := Option.some.inj hexec
    cases hrec : (service.slot id).record with
    | none =>
      rw [commit_of_missing op hrec] at heq
      cases heq
      exact hold
    | some s =>
      obtain ⟨service', hcommit, hslot, hsame⟩ := commit_of_stored op now hrec
      rw [hcommit, settle_ok] at heq
      cases heq
      refine h.of_sameBut hle hsame fun s' hs' => ?_
      rw [hslot] at hs'
      cases op with
      | remove => cases hs'
      | start | stop | restart =>
        cases hs'
        exact (h id s hrec).touch hle

theorem list_sorted (service : SessionService) :
    service.list.Pairwise fun left right => left.createdAt ≤ right.createdAt := by
  unfold list
  induction service.repository.sessions using Finmap.induction_on with
  | H sessions =>
    rw [Finmap.liftOn_toFinmap, List.pairwise_map]
    refine (List.pairwise_insertionSort inOrder _).imp fun hle => ?_
    rcases inOrder_iff.mp hle with hlt | ⟨heq, -⟩
    · exact Int.le_of_lt hlt
    · exact Int.le_of_eq heq

end

variable {R : Interface} {M : RuntimeMachine R} {rm : RuntimeManager R} {streams : StreamMachine M}

def clock : Label (clientSystem rm streams) → Timestamp
  | .invoke _ e | .run _ e => e.now

def Told (sessions : List Session) : Prop :=
  (sessions.Pairwise fun left right => left.createdAt ≤ right.createdAt) ∧ ∀ s ∈ sessions, Dated (2 ^ 63 - 1) s

def toldAnswers : (c : (callInterface R).Cmd) → (callInterface R).Ans c → Prop
  | .inl (.inl .list), sessions => Told sessions
  | _, _ => True

section

variable {σ σ' : SessionService × M.State} {e : Env M.Env} {past : Timestamp}

theorem command_dated {c : (callInterface R).Cmd} {r : (callInterface R).Ans c} (hnow : -2 ^ 63 ≤ e.now)
    (hmax : e.now < 2 ^ 63) (h : AllDated past σ.1) (hle : past ≤ e.now)
    (hexec : (clientSystem rm streams).exec c e σ = some (r, σ')) : AllDated e.now σ'.1 ∧ toldAnswers c r := by
  have hold : AllDated e.now σ.1 := fun x s hs => (h x s hs).mono hle
  match c, r, hexec with
  | .inl (.inl c), r, hexec =>
    obtain ⟨rfl, rfl⟩ := Prod.mk.inj (Option.some.inj hexec)
    refine ⟨hold, ?_⟩
    cases c with
    | list =>
      refine ⟨list_sorted _, fun s hs => ?_⟩
      have hdated := hold s.id s (mem_list.mp hs)
      exact hdated.mono (Int.le_sub_one_of_lt hmax)
    | get id | planGate id | streamGate id => trivial
  | .inl (.inr c), r, hexec =>
    obtain ⟨p, -, heq⟩ := Option.map_eq_some_iff.mp hexec
    obtain ⟨-, rfl⟩ := Prod.mk.inj heq
    exact ⟨hold, trivial⟩
  | .inr (.inl c), r, hexec =>
    obtain ⟨⟨r', service'⟩, hc, heq⟩ := Option.map_eq_some_iff.mp hexec
    obtain ⟨-, rfl⟩ := Prod.mk.inj heq
    exact ⟨exec_dated hnow h hle hc, trivial⟩
  | .inr (.inr c), r, hexec =>
    obtain ⟨p, -, heq⟩ := Option.map_eq_some_iff.mp hexec
    obtain ⟨-, rfl⟩ := Prod.mk.inj heq
    exact ⟨hold, trivial⟩

end

variable {c c' : Config (clientSystem rm streams)} {l : Label (clientSystem rm streams)}
  {ls : List (Label (clientSystem rm streams))} {past : Timestamp}

def AllTold (c : Config (clientSystem rm streams)) : Prop := ∀ th ∈ c.threads, ∀ ev ∈ th.trace, toldAnswers ev.1 ev.2

theorem step_dated (hs : c.step l = some c') (hnow : -2 ^ 63 ≤ clock l) (hmax : clock l < 2 ^ 63)
    (h : AllDated past c.shared.1) (hle : past ≤ clock l) (htold : AllTold c) :
    AllDated (clock l) c'.shared.1 ∧ AllTold c' := by
  have hadvance : ∀ {th th' : Thread (clientSystem rm streams)}, (∀ ev ∈ th.trace, toldAnswers ev.1 ev.2) →
      ∀ {e}, e.now = clock l → th.advance e c.shared = some (th', c'.shared) →
        AllDated (clock l) c'.shared.1 ∧ ∀ ev ∈ th'.trace, toldAnswers ev.1 ev.2 := by
    intro th th' htrace e he hadv
    obtain ⟨cmd, k, r, -, hexec, rfl⟩ := Thread.advance_cases hadv
    rw [← he] at hnow hmax hle ⊢
    obtain ⟨hdated, hanswer⟩ := command_dated hnow hmax h hle hexec
    exact ⟨hdated, List.forall_mem_cons.mpr ⟨hanswer, htrace⟩⟩
  cases l with
  | invoke op e =>
    obtain ⟨th, hadv, hths⟩ := Config.step_invoke hs
    obtain ⟨hdated, htrace⟩ := hadvance (fun ev hev => by cases hev) rfl hadv
    refine ⟨hdated, fun u hu => ?_⟩
    rcases Config.mem_invoke (hths ▸ hu) with hu | rfl
    · exact htold u hu
    · exact htrace
  | run i e =>
    obtain ⟨th, th', hat, hadv, hths⟩ := Config.step_run hs
    obtain ⟨hdated, htrace⟩ := hadvance (htold th (List.mem_of_getElem? hat)) rfl hadv
    refine ⟨hdated, fun u hu => ?_⟩
    rcases List.mem_or_eq_of_mem_set (hths ▸ hu) with hu | rfl
    · exact htold u hu
    · exact htrace

theorem run_told (hrun : c.run ls = some c') (hforward : (past :: ls.map clock).Pairwise (· ≤ ·))
    (hrange : ∀ l ∈ ls, -2 ^ 63 ≤ clock l ∧ clock l < 2 ^ 63) (h : AllDated past c.shared.1) (htold : AllTold c) :
    AllTold c' := by
  induction ls generalizing c past with
  | nil =>
    cases hrun
    exact htold
  | cons l ls ih =>
    obtain ⟨d, hstep, hrun⟩ := Option.bind_eq_some_iff.mp hrun
    obtain ⟨hnow, hrange⟩ := List.forall_mem_cons.mp hrange
    rw [List.map_cons, List.pairwise_cons] at hforward
    obtain ⟨hdated, htold⟩ := step_dated hstep hnow.1 hnow.2 h (hforward.1 _ List.mem_cons_self) htold
    exact ih hrun hforward.2 hrange hdated htold

theorem mem_of_listed {t : Trace (callInterface R)} {sessions : List Session} (h : listed t = some sessions) :
    ⟨.inl (.inl .list), sessions⟩ ∈ t := by
  unfold listed at h
  split at h
  · next hlast =>
    cases h
    exact List.mem_of_getLast? hlast
  · cases h

def anyReading (streams : StreamMachine M) : Reading streams where
  keeps _ _ := True
  fits _ _ := True
  fails := True
  starts _ := trivial
  closed _ _ := trivial
  opened _ _ _ := trivial
  missing _ _ := trivial
  throws _ := trivial

theorem listed_of_result (h : Reach (fun _ _ _ => True) ⟨(empty, M.init), []⟩ c) {th : Thread (clientSystem rm streams)}
    (hth : th ∈ c.threads) (hop : th.op = .getSessions) {entries : List Json}
    (hr : th.result = some (.ok (.body (.array entries)))) : ∃ sessions, listed th.trace = some sessions ∧
      List.Forall₂ (fun s entry => ∃ plan, entry = sessionToJson s plan) sessions entries := by
  have hall := reads_assured (anyReading streams) (fun _ => True) h fun _ _ _ _ _ _ _ _ _ => trivial
  have hanswers := (hall th hth).result hr trivial
  rw [hop] at hanswers
  obtain ⟨sessions, plans, hlisted, hplans, hbody⟩ := hanswers
  cases hbody
  exact ⟨sessions, hlisted, (entries_of_plans hplans).imp fun _ _ ⟨plan, _, heq⟩ => ⟨plan, heq⟩⟩

def textAt (key : Bytes) (entry : Json) : Option Bytes := (entry.member key).bind Json.text

theorem sessionToJson_times (s : Session) (plan : Option StreamRuntimePlan) :
    textAt (ascii "created_at") (sessionToJson s plan) = some (formatTimestampUtc s.createdAt) ∧
      textAt (ascii "updated_at") (sessionToJson s plan) = some (formatTimestampUtc s.updatedAt) := by
  unfold sessionToJson
  cases s.schedulerAlias <;> cases plan <;> exact ⟨rfl, rfl⟩

theorem formatTimestampUtc_le {timestamp timestamp' : Timestamp} (hmin : -2 ^ 63 ≤ timestamp) (hmax : timestamp' < 2 ^ 63)
    (h : timestamp ≤ timestamp') : formatTimestampUtc timestamp ≤ formatTimestampUtc timestamp' := by
  rcases Int.lt_or_eq_of_le (seconds_le h) with hlt | heq
  · exact List.le_of_lt (formatTimestampUtc_lt hmin hmax hlt)
  · rw [formatTimestampUtc_congr heq]
    exact List.le_refl _

theorem times_of_entries {sessions : List Session} {entries : List Json}
    (h : List.Forall₂ (fun s entry => ∃ plan, entry = sessionToJson s plan) sessions entries) :
    entries.map (fun entry => (textAt (ascii "created_at") entry, textAt (ascii "updated_at") entry)) =
      sessions.map fun s => (some (formatTimestampUtc s.createdAt), some (formatTimestampUtc s.updatedAt)) := by
  induction h with
  | nil => rfl
  | cons hentry _ ih =>
    obtain ⟨plan, rfl⟩ := hentry
    rw [List.map_cons, List.map_cons, ih, (sessionToJson_times _ plan).1, (sessionToJson_times _ plan).2]

structure ShowsInOrder (entries : List Json) (times : List (Bytes × Bytes)) : Prop where
  shown : entries.map (fun entry => (textAt (ascii "created_at") entry, textAt (ascii "updated_at") entry)) =
    times.map fun time => (some time.1, some time.2)
  created : times.Pairwise fun left right => left.1 ≤ right.1
  updated : ∀ time ∈ times, time.1 ≤ time.2

/-- Whatever clients do meanwhile, a listing shows its sessions in the order of their creation, as the texts of its times
have it, and every session as last changed no earlier than it was created, as long as the clock is not set back. -/
theorem listings_in_order (hrun : Config.run ⟨(empty, M.init), []⟩ ls = some c)
    (hforward : (ls.map clock).Pairwise (· ≤ ·)) (hrange : ∀ l ∈ ls, -2 ^ 63 ≤ clock l ∧ clock l < 2 ^ 63)
    {th : Thread (clientSystem rm streams)} (hth : th ∈ c.threads) (hop : th.op = .getSessions) {entries : List Json}
    (hr : th.result = some (.ok (.body (.array entries)))) :
    ∃ times, ShowsInOrder entries times := by
  have hinit : AllDated (-2 ^ 63) (empty, M.init).1 := fun x s hs => by cases hs
  have hstart : ((-2 ^ 63) :: ls.map clock).Pairwise (· ≤ ·) := by
    refine List.pairwise_cons.mpr ⟨fun now hnow => ?_, hforward⟩
    obtain ⟨l, hl, rfl⟩ := List.mem_map.mp hnow
    exact (hrange l hl).1
  have htold := run_told hrun hstart hrange hinit (fun th hth => by cases hth)
  obtain ⟨sessions, hlisted, hentries⟩ := listed_of_result (Reach.init.of_run hrun) hth hop hr
  obtain ⟨hsorted, hdated⟩ : Told sessions := htold th hth _ (mem_of_listed hlisted)
  have hmax : ∀ s ∈ sessions, s.updatedAt < 2 ^ 63 := fun s hs => Int.lt_of_le_sub_one (hdated s hs).last
  refine ⟨sessions.map fun s => (formatTimestampUtc s.createdAt, formatTimestampUtc s.updatedAt), ?_, ?_, ?_⟩
  · rw [times_of_entries hentries, List.map_map]
    rfl
  · refine List.pairwise_map.mpr (hsorted.imp_of_mem fun {left right} hleft hright hle => ?_)
    exact formatTimestampUtc_le (hdated left hleft).first
      (Int.lt_of_le_of_lt (hdated right hright).order (hmax right hright)) hle
  · intro time htime
    obtain ⟨s, hs, rfl⟩ := List.mem_map.mp htime
    exact formatTimestampUtc_le (hdated s hs).first (hmax s hs) (hdated s hs).order

def tellingRun : List (Label GraphSystem) :=
  [.invoke (.call (.request (.create 9 (ascii "am") sinkGraph none))) ⟨1709210096000000000, .ok ()⟩,
    .invoke (.call (.request (.create 7 (ascii "fm") sinkGraph none))) ⟨1709210096999999999, .ok ()⟩,
    .invoke (.call (.request (.lifecycle .start (generateSessionId 9)))) ⟨1709210097000000000, .ok ()⟩,
    .run 2 ⟨1709210098000000000, .ok ()⟩, .run 2 ⟨1709210098000000000, .ok ()⟩, .run 2 ⟨1709210099000000000, .ok ()⟩,
    .invoke .getSessions ⟨1709210099000000000, .ok ()⟩, .run 3 ⟨1709210099000000000, .ok ()⟩,
    .run 3 ⟨1709210099000000000, .ok ()⟩, .run 3 ⟨1709210099000000000, .ok ()⟩]

def telling : Config GraphSystem := (Config.run ⟨(empty, []), []⟩ tellingRun).get (by decide +kernel)

theorem run_telling : Config.run ⟨(empty, outcomeMachine.init), []⟩ tellingRun = some telling := (Option.some_get _).symm

theorem tellingRun_clock : (tellingRun.map clock).Pairwise (· ≤ ·) := by decide

theorem tellingRun_range : ∀ l ∈ tellingRun, -2 ^ 63 ≤ clock l ∧ clock l < 2 ^ 63 := by decide

def listingOf (th : Thread GraphSystem) : Option (List Json) :=
  match th.op, th.result.bind bodyOf with
  | .getSessions, some (.array entries) => some entries
  | _, _ => none

theorem listingOf_eq_some {th : Thread GraphSystem} {entries : List Json} (h : listingOf th = some entries) :
    th.op = .getSessions ∧ th.result = some (.ok (.body (.array entries))) := by
  unfold listingOf at h
  split at h
  · next hop hbody =>
    cases h
    obtain ⟨r, hr, hbody⟩ := Option.bind_eq_some_iff.mp hbody
    unfold bodyOf at hbody
    split at hbody
    · cases hbody
      exact ⟨hop, hr⟩
    · cases hbody
  · cases h

theorem telling_isSome : ((telling.threads[3]?).bind listingOf).isSome := by decide +kernel

attribute [irreducible] telling

theorem listings_in_order_telling :
    ∃ entries times, (telling.threads[3]?).bind listingOf = some entries ∧ ShowsInOrder entries times := by
  obtain ⟨entries, hentries⟩ := Option.isSome_iff_exists.mp telling_isSome
  obtain ⟨th, hth, hlisting⟩ := Option.bind_eq_some_iff.mp hentries
  obtain ⟨hop, hr⟩ := listingOf_eq_some hlisting
  obtain ⟨times, htimes⟩ :=
    listings_in_order run_telling tellingRun_clock tellingRun_range (List.mem_of_getElem? hth) hop hr
  exact ⟨entries, times, hentries, htimes⟩

end Gr4ControlPlane.SessionRoutes
