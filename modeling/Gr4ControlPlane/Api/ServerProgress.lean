import Gr4ControlPlane.Api.ServerShutdown

open Gr4ControlPlane.Interleaving

namespace Gr4ControlPlane

def ServerLabel.own : ServerLabel → Bool
  | .callListen | .callStop => false
  | .listen _ | .stop .. | .connection .. => true
  | .bridge _ l => l.own

theorem WebSocketBridge.calls_length_step {b b' : WebSocketBridge} {l : BridgeLabel} (h : b.step l = some b') :
    b.closing.calls.length ≤ b'.closing.calls.length := by
  cases l with
  | run => cases runStep_cases h <;> simp [OneShot.call]
  | forward source io => cases forwardStep_cases h <;> simp [endForward, OneShot.call]
  | close =>
    cases h
    simp [OneShot.call]
  | closer j =>
    obtain ⟨closing, hc, rfl⟩ := Option.map_eq_some_iff.mp h
    exact Nat.le_of_eq (OneShot.length_step hc).symm

namespace HttpServer

structure Serving (s : HttpServer) : Prop where
  early : s.listener.early → s.stopping ∧ ∀ p ∈ s.stops, p = .exchanging ∨ p = .returned
  served : s.listener.early = false → s.stopping → s.internalServing = false ∨ .stoppingInternal ∈ s.stops
  stopped : ∀ p ∈ s.stops, p.past → s.internalServing = false

variable {s s' : HttpServer} {i k : Nat} {p p' : StopPoint} {c : Connection}

theorem mem_stops_set {q : StopPoint} (hp : s.stops[i]? = some p) (hq : q ∈ s.stops) (hne : q ≠ p) :
    q ∈ s.stops.set i p' := by
  obtain ⟨j, hj⟩ := List.mem_iff_getElem?.mp hq
  have hij : i ≠ j := by
    rintro rfl
    exact hne (Option.some.inj (hj.symm.trans hp))
  exact List.mem_of_getElem? ((List.getElem?_set_ne hij).trans hj)

theorem Serving.init : Serving .init where
  early _ := ⟨rfl, fun p hp => by cases hp⟩
  served h := by cases h
  stopped p hp := by cases hp

theorem Serving.restop (hs : Serving s) (hp : s.stops[i]? = some p) (hpast : p.past)
    (hstopping : s'.stopping = s.stopping) (hserving : s'.internalServing = s.internalServing)
    (hlistener : s'.listener = s.listener) (hstops : s'.stops = s.stops.set i p') : Serving s' := by
  have hmem := List.mem_of_getElem? hp
  refine ⟨fun hearly => ?_, fun hlate hstop => ?_, fun q hq hqpast => ?_⟩
  · rcases (hs.early (hlistener ▸ hearly)).2 p hmem with rfl | rfl <;> cases hpast
  · rw [hserving, hstops]
    refine (hs.served (hlistener ▸ hlate) (hstopping ▸ hstop)).imp_right fun hq => mem_stops_set hp hq ?_
    rintro rfl
    cases hpast
  · rw [hserving]
    exact hs.stopped p hmem hpast

theorem Serving.stop (hs : Serving s) (h : Stops s i s') : Serving s' := by
  have hself : ∀ {p p'}, s.stops[i]? = some p → p' ∈ s.stops.set i p' := fun hp =>
    List.mem_of_getElem? (List.getElem?_set_self (List.getElem?_eq_some_iff.mp hp).1)
  cases h with
  | again hp hstopping =>
    refine ⟨fun hearly => ⟨hstopping, fun q hq => ?_⟩, fun hlate _ => ?_, fun q hq hqpast => ?_⟩
    · exact (List.mem_or_eq_of_mem_set hq).elim ((hs.early hearly).2 q) .inr
    · exact (hs.served hlate hstopping).imp_right fun hq => mem_stops_set hp hq nofun
    · rcases List.mem_or_eq_of_mem_set hq with hq | rfl
      · exact hs.stopped q hq hqpast
      · cases hqpast
  | exchange hp hstopping =>
    refine ⟨fun hearly => ?_, fun _ _ => .inr (hself hp), fun q hq hqpast => ?_⟩
    · simp [(hs.early hearly).1] at hstopping
    · rcases List.mem_or_eq_of_mem_set hq with hq | rfl
      · exact hs.stopped q hq hqpast
      · cases hqpast
  | halt hp =>
    refine ⟨fun hearly => ?_, fun _ _ => .inl rfl, fun _ _ _ => rfl⟩
    rcases (hs.early hearly).2 _ (List.mem_of_getElem? hp) with h | h <;> cases h
  | snapshot hp | close hp | closed hp | collect hp | join hp => exact hs.restop hp rfl rfl rfl rfl rfl
  | goto hp hpast => exact hs.restop hp hpast rfl rfl rfl rfl

theorem Serving.relisten (hs : Serving s) (hlate : s.listener.early = false) (hlate' : s'.listener.early = false)
    (hstopping : s'.stopping = s.stopping) (hserving : s'.internalServing = s.internalServing)
    (hstops : s'.stops = s.stops) : Serving s' where
  early h := by simp [hlate'] at h
  served _ h := by
    rw [hserving, hstops]
    exact hs.served hlate (hstopping ▸ h)
  stopped p hp hpast := hserving.trans (hs.stopped p (hstops ▸ hp) hpast)

theorem Serving.listen (hs : Serving s) (h : Listens s s') : Serving s' := by
  have hspawns : ∀ {point : ListenPoint}, point.spawns → point.early = false := by
    intro point
    cases point <;> simp [ListenPoint.spawns, ListenPoint.early]
  have hdone : ∀ {point : ListenPoint}, point.done → point.early = false := by
    intro point
    cases point <;> simp [ListenPoint.done, ListenPoint.early]
  cases h with
  | start hpoint =>
    have hearly := hs.early (by rw [hpoint]; rfl)
    refine ⟨fun _ => hearly, fun h => (by cases h), fun p hp hpast => ?_⟩
    rcases hearly.2 p hp with rfl | rfl <;> cases hpast
  | enable hpoint =>
    have hearly := hs.early (by rw [hpoint]; rfl)
    refine ⟨fun h => (by cases h), fun _ h => (by cases h), fun p hp hpast => ?_⟩
    rcases hearly.2 p hp with rfl | rfl <;> cases hpast
  | goto h _ h' => exact hs.relisten (hspawns h) (hspawns h') rfl rfl rfl
  | spawn hpoint | collect hpoint | join hpoint => exact hs.relisten (by rw [hpoint]; rfl) rfl rfl rfl rfl
  | leave h h' => exact hs.relisten (hdone h) (hdone h') rfl rfl rfl

theorem Serving.local (hs : Serving s) (h : Local s s') : Serving s' where
  early hearly := by
    rw [h.stopping, h.stops]
    exact hs.early (h.listener ▸ hearly)
  served hlate hstop := by
    rw [h.serving, h.stops]
    exact hs.served (h.listener ▸ hlate) (h.stopping ▸ hstop)
  stopped p hp hpast := h.serving.trans (hs.stopped p (h.stops ▸ hp) hpast)

theorem Serving.step {l : ServerLabel} (hs : Serving s) (h : s.step l = some s') : Serving s' := by
  cases l with
  | callListen =>
    obtain ⟨hpoint, heq⟩ := Option.ite_none_right_eq_some.mp h
    cases heq
    have hearly := hs.early (by rw [hpoint]; rfl)
    exact ⟨fun _ => hearly, fun h => (by cases h), hs.stopped⟩
  | callStop =>
    cases h
    refine ⟨fun hearly => ⟨(hs.early hearly).1, fun p hp => ?_⟩, fun hlate hstop => ?_, fun p hp hpast => ?_⟩
    · rcases List.mem_append.mp hp with hp | hp
      · exact (hs.early hearly).2 p hp
      · exact .inl (List.mem_singleton.mp hp)
    · exact (hs.served hlate hstop).imp_right (List.mem_append_left _)
    · rcases List.mem_append.mp hp with hp | hp
      · exact hs.stopped p hp hpast
      · cases List.mem_singleton.mp hp
        cases hpast
  | listen io => exact hs.listen (listenStep_cases h)
  | stop i order => exact hs.stop (stopStep_cases h)
  | connection k io => exact hs.local (connectionStep_local h)
  | bridge k l => exact hs.local (bridgeStep_local h)

structure Placed (s : HttpServer) : Prop where
  threads : ∀ k ∈ s.connectionThreads, k < s.connections.length
  listener : ∀ k ∈ s.listener.threads, k < s.connections.length
  stops : ∀ p ∈ s.stops, ∀ k ∈ p.threads, k < s.connections.length
  calls : ∀ p ∈ s.stops, ∀ k call bridges, p = .inClose k call bridges →
    ∃ c, s.connections[k]? = some c ∧ call < c.bridge.closing.calls.length

theorem Placed.init : Placed .init where
  threads k hk := by cases hk
  listener k hk := by cases hk
  stops p hp := by cases hp
  calls p hp := by cases hp

theorem Placed.evolve (hp : Placed s) (hi : Inv s) (he : Evolves s s'.connections s'.activeBridges)
    (hlength : s.connections.length ≤ s'.connections.length)
    (hthreads : ∀ k ∈ s'.connectionThreads, k ∈ s.connectionThreads ∨ k < s'.connections.length)
    (hlistener : ∀ k ∈ s'.listener.threads, k ∈ s.listener.threads ∨ k ∈ s.connectionThreads)
    (hstops : ∀ p ∈ s'.stops, p ∈ s.stops ∨ (∀ k ∈ p.threads, k < s.connections.length) ∧
      ∀ k call bridges, p = .inClose k call bridges →
        ∃ c, s'.connections[k]? = some c ∧ call < c.bridge.closing.calls.length) : Placed s' := by
  refine ⟨fun k hk => ?_, fun k hk => ?_, fun p hmem k hk => ?_, fun p hmem k call bridges heq => ?_⟩
  · rcases hthreads k hk with hk | hk
    · exact Nat.lt_of_lt_of_le (hp.threads k hk) hlength
    · exact hk
  · refine Nat.lt_of_lt_of_le ?_ hlength
    rcases hlistener k hk with hk | hk
    · exact hp.listener k hk
    · exact hp.threads k hk
  · refine Nat.lt_of_lt_of_le ?_ hlength
    rcases hstops p hmem with hmem | ⟨hrange, -⟩
    · exact hp.stops p hmem k hk
    · exact hrange k hk
  · rcases hstops p hmem with hmem | ⟨-, hcalls⟩
    · obtain ⟨c, hc, hlt⟩ := hp.calls p hmem k call bridges heq
      obtain ⟨c', hc', hkept⟩ := he.kept hi hc
      refine ⟨c', hc', Nat.lt_of_lt_of_le hlt ?_⟩
      rcases hkept.bridge with h | ⟨l, h⟩
      · exact Nat.le_of_eq (by rw [h])
      · exact WebSocketBridge.calls_length_step h
    · exact hcalls k call bridges heq

theorem Placed.listen (hp : Placed s) (hi : Inv s) (h : Listens s s') : Placed s' := by
  have hmove : ∀ {t : HttpServer}, t.connections = s.connections → t.activeBridges = s.activeBridges →
      t.stops = s.stops → (∀ k ∈ t.connectionThreads, k ∈ s.connectionThreads) →
      (∀ k ∈ t.listener.threads, k ∈ s.listener.threads ∨ k ∈ s.connectionThreads) → Placed t :=
    fun hc ha hst ht hl => hp.evolve hi (.of_eq hc ha) (Nat.le_of_eq (by rw [hc])) (fun k hk => .inl (ht k hk)) hl
      fun q hq => .inl (hst ▸ hq)
  cases h with
  | start | enable => exact hmove rfl rfl rfl (fun _ => id) fun k hk => by cases hk
  | @goto point _ _ hspawns =>
    refine hmove rfl rfl rfl (fun _ => id) fun k hk => ?_
    cases point with
    | joining => cases hspawns
    | _ => cases hk
  | spawn hpoint =>
    refine hp.evolve hi .spawn (by simp) (fun k hk => ?_) (fun k hk => by cases hk) fun q => .inl
    rcases List.mem_append.mp hk with hk | hk
    · exact .inl hk
    · cases List.mem_singleton.mp hk
      exact .inr (by simp)
  | collect => exact hmove rfl rfl rfl (fun k hk => by cases hk) fun _ => .inr
  | join hpoint =>
    refine hmove rfl rfl rfl (fun _ => id) fun k hk => .inl ?_
    rw [hpoint]
    exact List.mem_cons_of_mem _ hk
  | @leave _ point _ hdone =>
    refine hmove rfl rfl rfl (fun _ => id) fun k hk => ?_
    simp only [ListenPoint.done, Bool.and_eq_true, List.isEmpty_iff] at hdone
    have hk' : k ∈ point.threads := hk
    rw [hdone.2] at hk'
    cases hk'

theorem Placed.stop (hp : Placed s) (hi : Inv s) (h : Stops s i s') : Placed s' := by
  have hset : ∀ {t : HttpServer} {p'}, Evolves s t.connections t.activeBridges →
      t.connections.length = s.connections.length → (∀ k ∈ t.connectionThreads, k ∈ s.connectionThreads) →
      t.listener = s.listener → t.stops = s.stops.set i p' → (∀ k ∈ p'.threads, k < s.connections.length) →
      (∀ k call bridges, p' = .inClose k call bridges →
        ∃ c, t.connections[k]? = some c ∧ call < c.bridge.closing.calls.length) → Placed t := by
    intro t p' he hlength ht hl hst hthreads hcalls
    refine hp.evolve hi he (Nat.le_of_eq hlength.symm) (fun k hk => .inl (ht k hk)) (fun k hk => .inl (hl ▸ hk)) fun q hq => ?_
    rw [hst] at hq
    rcases List.mem_or_eq_of_mem_set hq with hq | rfl
    · exact .inl hq
    · exact .inr ⟨hthreads, hcalls⟩
  cases h with
  | again | exchange | halt | snapshot | closed =>
    exact hset .same rfl (fun _ => id) rfl rfl (by simp [StopPoint.threads]) fun _ _ _ h => by cases h
  | @close j bridges c hat hj =>
    obtain ⟨d, hd, hreg⟩ := hi.closing _ (List.mem_of_getElem? hat) j List.mem_cons_self
    cases hd.symm.trans hj
    refine hset (.bridge (l := .close) hj hreg rfl) (by simp [setConnection, setStop]) (fun _ => id) rfl rfl
      (by simp [StopPoint.threads]) ?_
    rintro k call bridges ⟨⟩
    exact ⟨_, List.getElem?_set_self (List.getElem?_eq_some_iff.mp hj).1, by simp [OneShot.call]⟩
  | collect hat => exact hset .same rfl (fun k hk => by cases hk) rfl rfl hp.threads fun _ _ _ h => by cases h
  | join hat =>
    exact hset .same rfl (fun _ => id) rfl rfl
      (fun k hk => hp.stops _ (List.mem_of_getElem? hat) k (List.mem_cons_of_mem _ hk)) fun _ _ _ h => by cases h
  | @goto p p' _ _ hat _ _ hthreads hbridges =>
    refine hset .same rfl (fun _ => id) rfl rfl (by simp [hthreads]) ?_
    rintro k call bridges rfl
    cases hbridges

theorem Placed.step {l : ServerLabel} (hp : Placed s) (hi : Inv s) (h : s.step l = some s') : Placed s' := by
  have hlocal : Local s s' → Placed s' := fun hl =>
    hp.evolve hi hl.evolves (Nat.le_of_eq hl.length.symm) (fun k hk => .inl (hl.threads ▸ hk))
      (fun k hk => .inl (hl.listener ▸ hk)) fun q hq => .inl (hl.stops ▸ hq)
  cases l with
  | callListen =>
    obtain ⟨hpoint, heq⟩ := Option.ite_none_right_eq_some.mp h
    cases heq
    exact ⟨hp.threads, fun k hk => (by cases hk), hp.stops, hp.calls⟩
  | callStop =>
    cases h
    refine hp.evolve hi .same (Nat.le_refl _) (fun _ => .inl) (fun _ => .inl) fun q hq => ?_
    rcases List.mem_append.mp hq with hq | hq
    · exact .inl hq
    · cases List.mem_singleton.mp hq
      exact .inr ⟨by simp [StopPoint.threads], nofun⟩
  | listen io => exact hp.listen hi (listenStep_cases h)
  | stop i order => exact hp.stop hi (stopStep_cases h)
  | connection k io => exact hlocal (connectionStep_local h)
  | bridge k l => exact hlocal (bridgeStep_local h)

theorem of_reachable (h : serverMachine.Reachable s) : Inv s ∧ Serving s ∧ Placed s :=
  h.invariant (P := fun s => Inv s ∧ Serving s ∧ Placed s) ⟨.init, .init, .init⟩ fun ⟨hi, hs, hp⟩ h => ⟨hi.step h, hs.step h, hp.step hi h⟩

theorem progress_bridge (hk : s.connections[k]? = some c) (hreg : c.registered)
    (h : ∃ l, l.own ∧ (c.bridge.step l).isSome) : ∃ l, l.own ∧ (s.step l).isSome := by
  obtain ⟨l, hl, hsome⟩ := h
  exact ⟨.bridge k l, hl, by simp [step, bridgeStep, hk, hl, hreg, hsome]⟩

theorem progress_connection (hi : Inv s) (hk : s.connections[k]? = some c) (hret : c.point ≠ .returned) :
    ∃ l, l.own ∧ (s.step l).isSome := by
  have hstep : ∀ io, (s.connectionStep k io).isSome → ∃ l, l.own ∧ (s.step l).isSome :=
    fun io h => ⟨.connection k io, rfl, h⟩
  cases hpoint : c.point with
  | returned => exact absurd hpoint hret
  | bridging =>
    cases hended : c.bridge.returned with
    | true => exact hstep .fails (by simp [connectionStep, hk, hpoint, hended])
    | false =>
      have hreach := (hi.sound c (List.mem_of_getElem? hk)).reachable
      refine progress_bridge hk (by simp [Connection.registered, hpoint]) ?_
      exact WebSocketBridge.progress (.of_reachable hreach) (.of_reachable hreach) hended
  | reading | proxying | resolving | attaching | accepting | registering | erasing =>
    exact hstep .fails (by simp [connectionStep, hk, hpoint])

theorem progress_stop (hi : Inv s) (hs : Serving s) (hp : Placed s) (hreturned : ∀ c ∈ s.connections, c.point = .returned)
    (hat : s.stops[i]? = some p) (hover : ¬ p.ended) : ∃ l, l.own ∧ (s.step l).isSome := by
  have hmem := List.mem_of_getElem? hat
  have hstep : ∀ order, (s.stopStep i order).isSome → ∃ l, l.own ∧ (s.step l).isSome :=
    fun order h => ⟨.stop i order, rfl, h⟩
  cases p with
  | returned => exact absurd (.inl rfl) hover
  | threw => exact absurd (.inr rfl) hover
  | exchanging | stoppingInternal | closingAcceptor | collecting | finishing => exact hstep [] (by simp [stopStep, hat])
  | snapshotting => exact hstep s.activeBridges (by simp [stopStep, hat])
  | closing bridges =>
    cases bridges with
    | nil => exact hstep [] (by simp [stopStep, hat])
    | cons k bridges =>
      obtain ⟨c, hk, -⟩ := hi.closing _ hmem k List.mem_cons_self
      exact hstep [] (by simp [stopStep, hat, hk])
  | inClose k call bridges =>
    obtain ⟨c, hk, hlt⟩ := hp.calls _ hmem k call bridges rfl
    obtain ⟨d, hd, hreg⟩ := hi.closing _ hmem k List.mem_cons_self
    cases hd.symm.trans hk
    cases hcall : c.bridge.callReturned call with
    | true => exact hstep [] (by simp [stopStep, hat, hk, hcall])
    | false =>
      have hreach := (hi.sound c (List.mem_of_getElem? hk)).reachable
      exact progress_bridge hk hreg (WebSocketBridge.progress_call (.of_reachable hreach) hlt hcall)
  | joining threads =>
    cases threads with
    | nil => exact hstep [] (by simp [stopStep, hat])
    | cons k threads =>
      have hk := List.getElem?_eq_getElem (hp.stops _ hmem k List.mem_cons_self)
      have hret : s.connectionReturned k := connectionReturned_iff.mpr ⟨_, hk, hreturned _ (List.mem_of_getElem? hk)⟩
      exact hstep [] (by simp [stopStep, hat, hret])
  | joiningInternal => exact hstep [] (by simp [stopStep, hat, joinInternal, hs.stopped _ hmem rfl])

/-- When no thread can go on, however its input and output may end, nothing is left running, but
that `listen_after_bind` may be waiting for the internal server, which nobody has stopped. -/
theorem waits_only_for_stop (h : serverMachine.Reachable s) (hstuck : ∀ l, l.own → s.step l = none) :
    Quiet s ∧ (∀ p ∈ s.stops, p.ended) ∧ (s.listener.ended ∨ s.listener = .joiningInternal ∧ s.stopping = false) := by
  obtain ⟨hi, hs, hp⟩ := of_reachable h
  have hnone : ¬ ∃ l, l.own ∧ (s.step l).isSome := by
    rintro ⟨l, hl, hsome⟩
    simp [hstuck l hl] at hsome
  have hreturned : ∀ c ∈ s.connections, c.point = .returned := by
    intro c hc
    obtain ⟨k, hk⟩ := List.mem_iff_getElem?.mp hc
    by_contra hret
    exact hnone (progress_connection hi hk hret)
  have hstops : ∀ p ∈ s.stops, p.ended := by
    intro p hmem
    obtain ⟨i, hat⟩ := List.mem_iff_getElem?.mp hmem
    by_contra hover
    exact hnone (progress_stop hi hs hp hreturned hat hover)
  refine ⟨hi.quiet hreturned, hstops, ?_⟩
  have hlisten : ∀ io, s.listenStep io = none := fun io => hstuck (.listen io) rfl
  cases hpoint : s.listener with
  | idle => exact .inl (.inl rfl)
  | returned => exact .inl (.inr (.inl rfl))
  | threw => exact .inl (.inr (.inr rfl))
  | starting | enabling | checking | spawning | collecting | finishing =>
    have hstep := hlisten .retry
    simp [listenStep, hpoint] at hstep
  | accepting =>
    have hstep := hlisten .retry
    simp [listenStep, hpoint] at hstep
  | joining threads =>
    have hstep := hlisten .retry
    cases threads with
    | nil => simp [listenStep, hpoint] at hstep
    | cons k threads =>
      have hk := List.getElem?_eq_getElem (hp.listener k (by rw [hpoint]; exact List.mem_cons_self))
      have hret : s.connectionReturned k := connectionReturned_iff.mpr ⟨_, hk, hreturned _ (List.mem_of_getElem? hk)⟩
      simp [listenStep, hpoint, hret] at hstep
  | joiningInternal =>
    have hstep := hlisten .retry
    have hserving : s.internalServing = true := by
      by_contra hserving
      simp [listenStep, hpoint, joinInternal, hserving] at hstep
    refine .inr ⟨rfl, ?_⟩
    by_contra hstopping
    rcases hs.served (by rw [hpoint]; rfl) (by simpa using hstopping) with h | h
    · simp [hserving] at h
    · rcases hstops _ h with h | h <;> cases h

def abortedRun : List ServerLabel :=
  repeated [(1, .callListen), (3, .listen .retry), (1, .listen .aborted), (3, .listen .retry)]

def aborted : HttpServer := (serverMachine.run .init abortedRun).get (by decide)

theorem waits_only_for_stop_aborted : Quiet aborted ∧ (∀ p ∈ aborted.stops, p.ended) ∧
    (aborted.listener.ended ∨ aborted.listener = .joiningInternal ∧ aborted.stopping = false) := by
  refine waits_only_for_stop (.of_run .init (Option.some_get _).symm) fun l hl => ?_
  cases l with
  | callListen | callStop => cases hl
  | listen io => rfl
  | stop i order => rfl
  | connection k io => rfl
  | bridge k l => rfl

end HttpServer

end Gr4ControlPlane
