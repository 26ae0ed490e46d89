import Gr4ControlPlane.Api.HttpServer

open Gr4ControlPlane.Interleaving

namespace Gr4ControlPlane

namespace ListenPoint

def threads : ListenPoint → List Nat
  | .joining threads => threads
  | _ => []

def early : ListenPoint → Bool
  | .idle | .starting | .enabling => true
  | _ => false

def spawns : ListenPoint → Bool
  | .checking | .accepting | .spawning | .collecting => true
  | _ => false

def done (p : ListenPoint) : Bool := !p.early && !p.spawns && p.threads.isEmpty

def ended (p : ListenPoint) : Prop := p = .idle ∨ p = .returned ∨ p = .threw

end ListenPoint

namespace StopPoint

def threads : StopPoint → List Nat
  | .joining threads => threads
  | _ => []

def bridges : StopPoint → List Nat
  | .closing bridges => bridges
  | .inClose bridge _ bridges => bridge :: bridges
  | _ => []

def past : StopPoint → Bool
  | .exchanging | .stoppingInternal | .returned => false
  | _ => true

def ended (p : StopPoint) : Prop := p = .returned ∨ p = .threw

end StopPoint

namespace Connection

/-- Between its registration and its removal from `active_bridges_`. -/
def active (c : Connection) : Prop := c.point = .bridging ∨ c.point = .erasing

structure Sound (c : Connection) : Prop where
  reachable : bridgeMachine.Reachable c.bridge
  unregistered : c.registered = false → c.bridge = .init
  ended : c.point = .erasing → c.bridge.returned

variable {c c' : Connection} {point : ConnectionPoint} {bridge : WebSocketBridge}

theorem registered_iff : c.registered ↔ c.active ∨ (c.point = .returned ∧ c.bridge.returned) := by
  simp [registered, active]

end Connection

namespace WebSocketBridge

variable {b b' : WebSocketBridge} {l : BridgeLabel}

theorem returned_iff : b.returned ↔ ∃ call, b.runPoint = .closing call ∧ b.closing.calls[call]? = some .returned := by
  unfold returned callReturned
  cases b.runPoint <;> simp

theorem returned_step (h : b.step l = some b') (hr : b.returned) : b'.returned := by
  obtain ⟨call, hpoint, hcall⟩ := returned_iff.mp hr
  refine returned_iff.mpr ⟨call, ?_⟩
  cases l with
  | run => cases runStep_cases h <;> simp_all
  | forward source io =>
    obtain ⟨-, hrun, hcalls⟩ := (forwardStep_cases h).frame
    exact ⟨hrun.trans hpoint, hcalls call hcall⟩
  | close =>
    cases h
    exact ⟨hpoint, OneShot.returned_call hcall⟩
  | closer j =>
    obtain ⟨closing, hc, rfl⟩ := Option.map_eq_some_iff.mp h
    exact ⟨hpoint, OneShot.returned_step hc hcall⟩

end WebSocketBridge

theorem Connection.registered_step {c : Connection} {l : BridgeLabel} {bridge : WebSocketBridge}
    (h : c.bridge.step l = some bridge) (hreg : c.registered) : Connection.registered ⟨c.point, bridge⟩ := by
  rcases registered_iff.mp hreg with hactive | ⟨hpoint, hret⟩
  · exact registered_iff.mpr (.inl hactive)
  · exact registered_iff.mpr (.inr ⟨hpoint, WebSocketBridge.returned_step h hret⟩)

namespace HttpServer

inductive Evolves (s : HttpServer) : List Connection → List Nat → Prop
  | same : Evolves s s.connections s.activeBridges
  | spawn : Evolves s (s.connections ++ [⟨.reading, .init⟩]) s.activeBridges
  | early {k c point} : s.connections[k]? = some c → c.registered = false → c.point ≠ .returned →
      point ≠ .bridging → point ≠ .erasing →
      Evolves s (s.connections.set k ⟨point, c.bridge⟩) s.activeBridges
  | register {k c} : s.connections[k]? = some c → c.point = .registering →
      Evolves s (s.connections.set k ⟨.bridging, c.bridge⟩) (s.activeBridges ++ [k])
  | finish {k c} : s.connections[k]? = some c → c.point = .bridging → c.bridge.returned →
      Evolves s (s.connections.set k ⟨.erasing, c.bridge⟩) s.activeBridges
  | erase {k c} : s.connections[k]? = some c → c.point = .erasing →
      Evolves s (s.connections.set k ⟨.returned, c.bridge⟩) (s.activeBridges.erase k)
  | bridge {k c l bridge} : s.connections[k]? = some c → c.registered → c.bridge.step l = some bridge →
      Evolves s (s.connections.set k ⟨c.point, bridge⟩) s.activeBridges

def Registered (s : HttpServer) (k : Nat) : Prop := ∃ c, s.connections[k]? = some c ∧ c.registered

def Held (s : HttpServer) (k : Nat) : Prop :=
  k ∈ s.connectionThreads ∨ k ∈ s.listener.threads ∨ ∃ p ∈ s.stops, k ∈ p.threads

structure Inv (s : HttpServer) : Prop where
  sound : ∀ c ∈ s.connections, c.Sound
  nodup : s.activeBridges.Nodup
  inRange : ∀ k ∈ s.activeBridges, k < s.connections.length
  registry : ∀ k c, s.connections[k]? = some c → (k ∈ s.activeBridges ↔ c.active)
  closing : ∀ p ∈ s.stops, ∀ k ∈ p.bridges, s.Registered k
  held : ∀ k < s.connections.length, s.connectionReturned k ∨ s.Held k
  emptied : s.listener.spawns = false → s.connectionThreads = []

structure Local (s s' : HttpServer) : Prop where
  evolves : Evolves s s'.connections s'.activeBridges
  length : s'.connections.length = s.connections.length
  threads : s'.connectionThreads = s.connectionThreads
  listener : s'.listener = s.listener
  stops : s'.stops = s.stops
  stopping : s'.stopping = s.stopping
  serving : s'.internalServing = s.internalServing

inductive Listens (s : HttpServer) : HttpServer → Prop
  | start {serving} : s.listener = .starting →
      Listens s { s with internalThread := true, internalServing := serving, listener := .enabling }
  | enable : s.listener = .enabling → Listens s { s with stopping := false, listener := .checking }
  | goto {point} : s.listener.spawns → s.listener.threads = [] → point.spawns → Listens s (s.setListener point)
  | spawn : s.listener = .spawning → Listens s { s with
      connectionThreads := s.connectionThreads ++ [s.connections.length]
      connections := s.connections ++ [⟨.reading, .init⟩]
      listener := .checking }
  | collect : s.listener = .collecting →
      Listens s { s with connectionThreads := [], listener := .joining s.connectionThreads }
  | join {k threads} : s.listener = .joining (k :: threads) → s.connectionReturned k →
      Listens s (s.setListener (.joining threads))
  | leave {thread point} : s.listener.done → point.done → Listens s ({ s with internalThread := thread }.setListener point)

inductive Stops (s : HttpServer) (i : Nat) : HttpServer → Prop
  | again : s.stops[i]? = some .exchanging → s.stopping → Stops s i (s.setStop i .returned)
  | exchange : s.stops[i]? = some .exchanging → s.stopping = false →
      Stops s i ({ s with stopping := true }.setStop i .stoppingInternal)
  | halt : s.stops[i]? = some .stoppingInternal →
      Stops s i ({ s with internalServing := false }.setStop i .closingAcceptor)
  | snapshot {order} : s.stops[i]? = some .snapshotting → order.Perm s.activeBridges →
      Stops s i (s.setStop i (.closing order))
  | close {k bridges c} : s.stops[i]? = some (.closing (k :: bridges)) → s.connections[k]? = some c →
      Stops s i ((s.setConnection k ⟨c.point, c.bridge.setClosing c.bridge.closing.call⟩).setStop i
        (.inClose k c.bridge.closing.calls.length bridges))
  | closed {k call bridges} : s.stops[i]? = some (.inClose k call bridges) → Stops s i (s.setStop i (.closing bridges))
  | collect : s.stops[i]? = some .collecting →
      Stops s i ({ s with connectionThreads := [] }.setStop i (.joining s.connectionThreads))
  | join {k threads} : s.stops[i]? = some (.joining (k :: threads)) → s.connectionReturned k →
      Stops s i (s.setStop i (.joining threads))
  | goto {p p' acceptor thread} : s.stops[i]? = some p → p.past → p.threads = [] → p'.threads = [] → p'.bridges = [] →
      Stops s i ({ s with acceptorOpen := acceptor, internalThread := thread }.setStop i p')

variable {s s' : HttpServer} {connections : List Connection} {active : List Nat} {k i : Nat} {c c' : Connection}
  {p p' : StopPoint}

theorem listenStep_cases {io : AcceptIo} (h : s.listenStep io = some s') : Listens s s' := by
  unfold listenStep at h
  split at h
  · cases h
  · cases h
  · cases h
  · next hpoint => exact Option.some.inj h ▸ .start hpoint
  · next hpoint => exact Option.some.inj h ▸ .enable hpoint
  · next hpoint =>
    cases h
    refine .goto (by rw [hpoint]; rfl) (by rw [hpoint]; rfl) ?_
    split <;> rfl
  · next hpoint =>
    have hgoto : ∀ {point : ListenPoint}, point.spawns → Listens s (s.setListener point) :=
      .goto (by rw [hpoint]; rfl) (by rw [hpoint]; rfl)
    split at h
    · split at h
      · exact Option.some.inj h ▸ hgoto rfl
      · cases h
    · exact Option.some.inj h ▸ hgoto rfl
    · exact Option.some.inj h ▸ hgoto rfl
    · cases h
      refine hgoto ?_
      split <;> rfl
  · next hpoint => exact Option.some.inj h ▸ .spawn hpoint
  · next hpoint => exact Option.some.inj h ▸ .collect hpoint
  · next hpoint =>
    cases h
    exact @Listens.leave _ s.internalThread _ (by rw [hpoint]; rfl) rfl
  · next hpoint =>
    split at h
    · next hret => exact Option.some.inj h ▸ .join hpoint hret
    · cases h
  · next hpoint =>
    cases h
    refine @Listens.leave _ s.internalThread _ (by rw [hpoint]; rfl) ?_
    split <;> rfl
  · next hpoint =>
    obtain ⟨⟨joined, t⟩, hj, rfl⟩ := Option.map_eq_some_iff.mp h
    obtain ⟨-, heq⟩ := Option.ite_none_left_eq_some.mp hj
    cases heq
    refine .leave (by rw [hpoint]; rfl) ?_
    split <;> rfl

theorem stopStep_cases {order : List Nat} (h : s.stopStep i order = some s') : Stops s i s' := by
  obtain ⟨p, hp, hs⟩ := Option.bind_eq_some_iff.mp h
  clear h
  split at hs
  · split at hs
    · next hstopping => exact Option.some.inj hs ▸ .again hp hstopping
    · next hstopping => exact Option.some.inj hs ▸ .exchange hp (by simpa using hstopping)
  · exact Option.some.inj hs ▸ .halt hp
  · cases hs
    exact @Stops.goto _ _ _ _ _ s.internalThread hp rfl rfl rfl rfl
  · split at hs
    · next hperm => exact Option.some.inj hs ▸ .snapshot hp hperm
    · cases hs
  · cases hs
    exact @Stops.goto _ _ _ _ s.acceptorOpen s.internalThread hp rfl rfl rfl rfl
  · obtain ⟨c, hk, rfl⟩ := Option.map_eq_some_iff.mp hs
    exact .close hp hk
  · split at hs
    · exact Option.some.inj hs ▸ .closed hp
    · cases hs
  · exact Option.some.inj hs ▸ .collect hp
  · cases hs
    exact @Stops.goto _ _ _ _ s.acceptorOpen s.internalThread hp rfl rfl rfl rfl
  · split at hs
    · next hret => exact Option.some.inj hs ▸ .join hp hret
    · cases hs
  · cases hs
    refine @Stops.goto _ _ _ _ s.acceptorOpen s.internalThread hp rfl rfl ?_ ?_ <;> split <;> rfl
  · obtain ⟨⟨joined, t⟩, hj, rfl⟩ := Option.map_eq_some_iff.mp hs
    obtain ⟨-, heq⟩ := Option.ite_none_left_eq_some.mp hj
    cases heq
    refine @Stops.goto _ _ _ _ s.acceptorOpen _ hp rfl rfl ?_ ?_ <;> split <;> rfl
  · cases hs
  · cases hs

theorem mem_set_cases {x : Connection} (h : x ∈ s.connections.set k c) : x = c ∨ x ∈ s.connections :=
  (List.mem_or_eq_of_mem_set h).symm

theorem Evolves.sound (h : Evolves s connections active) (hs : ∀ c ∈ s.connections, c.Sound) :
    ∀ c ∈ connections, c.Sound := by
  have hset : ∀ {k c c'}, s.connections[k]? = some c → (c.Sound → c'.Sound) →
      ∀ x ∈ s.connections.set k c', x.Sound := by
    intro k c c' hk hc x hx
    rcases mem_set_cases hx with rfl | hx
    · exact hc (hs c (List.mem_of_getElem? hk))
    · exact hs x hx
  cases h with
  | same => exact hs
  | spawn =>
    intro c hc
    rcases List.mem_append.mp hc with hc | hc
    · exact hs c hc
    · cases List.mem_singleton.mp hc
      exact ⟨.init, fun _ => rfl, fun h => by cases h⟩
  | @early k c point hk hreg _ _ herasing =>
    exact hset hk fun hc => ⟨hc.reachable, fun _ => hc.unregistered hreg, fun h => absurd h herasing⟩
  | @register k c hk hpoint =>
    exact hset hk fun hc => ⟨hc.reachable, fun h => by simp [Connection.registered] at h, fun h => by cases h⟩
  | @finish k c hk hpoint hret =>
    exact hset hk fun hc => ⟨hc.reachable, fun h => by simp [Connection.registered] at h, fun _ => hret⟩
  | @erase k c hk hpoint =>
    refine hset hk fun hc => ⟨hc.reachable, fun h => ?_, fun h => by cases h⟩
    simp [Connection.registered, hc.ended hpoint] at h
  | @bridge k c l bridge hk hreg hstep =>
    refine hset hk fun hc => ⟨hc.reachable.step hstep, fun h => ?_, fun h => ?_⟩
    · rw [Connection.registered_step hstep hreg] at h
      cases h
    · exact WebSocketBridge.returned_step hstep (hc.ended h)

structure Kept (c c' : Connection) : Prop where
  registered : c.registered → c'.registered
  returned : c.point = .returned → c'.point = .returned
  bridge : c'.bridge = c.bridge ∨ ∃ l, c.bridge.step l = some c'.bridge

theorem Kept.refl : Kept c c := ⟨id, id, .inl rfl⟩

theorem Evolves.kept (h : Evolves s connections active) (hi : Inv s) (hk : s.connections[k]? = some c) :
    ∃ c', connections[k]? = some c' ∧ Kept c c' := by
  have hset : ∀ {j d d'}, s.connections[j]? = some d → Kept d d' →
      ∃ c', (s.connections.set j d')[k]? = some c' ∧ Kept c c' := by
    intro j d d' hj hkept
    by_cases hjk : j = k
    · subst hjk
      cases hj.symm.trans hk
      exact ⟨d', List.getElem?_set_self (List.getElem?_eq_some_iff.mp hk).1, hkept⟩
    · exact ⟨c, (List.getElem?_set_ne hjk).trans hk, .refl⟩
  cases h with
  | same => exact ⟨c, hk, .refl⟩
  | spawn => exact ⟨c, (List.getElem?_append_left (List.getElem?_eq_some_iff.mp hk).1).trans hk, .refl⟩
  | @early j d point hj hreg hpoint _ _ =>
    exact hset hj ⟨fun h => (by rw [hreg] at h; cases h), fun h => absurd h hpoint, .inl rfl⟩
  | @register j d hj hpoint =>
    exact hset hj ⟨fun _ => by simp [Connection.registered], fun h => by simp [hpoint] at h, .inl rfl⟩
  | @finish j d hj hpoint hret =>
    exact hset hj ⟨fun _ => by simp [Connection.registered], fun h => by simp [hpoint] at h, .inl rfl⟩
  | @erase j d hj hpoint =>
    have hended := (hi.sound d (List.mem_of_getElem? hj)).ended hpoint
    exact hset hj ⟨fun _ => by simp [Connection.registered, hended], fun _ => rfl, .inl rfl⟩
  | @bridge j d l bridge hj hreg hstep =>
    exact hset hj ⟨fun _ => Connection.registered_step hstep hreg, id, .inr ⟨l, hstep⟩⟩

theorem Evolves.registry (h : Evolves s connections active) (hi : Inv s) :
    active.Nodup ∧ (∀ k ∈ active, k < connections.length) ∧
      ∀ k c, connections[k]? = some c → (k ∈ active ↔ c.active) := by
  have hset : ∀ {j d d'} {active : List Nat}, s.connections[j]? = some d → (j ∈ active ↔ d'.active) →
      (∀ k, k ≠ j → (k ∈ active ↔ k ∈ s.activeBridges)) →
      (∀ k ∈ active, k < (s.connections.set j d').length) ∧
        ∀ k c, (s.connections.set j d')[k]? = some c → (k ∈ active ↔ c.active) := by
    intro j d d' active hj hself hothers
    have hlt := (List.getElem?_eq_some_iff.mp hj).1
    refine ⟨fun k hk => ?_, fun k c hk => ?_⟩
    · rw [List.length_set]
      by_cases hkj : k = j
      · exact hkj ▸ hlt
      · exact hi.inRange k ((hothers k hkj).mp hk)
    · by_cases hkj : k = j
      · subst hkj
        rw [List.getElem?_set_self hlt] at hk
        exact Option.some.inj hk ▸ hself
      · rw [List.getElem?_set_ne (Ne.symm hkj)] at hk
        rw [hothers k hkj, hi.registry k c hk]
  cases h with
  | same => exact ⟨hi.nodup, hi.inRange, hi.registry⟩
  | spawn =>
    refine ⟨hi.nodup, fun k hk => ?_, fun k c hk => ?_⟩
    · exact Nat.lt_of_lt_of_le (hi.inRange k hk) (by simp)
    · by_cases hlt : k < s.connections.length
      · exact hi.registry k c ((List.getElem?_append_left hlt).symm.trans hk)
      · have hread : c = ⟨.reading, .init⟩ := by
          rw [List.getElem?_append_right (Nat.le_of_not_lt hlt)] at hk
          exact List.mem_singleton.mp (List.mem_of_getElem? hk)
        refine iff_of_false (fun hk => hlt (hi.inRange k hk)) ?_
        simp [hread, Connection.active]
  | @early j d point hj hreg hpoint hbridging herasing =>
    have hd : ¬ d.active := fun h => by simp [Connection.registered_iff.mpr (.inl h)] at hreg
    refine ⟨hi.nodup, hset hj ?_ fun _ _ => Iff.rfl⟩
    rw [hi.registry j d hj]
    exact iff_of_false hd (by simp [Connection.active, hbridging, herasing])
  | @register j d hj hpoint =>
    have hnew : j ∉ s.activeBridges := fun h => by simpa [Connection.active, hpoint] using (hi.registry j d hj).mp h
    refine ⟨List.nodup_append.mpr ⟨hi.nodup, List.pairwise_singleton _ _, ?_⟩, hset hj ?_ fun k hk => ?_⟩
    · rintro a ha b hb rfl
      exact hnew (List.mem_singleton.mp hb ▸ ha)
    · simp [Connection.active]
    · simp [hk]
  | @finish j d hj hpoint hret =>
    refine ⟨hi.nodup, hset hj ?_ fun _ _ => Iff.rfl⟩
    rw [hi.registry j d hj]
    simp [Connection.active, hpoint]
  | @erase j d hj hpoint =>
    refine ⟨hi.nodup.erase j, hset hj ?_ fun k hk => List.mem_erase_of_ne hk⟩
    simp [Connection.active, hi.nodup.mem_erase_iff]
  | @bridge j d l bridge hj hreg hstep => exact ⟨hi.nodup, hset hj (hi.registry j d hj) fun _ _ => Iff.rfl⟩

theorem connectionStep_local {io : ConnectionIo} (h : s.connectionStep k io = some s') : Local s s' := by
  obtain ⟨c, hk, hs⟩ := Option.bind_eq_some_iff.mp h
  clear h
  have hearly : ∀ {point}, c.point ≠ .bridging → c.point ≠ .erasing → c.point ≠ .returned → point ≠ .bridging →
      point ≠ .erasing → Evolves s (s.connections.set k ⟨point, c.bridge⟩) s.activeBridges :=
    fun h₁ h₂ h₃ => .early hk (by simp [Connection.registered, h₁, h₂, h₃]) h₃
  split at hs
  case h_11 hpoint =>
    cases hs
    exact ⟨.register hk hpoint, List.length_set, rfl, rfl, rfl, rfl, rfl⟩
  case h_12 hpoint =>
    split at hs
    · next hret =>
      cases hs
      exact ⟨.finish hk hpoint hret, List.length_set, rfl, rfl, rfl, rfl, rfl⟩
    · cases hs
  case h_13 hpoint =>
    cases hs
    exact ⟨.erase hk hpoint, List.length_set, rfl, rfl, rfl, rfl, rfl⟩
  case h_14 => cases hs
  all_goals
    next hpoint =>
    cases hs
    exact ⟨hearly (by simp [hpoint]) (by simp [hpoint]) (by simp [hpoint]) nofun nofun, List.length_set, rfl, rfl, rfl, rfl, rfl⟩

theorem bridgeStep_local {l : BridgeLabel} (h : s.bridgeStep k l = some s') : Local s s' := by
  obtain ⟨c, hk, hs⟩ := Option.bind_eq_some_iff.mp h
  clear h
  split at hs
  · next hown =>
    obtain ⟨bridge, hbridge, rfl⟩ := Option.map_eq_some_iff.mp hs
    exact ⟨.bridge hk (Bool.and_eq_true_iff.mp hown).2 hbridge, List.length_set, rfl, rfl, rfl, rfl, rfl⟩
  · cases hs

theorem connectionReturned_iff : s.connectionReturned k ↔ ∃ c, s.connections[k]? = some c ∧ c.point = .returned := by
  simp [connectionReturned, Option.any_eq_true]

theorem Evolves.length_le (h : Evolves s connections active) : connections.length ≤ s.connections.length + 1 := by
  cases h <;> simp

theorem Inv.evolve (hi : Inv s) (he : Evolves s s'.connections s'.activeBridges)
    (hclosing : ∀ p ∈ s'.stops, ∀ k ∈ p.bridges, s.Registered k)
    (hheld : ∀ k, s.Held k → s.connectionReturned k ∨ s'.Held k)
    (hnew : s.connections.length < s'.connections.length → s'.Held s.connections.length)
    (hemptied : s'.listener.spawns = false → s'.connectionThreads = []) : Inv s' := by
  obtain ⟨hnodup, hrange, hregistry⟩ := he.registry hi
  refine ⟨he.sound hi.sound, hnodup, hrange, hregistry, fun p hp k hk => ?_, fun k hk => ?_, hemptied⟩
  · obtain ⟨c, hc, hreg⟩ := hclosing p hp k hk
    obtain ⟨c', hc', hkept⟩ := he.kept hi hc
    exact ⟨c', hc', hkept.registered hreg⟩
  · by_cases hlt : k < s.connections.length
    · have hreturned : s.connectionReturned k → s'.connectionReturned k := by
        rw [connectionReturned_iff, connectionReturned_iff]
        rintro ⟨c, hc, hret⟩
        obtain ⟨c', hc', hkept⟩ := he.kept hi hc
        exact ⟨c', hc', hkept.returned hret⟩
      rcases hi.held k hlt with hret | hh
      · exact .inl (hreturned hret)
      · exact (hheld k hh).imp_left hreturned
    · have hlength := he.length_le
      obtain rfl : k = s.connections.length := by omega
      exact .inr (hnew hk)

theorem Evolves.of_eq (hc : s'.connections = s.connections) (ha : s'.activeBridges = s.activeBridges) :
    Evolves s s'.connections s'.activeBridges := by
  rw [hc, ha]
  exact .same

theorem Inv.relisten (hi : Inv s) (hc : s'.connections = s.connections) (ha : s'.activeBridges = s.activeBridges)
    (hstops : s'.stops = s.stops)
    (hheld : ∀ k, k ∈ s.connectionThreads ∨ k ∈ s.listener.threads →
      s.connectionReturned k ∨ k ∈ s'.connectionThreads ∨ k ∈ s'.listener.threads)
    (hemptied : s'.listener.spawns = false → s'.connectionThreads = []) : Inv s' := by
  refine hi.evolve (.of_eq hc ha) (hstops ▸ hi.closing) (fun k hk => ?_) (fun hlt => ?_) hemptied
  · have hown := hheld k
    unfold Held at hk ⊢
    rw [hstops]
    tauto
  · rw [hc] at hlt
    exact absurd hlt (Nat.lt_irrefl _)

theorem Inv.listen (hi : Inv s) (h : Listens s s') : Inv s' := by
  have hmove : ∀ {t : HttpServer}, t.connections = s.connections → t.activeBridges = s.activeBridges →
      t.stops = s.stops → t.connectionThreads = s.connectionThreads → s.listener.threads = [] →
      (t.listener.spawns = false → s.listener.spawns = false) → Inv t := by
    intro t hc ha hst ht hl hspawns
    refine hi.relisten hc ha hst (fun k hk => ?_) fun hs => ht.trans (hi.emptied (hspawns hs))
    rw [ht]
    exact .inr (.inl (hk.resolve_right (by simp [hl])))
  cases h with
  | start hpoint => exact hmove rfl rfl rfl rfl (by rw [hpoint]; rfl) fun _ => by rw [hpoint]; rfl
  | enable hpoint => exact hmove rfl rfl rfl rfl (by rw [hpoint]; rfl) fun h => by cases h
  | goto hspawns hthreads hspawns' => exact hmove rfl rfl rfl rfl hthreads fun h => by simp [setListener, hspawns'] at h
  | spawn hpoint =>
    refine hi.evolve .spawn hi.closing (fun k hk => .inr ?_) (fun _ => ?_) (by simp [ListenPoint.spawns])
    · rcases hk with hk | hk | hk
      · exact .inl (List.mem_append_left _ hk)
      · simp [hpoint, ListenPoint.threads] at hk
      · exact .inr (.inr hk)
    · exact .inl (List.mem_append_right _ (List.mem_singleton_self _))
  | collect hpoint =>
    refine hi.relisten rfl rfl rfl (fun k hk => ?_) fun _ => rfl
    rcases hk with hk | hk
    · exact .inr (.inr hk)
    · simp [hpoint, ListenPoint.threads] at hk
  | join hpoint hret =>
    refine hi.relisten rfl rfl rfl (fun k hk => ?_) fun _ => hi.emptied (by rw [hpoint]; rfl)
    rcases hk with hk | hk
    · exact .inr (.inl hk)
    · rw [hpoint] at hk
      rcases List.mem_cons.mp hk with rfl | hk
      · exact .inl hret
      · exact .inr (.inr hk)
  | leave hdone hdone' =>
    simp only [ListenPoint.done, Bool.and_eq_true, Bool.not_eq_true', List.isEmpty_iff] at hdone
    exact hmove rfl rfl rfl rfl hdone.2 fun _ => hdone.1.2

theorem Inv.restop (hi : Inv s) (hp : s.stops[i]? = some p)
    (he : Evolves s s'.connections s'.activeBridges) (hlength : s'.connections.length = s.connections.length)
    (hstops : s'.stops = s.stops.set i p') (hlistener : s'.listener = s.listener)
    (hthreads : s'.connectionThreads = s.connectionThreads ∨
      s'.connectionThreads = [] ∧ ∀ k ∈ s.connectionThreads, k ∈ p'.threads)
    (hclosing : ∀ k ∈ p'.bridges, s.Registered k)
    (hheld : ∀ k ∈ p.threads, s.connectionReturned k ∨ k ∈ p'.threads) : Inv s' := by
  have hself : p' ∈ s.stops.set i p' := List.mem_of_getElem? (List.getElem?_set_self (List.getElem?_eq_some_iff.mp hp).1)
  refine hi.evolve he (fun q hq => ?_) (fun k hk => ?_) (fun hlt => ?_) fun hs => ?_
  · rw [hstops] at hq
    rcases List.mem_or_eq_of_mem_set hq with hq | rfl
    · exact hi.closing q hq
    · exact hclosing
  · unfold Held
    rw [hstops, hlistener]
    rcases hk with hk | hk | ⟨q, hq, hk⟩
    · rcases hthreads with ht | ⟨-, ht⟩
      · exact .inr (.inl (ht ▸ hk))
      · exact .inr (.inr (.inr ⟨p', hself, ht k hk⟩))
    · exact .inr (.inr (.inl hk))
    · obtain ⟨j, hj⟩ := List.mem_iff_getElem?.mp hq
      by_cases hji : j = i
      · subst hji
        cases hj.symm.trans hp
        exact (hheld k hk).imp_right fun hk => .inr (.inr ⟨p', hself, hk⟩)
      · exact .inr (.inr (.inr ⟨q, List.mem_of_getElem? ((List.getElem?_set_ne (Ne.symm hji)).trans hj), hk⟩))
  · exact absurd hlt (hlength ▸ Nat.lt_irrefl _)
  · rcases hthreads with ht | ⟨ht, -⟩
    · exact ht.trans (hi.emptied (hlistener ▸ hs))
    · exact ht

theorem Inv.stop (hi : Inv s) (h : Stops s i s') : Inv s' := by
  have hmove : ∀ {t : HttpServer} {p p' : StopPoint}, s.stops[i]? = some p → t.connections = s.connections →
      t.activeBridges = s.activeBridges → t.connectionThreads = s.connectionThreads → t.listener = s.listener →
      t.stops = s.stops.set i p' → (∀ k ∈ p'.bridges, s.Registered k) →
      (∀ k ∈ p.threads, s.connectionReturned k ∨ k ∈ p'.threads) → Inv t :=
    fun hp hc ha ht hl hst hb hj => hi.restop hp (.of_eq hc ha) (hc ▸ rfl) hst hl (.inl ht) hb hj
  have hbridges : ∀ {p : StopPoint}, s.stops[i]? = some p → ∀ k ∈ p.bridges, s.Registered k :=
    fun hp => hi.closing _ (List.mem_of_getElem? hp)
  cases h with
  | again hp | exchange hp | halt hp =>
    exact hmove hp rfl rfl rfl rfl rfl (by simp [StopPoint.bridges]) (by simp [StopPoint.threads])
  | snapshot hp hperm =>
    refine hmove hp rfl rfl rfl rfl rfl (fun k hk => ?_) (by simp [StopPoint.threads])
    have hmem : k ∈ s.activeBridges := hperm.mem_iff.mp hk
    have hk' := List.getElem?_eq_getElem (hi.inRange k hmem)
    exact ⟨_, hk', Connection.registered_iff.mpr (.inl ((hi.registry k _ hk').mp hmem))⟩
  | @close j bridges c hp hj =>
    have hreg := hbridges hp
    obtain ⟨d, hd, hj'⟩ := hreg j List.mem_cons_self
    cases hd.symm.trans hj
    exact hi.restop hp (.bridge (l := .close) hj hj' rfl) (by simp [setConnection, setStop]) rfl rfl (.inl rfl) hreg
      (by simp [StopPoint.threads])
  | closed hp =>
    exact hmove hp rfl rfl rfl rfl rfl (fun k hk => hbridges hp k (List.mem_cons_of_mem _ hk)) (by simp [StopPoint.threads])
  | collect hp =>
    exact hi.restop hp .same rfl rfl rfl (.inr ⟨rfl, fun k hk => hk⟩) (by simp [StopPoint.bridges])
      (by simp [StopPoint.threads])
  | join hp hret =>
    refine hmove hp rfl rfl rfl rfl rfl (by simp [StopPoint.bridges]) fun k hk => ?_
    rcases List.mem_cons.mp hk with rfl | hk
    · exact .inl hret
    · exact .inr hk
  | goto hp _ hthreads _ hbridges' =>
    exact hmove hp rfl rfl rfl rfl rfl (by simp [hbridges']) (by simp [hthreads])

theorem Inv.init : Inv .init where
  sound c hc := by cases hc
  nodup := .nil
  inRange k hk := by cases hk
  registry k c hc := by cases hc
  closing p hp := by cases hp
  held k hk := by cases hk
  emptied _ := rfl

theorem Inv.local (hi : Inv s) (h : Local s s') : Inv s' := by
  refine hi.evolve h.evolves (h.stops ▸ hi.closing) (fun k hk => .inr ?_) (fun hlt => ?_) fun hs => ?_
  · unfold Held
    rw [h.threads, h.listener, h.stops]
    exact hk
  · exact absurd hlt (h.length ▸ Nat.lt_irrefl _)
  · exact h.threads.trans (hi.emptied (h.listener ▸ hs))

theorem Inv.step {l : ServerLabel} (hi : Inv s) (h : s.step l = some s') : Inv s' := by
  cases l with
  | callListen =>
    obtain ⟨hpoint, heq⟩ := Option.ite_none_right_eq_some.mp h
    cases heq
    refine hi.relisten rfl rfl rfl (fun k hk => .inr ?_) fun _ => hi.emptied (by rw [hpoint]; rfl)
    rw [hpoint] at hk
    exact hk
  | callStop =>
    cases h
    refine hi.evolve .same (fun p hp => ?_) (fun k hk => .inr ?_) (fun hlt => absurd hlt (Nat.lt_irrefl _)) hi.emptied
    · rcases List.mem_append.mp hp with hp | hp
      · exact hi.closing p hp
      · cases List.mem_singleton.mp hp
        simp [StopPoint.bridges]
    · exact hk.imp_right (Or.imp_right fun ⟨p, hp, hk⟩ => ⟨p, List.mem_append_left _ hp, hk⟩)
  | listen io => exact hi.listen (listenStep_cases h)
  | stop i order => exact hi.stop (stopStep_cases h)
  | connection k io => exact hi.local (connectionStep_local h)
  | bridge k l => exact hi.local (bridgeStep_local h)

theorem Inv.of_reachable (h : serverMachine.Reachable s) : Inv s := h.invariant .init fun hi hs => hi.step hs

structure Quiet (s : HttpServer) : Prop where
  bridges : s.activeBridges = []
  connections : ∀ c ∈ s.connections, c.point = .returned ∧ (c.bridge = .init ∨ c.bridge.returned)

theorem Inv.returned (hi : Inv s) (hlistener : s.listener.ended) (hstops : ∀ p ∈ s.stops, p.ended) :
    ∀ c ∈ s.connections, c.point = .returned := by
  intro c hc
  obtain ⟨k, hk⟩ := List.mem_iff_getElem?.mp hc
  rcases hi.held k (List.getElem?_eq_some_iff.mp hk).1 with hret | hk | hk | ⟨p, hp, hk⟩
  · obtain ⟨d, hd, hret⟩ := connectionReturned_iff.mp hret
    cases hd.symm.trans hk
    exact hret
  · have hempty : s.connectionThreads = [] := hi.emptied (by rcases hlistener with h | h | h <;> rw [h] <;> rfl)
    rw [hempty] at hk
    cases hk
  · rcases hlistener with h | h | h <;> rw [h] at hk <;> cases hk
  · rcases hstops p hp with rfl | rfl <;> cases hk

theorem Inv.quiet (hi : Inv s) (hreturned : ∀ c ∈ s.connections, c.point = .returned) : Quiet s := by
  refine ⟨List.eq_nil_iff_forall_not_mem.mpr fun k hk => ?_, fun c hc => ⟨hreturned c hc, ?_⟩⟩
  · have hlt := hi.inRange k hk
    have hactive := (hi.registry k _ (List.getElem?_eq_getElem hlt)).mp hk
    have hret := hreturned _ (List.getElem_mem hlt)
    simp [Connection.active, hret] at hactive
  · cases hret : c.bridge.returned with
    | true => exact .inr rfl
    | false =>
      refine .inl ((hi.sound c hc).unregistered ?_)
      simp [Connection.registered, hreturned c hc, hret]

/-- The set of active bridges is exact, every bridge passes on what it should, and when
`listen_after_bind` and every call of `stop` are over nothing is left running. -/
theorem supervised (h : serverMachine.Reachable s) :
    s.activeBridges.Nodup ∧ (∀ k, k ∈ s.activeBridges ↔ ∃ c, s.connections[k]? = some c ∧ c.active) ∧
      (∀ c ∈ s.connections, c.bridge.Faithful) ∧ (s.listener.ended → (∀ p ∈ s.stops, p.ended) → Quiet s) := by
  have hi := Inv.of_reachable h
  refine ⟨hi.nodup, fun k => ⟨fun hk => ?_, ?_⟩, fun c hc => ?_, fun hl hst => hi.quiet (hi.returned hl hst)⟩
  · have hlt := hi.inRange k hk
    exact ⟨s.connections[k], List.getElem?_eq_getElem hlt, (hi.registry k _ (List.getElem?_eq_getElem hlt)).mp hk⟩
  · rintro ⟨c, hc, hactive⟩
    exact (hi.registry k c hc).mpr hactive
  · exact (WebSocketBridge.Inv.of_reachable (hi.sound c hc).reachable).faithful

def repeated (ls : List (Nat × ServerLabel)) : List ServerLabel := ls.flatMap fun (n, l) => List.replicate n l

def openingRun : List ServerLabel :=
  repeated [(1, .callListen), (3, .listen .retry), (1, .listen .accepted), (1, .listen .retry),
    (1, .connection 0 .upgrade), (4, .connection 0 .succeeds), (2, .bridge 0 .run)]

def stoppingRun : List ServerLabel :=
  repeated [(1, .callStop), (3, .stop 0 []), (1, .stop 0 [0]), (1, .stop 0 []), (5, .bridge 0 (.closer 0)),
    (2, .stop 0 []), (1, .bridge 0 (.forward .browser .throws)), (1, .bridge 0 (.forward .internal .throws)),
    (3, .bridge 0 (.closer 1)), (3, .bridge 0 (.closer 2)), (2, .bridge 0 .run), (3, .bridge 0 (.closer 3)),
    (2, .connection 0 .fails), (5, .stop 0 []), (4, .listen .retry)]

theorem isSome_openingRun : (serverMachine.run .init openingRun).isSome := by decide +kernel

def opened : HttpServer := (serverMachine.run .init openingRun).get isSome_openingRun

theorem isSome_stoppingRun : (serverMachine.run opened stoppingRun).isSome := by decide +kernel

def stopped : HttpServer := (serverMachine.run opened stoppingRun).get isSome_stoppingRun

theorem reachable_opened : serverMachine.Reachable opened := .of_run .init (Option.some_get _).symm

theorem reachable_stopped : serverMachine.Reachable stopped := .of_run reachable_opened (Option.some_get _).symm

theorem supervised_stopped :
    opened.activeBridges = [0] ∧ stopped.listener = .returned ∧ stopped.stops = [.returned] ∧ Quiet stopped := by
  have hend : stopped.listener = .returned ∧ stopped.stops = [.returned] := by decide +kernel
  refine ⟨by decide +kernel, hend.1, hend.2, (supervised reachable_stopped).2.2.2 (.inr (.inl hend.1)) ?_⟩
  rw [hend.2]
  exact fun p hp => .inl (List.mem_singleton.mp hp)

end HttpServer

end Gr4ControlPlane
