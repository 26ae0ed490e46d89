import Gr4ControlPlane.App.Gr4BlockSettings
import Gr4ControlPlane.Interleaving.Machine

/-! The settings calls on one running execution: requests and replies over the message ports of its
scheduler, which answers when it gets to them.  A call has the execution's mutex until it returns. -/

open Gr4ControlPlane.Interleaving

namespace Gr4ControlPlane

/-- `next_request_id` for one draw of the generator. -/
def nextRequestId (draw : UInt64) : Bytes := ascii "req_" ++ hexPadded 16 draw.toNat

theorem hexDigit_injective : ∀ m < 16, ∀ n < 16, hexDigit m = hexDigit n → m = n := by decide

theorem hexPadded_injective {width m n : Nat} (hm : m < 16 ^ width) (hn : n < 16 ^ width)
    (h : hexPadded width m = hexPadded width n) : m = n := by
  induction width generalizing m n with
  | zero => omega
  | succ width ih =>
    obtain ⟨hinit, hlast⟩ := List.append_inj' h rfl
    have hdiv : m / 16 = n / 16 := ih (by omega) (by omega) hinit
    have hmod : m % 16 = n % 16 :=
      hexDigit_injective _ (Nat.mod_lt m (by decide)) _ (Nat.mod_lt n (by decide)) (List.singleton_inj.mp hlast)
    omega

theorem nextRequestId_injective {draw draw' : UInt64} (h : nextRequestId draw = nextRequestId draw') : draw = draw' :=
  UInt64.toNat_inj.mp (hexPadded_injective draw.toNat_lt draw'.toNat_lt (List.append_cancel_left h))

structure SettingsReply where
  clientRequestID : Bytes
  serviceName : Bytes
  endpoint : Bytes
  data : Except Bytes PropertyMap

/-- Where a call stands in `send_block_settings_request`. -/
inductive SettingsPoint
  | requestPort | responsePort | sending | waiting
  deriving DecidableEq

structure SettingsCall where
  request : SettingsRequest
  draw : UInt64
  point : SettingsPoint

structure SettledCall where
  request : SettingsRequest
  draw : UInt64
  exchange : SettingsExchange

structure SentRequest where
  call : Nat
  clientRequestID : Bytes
  request : SettingsRequest

def SentRequest.reply (sent : SentRequest) (data : Except Bytes PropertyMap) : SettingsReply where
  clientRequestID := sent.clientRequestID
  serviceName := sent.request.serviceName
  endpoint := sent.request.endpoint
  data := data

/-- The ports of a scheduler whose blocks are in a state of type `B`. -/
structure SettingsChannel (B : Type) where
  settled : List SettledCall
  current : Option SettingsCall
  /-- What the scheduler has not come to yet, and what it has handled. -/
  inbox : List SentRequest
  handled : List SentRequest
  blocks : B
  /-- What the scheduler is about to publish. -/
  outbox : List SettingsReply
  /-- What the current call has not read yet. -/
  port : List SettingsReply

inductive SettingsLabel
  | call (request : SettingsRequest) (draw : UInt64)
  | connect
  | fail (what : Bytes)
  | send
  | read
  | timeout
  | handle (k : Nat)
  | publish (k : Nat)
  | notify (message : SettingsReply)

namespace SettingsChannel

variable {B : Type}

def init (blocks : B) : SettingsChannel B := ⟨[], none, [], [], blocks, [], []⟩

def isReply (call : SettingsCall) (reply : SettingsReply) : Bool :=
  reply.clientRequestID = nextRequestId call.draw ∧ reply.endpoint = call.request.endpoint ∧
    reply.serviceName = call.request.serviceName

section

variable (s : SettingsChannel B)

def settle (call : SettingsCall) (exchange : SettingsExchange) : SettingsChannel B :=
  { s with settled := s.settled ++ [⟨call.request, call.draw, exchange⟩], current := none, port := [] }

def moveTo (call : SettingsCall) (point : SettingsPoint) : SettingsChannel B :=
  { s with current := some { call with point := point } }

def ask (call : SettingsCall) : SentRequest := ⟨s.settled.length, nextRequestId call.draw, call.request⟩

/-- What is published is seen by a call that has connected its response port. -/
def receive (message : SettingsReply) : List SettingsReply :=
  match s.current with
  | some ⟨_, _, .sending⟩ | some ⟨_, _, .waiting⟩ => s.port ++ [message]
  | _ => s.port

def step (serve : SettingsRequest → B → Option (Except Bytes PropertyMap) × B) :
    SettingsLabel → Option (SettingsChannel B)
  | .call request draw =>
    match s.current with
    | none => some { s with current := some ⟨request, draw, .requestPort⟩ }
    | some _ => none
  | .connect => s.current.bind fun call =>
    match call.point with
    | .requestPort => some (s.moveTo call .responsePort)
    | .responsePort => some { s.moveTo call .sending with port := [] }
    | .sending | .waiting => none
  | .fail what => s.current.bind fun call =>
    match call.point with
    | .requestPort => some (s.settle call (.requestPortFailed what))
    | .responsePort => some (s.settle call (.responsePortFailed what))
    | .sending | .waiting => none
  | .send => s.current.bind fun call =>
    if call.point = .sending then
      some { s.moveTo call .waiting with
        inbox := s.inbox ++ [s.ask call] }
    else none
  | .read => s.current.bind fun call =>
    if call.point = .waiting then
      match s.port.find? (isReply call) with
      | some reply => some (s.settle call (.replied reply.data))
      | none => some { s with port := [] }
    else none
  | .timeout => s.current.bind fun call => if call.point = .waiting then some (s.settle call .timedOut) else none
  | .handle k => s.inbox[k]?.map fun sent =>
    let (data, blocks) := serve sent.request s.blocks
    { s with
      inbox := s.inbox.eraseIdx k, handled := s.handled ++ [sent], blocks := blocks,
      outbox := s.outbox ++ (data.map sent.reply).toList }
  | .publish k => s.outbox[k]?.map fun message => { s with outbox := s.outbox.eraseIdx k, port := s.receive message }
  | .notify message =>
    if ascii "req_" <+: message.clientRequestID then none else some { s with outbox := s.outbox ++ [message] }

end

def machine (serve : SettingsRequest → B → Option (Except Bytes PropertyMap) × B) (blocks : B) :
    Machine (SettingsChannel B) SettingsLabel where
  init := init blocks
  step s := s.step serve

def draws (s : SettingsChannel B) : List UInt64 := s.settled.map (·.draw) ++ (s.current.map (·.draw)).toList

def replay (serve : SettingsRequest → B → Option (Except Bytes PropertyMap) × B) (blocks : B) (requests : List SentRequest) :
    B := requests.foldl (fun blocks sent => (serve sent.request blocks).2) blocks

def Answered (s : SettingsChannel B) (i : Nat) : Prop := ∃ call data, s.settled[i]? = some call ∧ call.exchange = .replied data

inductive SentBy (s : SettingsChannel B) (sent : SentRequest) : Prop
  | settled {call} : s.settled[sent.call]? = some call → call.request = sent.request →
      nextRequestId call.draw = sent.clientRequestID →
      (∀ what, call.exchange ≠ .requestPortFailed what ∧ call.exchange ≠ .responsePortFailed what) → SentBy s sent
  | waiting {call} : sent.call = s.settled.length → s.current = some call → call.point = .waiting →
      call.request = sent.request → nextRequestId call.draw = sent.clientRequestID → SentBy s sent

section

variable (serve : SettingsRequest → B → Option (Except Bytes PropertyMap) × B) (blocks : B)

def Handles (s : SettingsChannel B) (sent : SentRequest) (data : Except Bytes PropertyMap) : Prop :=
  ∃ before after, s.handled = before ++ sent :: after ∧ (serve sent.request (replay serve blocks before)).1 = some data

/-- A message is the reply to a request that has been handled, or is none to any of the requests. -/
def Genuine (s : SettingsChannel B) (message : SettingsReply) : Prop :=
  ¬ ascii "req_" <+: message.clientRequestID ∨ ∃ sent data, Handles serve blocks s sent data ∧ message = sent.reply data

structure ChannelInv (s : SettingsChannel B) : Prop where
  state : s.blocks = replay serve blocks s.handled
  nodup : ((s.inbox ++ s.handled).map SentRequest.call).Nodup
  sent : ∀ sent ∈ s.inbox ++ s.handled, s.SentBy sent
  messages : ∀ message ∈ s.outbox ++ s.port, Genuine serve blocks s message
  answered : ∀ (i : Nat) call data, s.settled[i]? = some call → call.exchange = .replied data →
    ∃ sent, Handles serve blocks s sent data ∧ sent.call = i ∧ sent.request = call.request
  order : ∀ before sent after, s.handled = before ++ sent :: after → ∀ j < sent.call, s.Answered j →
    ∃ sent' ∈ before, sent'.call = j

end

inductive ChannelSteps (serve : SettingsRequest → B → Option (Except Bytes PropertyMap) × B) (s : SettingsChannel B) :
    SettingsChannel B → Prop
  | call {request draw} : s.current = none →
      ChannelSteps serve s { s with current := some ⟨request, draw, .requestPort⟩ }
  | connect {call point port} : s.current = some call → call.point ≠ .waiting → point ≠ .waiting → port ⊆ s.port →
      ChannelSteps serve s { s.moveTo call point with port := port }
  | fail {call exchange} : s.current = some call → call.point ≠ .waiting →
      (∃ what, exchange = .requestPortFailed what ∨ exchange = .responsePortFailed what) →
      ChannelSteps serve s (s.settle call exchange)
  | send {call} : s.current = some call → call.point ≠ .waiting →
      ChannelSteps serve s { s.moveTo call .waiting with
        inbox := s.inbox ++ [s.ask call] }
  | replied {call reply} : s.current = some call → call.point = .waiting → reply ∈ s.port → isReply call reply →
      ChannelSteps serve s (s.settle call (.replied reply.data))
  | passed : ChannelSteps serve s { s with port := [] }
  | timeout {call} : s.current = some call → call.point = .waiting → ChannelSteps serve s (s.settle call .timedOut)
  | handle {k sent} : s.inbox[k]? = some sent →
      ChannelSteps serve s { s with
        inbox := s.inbox.eraseIdx k, handled := s.handled ++ [sent], blocks := (serve sent.request s.blocks).2,
        outbox := s.outbox ++ ((serve sent.request s.blocks).1.map sent.reply).toList }
  | publish {k message} : s.outbox[k]? = some message →
      ChannelSteps serve s { s with outbox := s.outbox.eraseIdx k, port := s.receive message }
  | notify {message} : ¬ ascii "req_" <+: message.clientRequestID →
      ChannelSteps serve s { s with outbox := s.outbox ++ [message] }

section

variable {serve : SettingsRequest → B → Option (Except Bytes PropertyMap) × B} {blocks : B} {s s' : SettingsChannel B}
  {l : SettingsLabel}

theorem step_cases (h : s.step serve l = some s') : ChannelSteps serve s s' := by
  cases l with
  | call request draw =>
    dsimp only [step] at h
    split at h
    · next hnone =>
      cases h
      exact .call hnone
    · cases h
  | connect =>
    obtain ⟨call, hcall, h⟩ := Option.bind_eq_some_iff.mp h
    dsimp only at h
    split at h
    · next hpoint =>
      cases h
      exact .connect hcall (by rw [hpoint]; decide) (by decide) (List.Subset.refl _)
    · next hpoint =>
      cases h
      exact .connect hcall (by rw [hpoint]; decide) (by decide) (List.nil_subset _)
    · cases h
    · cases h
  | fail what =>
    obtain ⟨call, hcall, h⟩ := Option.bind_eq_some_iff.mp h
    split at h
    · next hpoint =>
      cases h
      exact .fail hcall (by rw [hpoint]; decide) ⟨what, .inl rfl⟩
    · next hpoint =>
      cases h
      exact .fail hcall (by rw [hpoint]; decide) ⟨what, .inr rfl⟩
    · cases h
    · cases h
  | send =>
    obtain ⟨call, hcall, h⟩ := Option.bind_eq_some_iff.mp h
    obtain ⟨hpoint, h⟩ := Option.ite_none_right_eq_some.mp h
    cases h
    exact .send hcall (by rw [hpoint]; decide)
  | read =>
    obtain ⟨call, hcall, h⟩ := Option.bind_eq_some_iff.mp h
    obtain ⟨hpoint, h⟩ := Option.ite_none_right_eq_some.mp h
    split at h
    · next reply hfind =>
      cases h
      exact .replied hcall hpoint (List.mem_of_find?_eq_some hfind) (List.find?_some hfind)
    · cases h
      exact .passed
  | timeout =>
    obtain ⟨call, hcall, h⟩ := Option.bind_eq_some_iff.mp h
    obtain ⟨hpoint, h⟩ := Option.ite_none_right_eq_some.mp h
    cases h
    exact .timeout hcall hpoint
  | handle k =>
    obtain ⟨sent, hsent, rfl⟩ := Option.map_eq_some_iff.mp h
    exact .handle hsent
  | publish k =>
    obtain ⟨message, hmessage, rfl⟩ := Option.map_eq_some_iff.mp h
    exact .publish hmessage
  | notify message =>
    obtain ⟨hforeign, h⟩ := Option.ite_none_left_eq_some.mp h
    cases h
    exact .notify hforeign

/-! ### The invariant -/

theorem inv_init : ChannelInv serve blocks (init blocks) where
  state := rfl
  nodup := .nil
  sent _ hsent := by cases hsent
  messages _ hmessage := by cases hmessage
  answered _ _ _ h := by cases h
  order before sent after h := by simp [init] at h

theorem SentBy.le {sent : SentRequest} (h : s.SentBy sent) : sent.call ≤ s.settled.length := by
  cases h with
  | settled hcall => exact Nat.le_of_lt (List.getElem?_eq_some_iff.mp hcall).1
  | waiting hcall => exact Nat.le_of_eq hcall

theorem SentBy.lt {sent : SentRequest} {call : SettingsCall} (h : s.SentBy sent) (hcall : s.current = some call)
    (hpoint : call.point ≠ .waiting) : sent.call < s.settled.length := by
  cases h with
  | settled hcall => exact (List.getElem?_eq_some_iff.mp hcall).1
  | waiting _ hcall' hpoint' => exact absurd (Option.some.inj (hcall.symm.trans hcall') ▸ hpoint') hpoint

theorem SentBy.of_lt {sent : SentRequest} (h : s.SentBy sent) (hlt : sent.call < s.settled.length)
    (hsettled : s.settled <+: s'.settled) : s'.SentBy sent := by
  cases h with
  | settled hcall hrequest hid hexchange =>
    obtain ⟨rest, hrest⟩ := hsettled
    refine .settled ?_ hrequest hid hexchange
    rw [← hrest, List.getElem?_append_left hlt]
    exact hcall
  | waiting hcall => exact absurd hlt (by rw [hcall]; exact Nat.lt_irrefl _)

theorem SentBy.settle {sent : SentRequest} {call : SettingsCall} {exchange : SettingsExchange} (h : s.SentBy sent)
    (hcall : s.current = some call) (hsent : call.point = .waiting →
      ∀ what, exchange ≠ .requestPortFailed what ∧ exchange ≠ .responsePortFailed what) :
    (s.settle call exchange).SentBy sent := by
  rcases Nat.lt_or_ge sent.call s.settled.length with hlt | hge
  · exact h.of_lt hlt (List.prefix_append _ _)
  · cases h with
    | settled hcall => exact absurd hge (Nat.not_le.mpr (List.getElem?_eq_some_iff.mp hcall).1)
    | waiting heq hcall' hpoint hrequest hid =>
      cases hcall.symm.trans hcall'
      have hlast : (s.settle call exchange).settled[sent.call]? = some ⟨call.request, call.draw, exchange⟩ := by
        rw [heq]
        exact List.getElem?_concat_length
      exact .settled hlast hrequest hid (hsent hpoint)

theorem Handles.mono {sent : SentRequest} {data : Except Bytes PropertyMap} (h : Handles serve blocks s sent data)
    (hhandled : s.handled <+: s'.handled) : Handles serve blocks s' sent data := by
  obtain ⟨before, after, heq, hdata⟩ := h
  obtain ⟨rest, hrest⟩ := hhandled
  exact ⟨before, after ++ rest, by rw [← hrest, heq, List.append_assoc, List.cons_append], hdata⟩

theorem Genuine.mono {message : SettingsReply} (h : Genuine serve blocks s message) (hhandled : s.handled <+: s'.handled) :
    Genuine serve blocks s' message := by
  rcases h with hforeign | ⟨sent, data, hsent, heq⟩
  · exact .inl hforeign
  · exact .inr ⟨sent, data, hsent.mono hhandled, heq⟩

theorem Answered.lt {i : Nat} (h : s.Answered i) : i < s.settled.length := by
  obtain ⟨call, data, hcall, -⟩ := h
  exact (List.getElem?_eq_some_iff.mp hcall).1

theorem settled_settle {call : SettingsCall} {exchange : SettingsExchange} {i : Nat} {settled : SettledCall}
    (h : (s.settle call exchange).settled[i]? = some settled) :
    s.settled[i]? = some settled ∨ i = s.settled.length ∧ settled = ⟨call.request, call.draw, exchange⟩ := by
  have h : (s.settled ++ [⟨call.request, call.draw, exchange⟩])[i]? = some settled := h
  rw [List.getElem?_append] at h
  split at h
  · exact .inl h
  · next hge =>
    obtain ⟨hi, rfl⟩ := List.getElem?_eq_some_iff.mp h
    have hi : i - s.settled.length < 1 := hi
    refine .inr ⟨by omega, ?_⟩
    simp

theorem inv_settle {call : SettingsCall} {exchange : SettingsExchange} (h : ChannelInv serve blocks s)
    (hcall : s.current = some call) (hsent : call.point = .waiting →
      ∀ what, exchange ≠ .requestPortFailed what ∧ exchange ≠ .responsePortFailed what)
    (hreplied : ∀ data, exchange = .replied data →
      ∃ sent, Handles serve blocks s sent data ∧ sent.call = s.settled.length ∧ sent.request = call.request) :
    ChannelInv serve blocks (s.settle call exchange) where
  state := h.state
  nodup := h.nodup
  sent sent hmem := (h.sent sent hmem).settle hcall hsent
  messages message hmessage := h.messages message (List.mem_append_left _ (by simpa [settle] using hmessage))
  answered i settled data hsettled hdata := by
    rcases settled_settle hsettled with hold | ⟨rfl, rfl⟩
    · exact h.answered i settled data hold hdata
    · exact hreplied data hdata
  order before sent after hsplit j hj hanswered := by
    have hle := (h.sent sent (List.mem_append_right _ (by
      have hsplit : s.handled = before ++ sent :: after := hsplit
      rw [hsplit]
      simp))).le
    obtain ⟨settled, data, hsettled, hdata⟩ := hanswered
    rcases settled_settle hsettled with hold | ⟨rfl, -⟩
    · exact h.order before sent after hsplit j hj ⟨settled, data, hold, hdata⟩
    · exact absurd hj (Nat.not_lt.mpr hle)

theorem inv_send {call : SettingsCall} (h : ChannelInv serve blocks s) (hcall : s.current = some call)
    (hpoint : call.point ≠ .waiting) :
    ChannelInv serve blocks { s.moveTo call .waiting with
      inbox := s.inbox ++ [s.ask call] } where
  state := h.state
  nodup := by
    have hnew : s.settled.length ∉ (s.inbox ++ s.handled).map SentRequest.call := by
      rintro hmem
      obtain ⟨sent, hsent, heq⟩ := List.mem_map.mp hmem
      exact absurd ((h.sent sent hsent).lt hcall hpoint) (by rw [heq]; exact Nat.lt_irrefl _)
    have hperm : (s.inbox ++ [s.ask call] ++ s.handled).Perm
        (s.ask call :: (s.inbox ++ s.handled)) := by
      rw [List.append_assoc]
      exact List.perm_middle
    refine (hperm.map SentRequest.call).nodup_iff.mpr ?_
    exact List.nodup_cons.mpr ⟨hnew, h.nodup⟩
  sent sent hmem := by
    have hmem : sent ∈ s.inbox ++ [s.ask call] ++ s.handled := hmem
    have hold : sent ∈ s.inbox ++ s.handled →
        ({ s.moveTo call .waiting with
          inbox := s.inbox ++ [s.ask call] }).SentBy sent := fun hmem =>
      (h.sent sent hmem).of_lt ((h.sent sent hmem).lt hcall hpoint) List.prefix_rfl
    simp only [List.append_assoc, List.mem_append, List.mem_singleton] at hmem
    rcases hmem with hmem | rfl | hmem
    · exact hold (List.mem_append_left _ hmem)
    · exact .waiting rfl rfl rfl rfl rfl
    · exact hold (List.mem_append_right _ hmem)
  messages := h.messages
  answered := h.answered
  order := h.order

theorem inv_messages {outbox port : List SettingsReply} (h : ChannelInv serve blocks s)
    (hmessages : ∀ message ∈ outbox ++ port, Genuine serve blocks s message) :
    ChannelInv serve blocks { s with outbox := outbox, port := port } where
  state := h.state
  nodup := h.nodup
  sent sent hmem := by
    cases h.sent sent hmem with
    | settled hcall hrequest hid hexchange => exact .settled hcall hrequest hid hexchange
    | waiting heq hcall hpoint hrequest hid => exact .waiting heq hcall hpoint hrequest hid
  messages := hmessages
  answered := h.answered
  order := h.order

theorem inv_current {current : Option SettingsCall} {port : List SettingsReply} (h : ChannelInv serve blocks s)
    (hpoint : ∀ call, s.current = some call → call.point ≠ .waiting) (hport : port ⊆ s.port) :
    ChannelInv serve blocks { s with current := current, port := port } where
  state := h.state
  nodup := h.nodup
  sent sent hmem := by
    cases h.sent sent hmem with
    | settled hcall hrequest hid hexchange => exact .settled hcall hrequest hid hexchange
    | waiting _ hcall hwaiting => exact absurd hwaiting (hpoint _ hcall)
  messages message hmessage := by
    refine h.messages message ?_
    rcases List.mem_append.mp hmessage with hmem | hmem
    · exact List.mem_append_left _ hmem
    · exact List.mem_append_right _ (hport hmem)
  answered := h.answered
  order := h.order

theorem inv_handle {k : Nat} {sent : SentRequest} (h : ChannelInv serve blocks s) (hsent : s.inbox[k]? = some sent) :
    ChannelInv serve blocks { s with
      inbox := s.inbox.eraseIdx k, handled := s.handled ++ [sent], blocks := (serve sent.request s.blocks).2,
      outbox := s.outbox ++ ((serve sent.request s.blocks).1.map sent.reply).toList } := by
  have hperm : (s.inbox.eraseIdx k ++ (s.handled ++ [sent])).Perm (s.inbox ++ s.handled) := by
    obtain ⟨hk, rfl⟩ := List.getElem?_eq_some_iff.mp hsent
    rw [← List.append_assoc]
    exact (List.perm_append_singleton _ _).trans ((List.getElem_cons_eraseIdx_perm hk).append_right s.handled)
  have hprefix : s.handled <+: s.handled ++ [sent] := List.prefix_append _ _
  refine ⟨?_, (hperm.map SentRequest.call).nodup_iff.mpr h.nodup, fun sent' hmem => ?_, fun message hmessage => ?_,
    fun i call data hcall hdata => ?_, fun before sent' after hsplit j hj hanswered => ?_⟩
  · simp [replay, h.state]
  · cases h.sent sent' (hperm.mem_iff.mp hmem) with
    | settled hcall hrequest hid hexchange => exact .settled hcall hrequest hid hexchange
    | waiting heq hcall hpoint hrequest hid => exact .waiting heq hcall hpoint hrequest hid
  · have hnew : message ∈ s.outbox ++ s.port ∨ ∃ data, (serve sent.request s.blocks).1 = some data ∧ message = sent.reply data := by
      simp only [List.mem_append, Option.mem_toList, Option.map_eq_some_iff] at hmessage ⊢
      rcases hmessage with (hmem | ⟨data, hdata, rfl⟩) | hmem
      · exact .inl (.inl hmem)
      · exact .inr ⟨data, hdata, rfl⟩
      · exact .inl (.inr hmem)
    rcases hnew with hmem | ⟨data, hdata, rfl⟩
    · exact (h.messages message hmem).mono hprefix
    · exact .inr ⟨sent, data, ⟨s.handled, [], rfl, h.state ▸ hdata⟩, rfl⟩
  · obtain ⟨sent', hhandles, heq⟩ := h.answered i call data hcall hdata
    exact ⟨sent', hhandles.mono hprefix, heq⟩
  · have hsplit : s.handled ++ [sent] = before ++ sent' :: after := hsplit
    have hanswered : s.Answered j := hanswered
    rcases List.eq_nil_or_concat after with rfl | ⟨after, last, rfl⟩
    · obtain ⟨rfl, -⟩ := List.append_inj' hsplit rfl
      obtain ⟨call, data, hcall, hdata⟩ := hanswered
      obtain ⟨sent'', ⟨before', after', heq, -⟩, hj', -⟩ := h.answered j call data hcall hdata
      exact ⟨sent'', by rw [heq]; simp, hj'⟩
    · rw [List.concat_eq_append, ← List.cons_append, ← List.append_assoc] at hsplit
      exact h.order before sent' after (List.append_inj' hsplit rfl).1 j hj hanswered

theorem handles_of_isReply {call : SettingsCall} {reply : SettingsReply} (h : ChannelInv serve blocks s)
    (hdraws : s.draws.Nodup) (hcall : s.current = some call) (hmem : reply ∈ s.port) (hreply : isReply call reply) :
    ∃ sent, Handles serve blocks s sent reply.data ∧ sent.call = s.settled.length ∧ sent.request = call.request := by
  obtain ⟨hid, -, -⟩ := of_decide_eq_true hreply
  rcases h.messages reply (List.mem_append_right _ hmem) with hforeign | ⟨sent, data, hhandles, rfl⟩
  · rw [hid] at hforeign
    exact absurd (List.prefix_append _ _) hforeign
  · have hhandled : sent ∈ s.inbox ++ s.handled := by
      obtain ⟨before, after, heq, -⟩ := hhandles
      exact List.mem_append_right _ (by rw [heq]; simp)
    have hid : sent.clientRequestID = nextRequestId call.draw := hid
    cases h.sent sent hhandled with
    | @settled settled hsettled _ hid' _ =>
      have hdraw : settled.draw = call.draw := nextRequestId_injective (hid'.trans hid)
      rw [draws, hcall, List.nodup_append] at hdraws
      exact absurd hdraw (hdraws.2.2 _ (List.mem_map_of_mem (List.mem_of_getElem? hsettled)) _ (by simp))
    | waiting heq hcall' _ hrequest _ =>
      cases hcall.symm.trans hcall'
      exact ⟨sent, hhandles, heq, hrequest.symm⟩

theorem draws_step (h : ChannelSteps serve s s') : s.draws <+: s'.draws := by
  cases h with
  | call hnone => simp [draws, hnone]
  | connect hcall | send hcall => simp [draws, moveTo, hcall]
  | fail hcall | replied hcall | timeout hcall => simp [draws, settle, hcall]
  | passed | handle | publish | notify => exact List.prefix_rfl

theorem inv_step (h : ChannelInv serve blocks s) (hstep : ChannelSteps serve s s') (hdraws : s.draws.Nodup) :
    ChannelInv serve blocks s' := by
  cases hstep with
  | call hnone => exact inv_current h (by simp [hnone]) (List.Subset.refl _)
  | connect hcall hpoint _ hport =>
    have hidle : ∀ call', s.current = some call' → call'.point ≠ .waiting := by
      intro call' hcall'
      cases hcall.symm.trans hcall'
      exact hpoint
    exact @inv_current B serve blocks s _ _ h hidle hport
  | fail hcall hpoint hexchange =>
    refine inv_settle h hcall (fun hwaiting => absurd hwaiting hpoint) fun data heq => ?_
    obtain ⟨what, rfl | rfl⟩ := hexchange <;> cases heq
  | send hcall hpoint => exact inv_send h hcall hpoint
  | replied hcall _ hmem hreply =>
    refine inv_settle h hcall (fun _ _ => ⟨nofun, nofun⟩) fun data heq => ?_
    cases heq
    exact handles_of_isReply h hdraws hcall hmem hreply
  | passed => exact inv_messages h fun message hmem => h.messages message (List.mem_append_left _ (by simpa using hmem))
  | timeout hcall _ => exact inv_settle h hcall (fun _ _ => ⟨nofun, nofun⟩) nofun
  | handle hsent => exact inv_handle h hsent
  | @publish k message hmessage =>
    refine inv_messages h fun other hmem => ?_
    have hport : s.receive message ⊆ s.port ++ [message] := by
      unfold receive
      split
      · exact List.Subset.refl _
      · exact List.Subset.refl _
      · exact List.subset_append_left _ _
    rcases List.mem_append.mp hmem with hmem | hmem
    · exact h.messages other (List.mem_append_left _ (List.mem_of_mem_eraseIdx hmem))
    · rcases List.mem_append.mp (hport hmem) with hmem | hmem
      · exact h.messages other (List.mem_append_right _ hmem)
      · cases List.mem_singleton.mp hmem
        exact h.messages message (List.mem_append_left _ (List.mem_of_getElem? hmessage))
  | notify hforeign =>
    refine inv_messages h fun other hmem => ?_
    simp only [List.append_assoc, List.mem_append, List.mem_singleton] at hmem
    rcases hmem with hmem | rfl | hmem
    · exact h.messages other (List.mem_append_left _ hmem)
    · exact .inl hforeign
    · exact h.messages other (List.mem_append_right _ hmem)

theorem inv_of_reachable (h : (machine serve blocks).Reachable s) (hdraws : s.draws.Nodup) : ChannelInv serve blocks s := by
  induction h with
  | init => exact inv_init
  | @step s l s' _ hstep ih =>
    have hsteps := step_cases hstep
    have hearlier := hdraws.sublist (draws_step hsteps).sublist
    exact inv_step (ih hearlier) hsteps hearlier

/-- What a call that is over has come to, and what it has done. -/
inductive Settles (serve : SettingsRequest → B → Option (Except Bytes PropertyMap) × B) (blocks : B)
    (s : SettingsChannel B) (action : Bytes) (session : Session) (i : Nat) (request : SettingsRequest) :
    Except SettingsThrown PropertyMap → Prop
  | answered {before sent after data} : s.handled = before ++ sent :: after → sent.call = i → sent.request = request →
      (serve request (replay serve blocks before)).1 = some data →
      (∀ j < i, s.Answered j → ∃ sent' ∈ before, sent'.call = j) →
      Settles serve blocks s action session i request
        ((parseSettingsReply data request.serviceName request.endpoint).mapError (rethrown session action))
  | timedOut : (∀ sent ∈ s.handled, sent.call = i → sent.request = request) →
      Settles serve blocks s action session i request
        (.error (.replyTimeout (ascii "timed out waiting for runtime reply from block " ++ request.serviceName)))
  | unsent {what} : (∀ sent ∈ s.handled, sent.call ≠ i) →
      Settles serve blocks s action session i request (.error (rethrown session action (.exception what)))

/-- The settings calls are carried out one after another, each of them at most once: a call that gets a reply gets the
one to its own request at its place in that order, after all calls that had got theirs before; one that has timed out
may be carried out later, and one that could not connect is not. -/
theorem settings_linear (h : (machine serve blocks).Reachable s) (hdraws : s.draws.Nodup) (action : Bytes)
    (session : Session) : s.blocks = replay serve blocks s.handled ∧ (s.handled.map SentRequest.call).Nodup ∧
      ∀ (i : Nat) call, s.settled[i]? = some call → Settles serve blocks s action session i call.request
        (Gr4State.exchangeSettings (fun _ => call.exchange) action session call.request) := by
  have hinv := inv_of_reachable h hdraws
  refine ⟨hinv.state, ?_, fun i call hcall => ?_⟩
  · have hnodup := hinv.nodup
    rw [List.map_append, List.nodup_append] at hnodup
    exact hnodup.2.1
  · have hsent : ∀ sent ∈ s.handled, sent.call = i → sent.request = call.request ∧
        ∀ what, call.exchange ≠ .requestPortFailed what ∧ call.exchange ≠ .responsePortFailed what := by
      rintro sent hmem rfl
      cases hinv.sent sent (List.mem_append_right _ hmem) with
      | settled hcall' hrequest _ hexchange =>
        cases hcall.symm.trans hcall'
        exact ⟨hrequest.symm, hexchange⟩
      | waiting heq =>
        rw [heq, List.getElem?_length] at hcall
        cases hcall
    have hunsent : ∀ what, call.exchange = .requestPortFailed what ∨ call.exchange = .responsePortFailed what →
        ∀ sent ∈ s.handled, sent.call ≠ i := by
      intro what hfailed sent hmem heq
      obtain ⟨hne, hne'⟩ := (hsent sent hmem heq).2 what
      exact hfailed.elim hne hne'
    cases hexchange : call.exchange with
    | requestPortFailed what => exact .unsent (hunsent what (.inl hexchange))
    | responsePortFailed what => exact .unsent (hunsent what (.inr hexchange))
    | timedOut => exact .timedOut fun sent hmem heq => (hsent sent hmem heq).1
    | replied data =>
      obtain ⟨sent, ⟨before, after, hsplit, hdata⟩, rfl, hrequest⟩ := hinv.answered i call data hcall hexchange
      rw [hrequest] at hdata
      exact .answered hsplit rfl hrequest hdata (hinv.order before sent after hsplit)

end

def gainServe (request : SettingsRequest) (settings : PropertyMap) : Option (Except Bytes PropertyMap) × PropertyMap :=
  match request.command with
  | .set => (some (.ok []), request.payload)
  | .get => (some (.ok settings), settings)

def setGain : SettingsRequest := ⟨.set, ascii "gain#0", ascii "Settings", [(ascii "gain", .integer 3)]⟩

def getGain : SettingsRequest := ⟨.get, ascii "gain#0", ascii "Settings", []⟩

def lateRun : List SettingsLabel :=
  [.call setGain 1, .connect, .connect, .send, .timeout, .call getGain 2, .connect, .connect, .send, .handle 0, .publish 0,
    .read, .handle 0, .publish 0, .read]

theorem lateRun_isSome : ((machine gainServe []).run (init []) lateRun).isSome := by decide +kernel

def lateChannel : SettingsChannel PropertyMap := ((machine gainServe []).run (init []) lateRun).get lateRun_isSome

theorem lateChannel_settled : lateChannel.settled[1]?.isSome := by decide +kernel

def lateSession : Session := ⟨ascii "sess_1", [], [], none, .running, none, 1, 2⟩

theorem settings_linear_late :
    Settles gainServe [] lateChannel (ascii "settings read") lateSession 1
      (lateChannel.settled[1]?.get lateChannel_settled).request
      (Gr4State.exchangeSettings (fun _ => (lateChannel.settled[1]?.get lateChannel_settled).exchange)
        (ascii "settings read") lateSession (lateChannel.settled[1]?.get lateChannel_settled).request) :=
  (settings_linear (.of_run .init (Option.some_get lateRun_isSome).symm) (by decide +kernel) _ _).2.2 1 _
    (Option.some_get lateChannel_settled).symm

end SettingsChannel

end Gr4ControlPlane
