import Gr4ControlPlane.Domain.SessionStream
import Mathlib.Data.Finset.Basic

namespace Gr4ControlPlane

/-- `allocated_ports_`: the ports handed out and not given back. -/
structure StreamBindingAllocator where
  allocatedPorts : Finset Nat

/-- What `reserve_ephemeral_loopback_port` answers at each attempt: any port the operating
system likes, or an exception. -/
abbrev Reservations := Nat → Except Bytes Nat

def httpBinding (port : Nat) : InternalStreamBinding where
  protocol := ascii "http"
  host := ascii "127.0.0.1"
  port := port
  path := ascii "/snapshot"
  endpoint := ascii "http://127.0.0.1:" ++ decimal port ++ ascii "/snapshot"

def websocketBinding (port : Nat) : InternalStreamBinding where
  protocol := ascii "websocket"
  host := ascii "127.0.0.1"
  port := port
  path := ascii "/stream"
  endpoint := ascii "ws://127.0.0.1:" ++ decimal port ++ ascii "/stream"

def streamBinding (streamPlan : RuntimeStreamBindingPlan) (internal : InternalStreamBinding) :
    RuntimeStreamBinding where
  plan := { streamPlan with ready := true }
  internal := internal
  browser := toBrowserStreamDescriptor { streamPlan with ready := true }

namespace StreamBindingAllocator

variable (allocator : StreamBindingAllocator) (reserve : Reservations)

/-- The attempts from number `attempt` on, with `left` of them left. -/
def freshPort (failure : Bytes) : (left attempt : Nat) → Except Bytes Nat
  | 0, _ => .error failure
  | left + 1, attempt =>
    match reserve attempt with
    | .error what => .error what
    | .ok port =>
      if port ∈ allocator.allocatedPorts then freshPort failure left (attempt + 1) else .ok port

def allocateWith (binding : Nat → InternalStreamBinding) (failure : Bytes) :
    Except Bytes InternalStreamBinding × StreamBindingAllocator :=
  match allocator.freshPort reserve failure 64 0 with
  | .error what => (.error what, allocator)
  | .ok port => (.ok (binding port), ⟨insert port allocator.allocatedPorts⟩)

def allocateHttp : Except Bytes InternalStreamBinding × StreamBindingAllocator :=
  allocator.allocateWith reserve httpBinding
    (ascii "failed to allocate unique internal HTTP stream binding")

def allocateWebsocket : Except Bytes InternalStreamBinding × StreamBindingAllocator :=
  allocator.allocateWith reserve websocketBinding
    (ascii "failed to allocate unique internal websocket stream binding")

def release (binding : InternalStreamBinding) : StreamBindingAllocator where
  allocatedPorts := allocator.allocatedPorts.erase binding.port

/-- `transport == "websocket" ? allocate_websocket() : allocate_http()` -/
def allocate (transport : Bytes) : Except Bytes InternalStreamBinding × StreamBindingAllocator :=
  if isWebsocket transport then allocator.allocateWebsocket reserve else allocator.allocateHttp reserve

end StreamBindingAllocator

def internalBinding (transport : Bytes) : Nat → InternalStreamBinding :=
  if isWebsocket transport then websocketBinding else httpBinding

namespace StreamBindingAllocator

variable {allocator allocator' : StreamBindingAllocator} {reserve : Reservations} {failure transport : Bytes}

theorem freshPort_notMem {left attempt port : Nat}
    (h : allocator.freshPort reserve failure left attempt = .ok port) : port ∉ allocator.allocatedPorts := by
  induction left generalizing attempt with
  | zero => cases h
  | succ left ih =>
    unfold freshPort at h
    split at h
    · cases h
    · split at h
      · exact ih h
      · next hport => cases h; exact hport

theorem allocateWith_ok {build : Nat → InternalStreamBinding} {binding : InternalStreamBinding}
    (h : allocator.allocateWith reserve build failure = (.ok binding, allocator')) :
    ∃ port, port ∉ allocator.allocatedPorts ∧ binding = build port ∧
      allocator'.allocatedPorts = insert port allocator.allocatedPorts := by
  unfold allocateWith at h
  split at h
  · cases h
  · next port hport =>
    cases h
    exact ⟨port, freshPort_notMem hport, rfl, rfl⟩

theorem allocateWith_error {build : Nat → InternalStreamBinding} {what : Bytes}
    (h : allocator.allocateWith reserve build failure = (.error what, allocator')) : allocator' = allocator := by
  unfold allocateWith at h
  split at h <;> cases h
  rfl

theorem allocate_ok {binding : InternalStreamBinding}
    (h : allocator.allocate reserve transport = (.ok binding, allocator')) :
    ∃ port, port ∉ allocator.allocatedPorts ∧ binding = internalBinding transport port ∧
      allocator'.allocatedPorts = insert port allocator.allocatedPorts := by
  unfold allocate at h
  unfold internalBinding
  by_cases hw : isWebsocket transport
  · rw [if_pos hw] at h ⊢
    exact allocateWith_ok h
  · rw [if_neg hw] at h ⊢
    exact allocateWith_ok h

theorem allocate_error {what : Bytes}
    (h : allocator.allocate reserve transport = (.error what, allocator')) : allocator' = allocator := by
  unfold allocate at h
  split at h
  · exact allocateWith_error h
  · exact allocateWith_error h

end StreamBindingAllocator

@[simp] theorem internalBinding_port (transport : Bytes) (port : Nat) :
    (internalBinding transport port).port = port := by
  unfold internalBinding
  split <;> rfl

end Gr4ControlPlane
