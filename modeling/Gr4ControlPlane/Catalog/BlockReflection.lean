import Gr4ControlPlane.Catalog.ReflectBlock
import Gr4ControlPlane.Catalog.ReflectionPayload
import Gr4ControlPlane.Interleaving.Machine

/-! `reflect_block_in_subprocess`: the parent and the worker it forks, with the pipe between
them.  The two processes take their steps in any order, a system call may fail, and the worker
may be killed at any time. -/

open Gr4ControlPlane.Interleaving

namespace Gr4ControlPlane

inductive ParentPoint
  | piping
  | forking
  | forked
  | reading
  /-- About to close the read end, after an error if `failed`. -/
  | closing (failed : Bool)
  | waiting (failed : Bool)
  | returned (result : Except CatalogLoadError BlockDescriptor)

inductive WorkerPoint
  | unborn
  | forked
  | reflecting
  /-- In `write_all`, where the call of `write` has moved some and there is this left. -/
  | writing (moved : Nat) (left : Bytes)
  | closing (code : Nat)
  | exiting (code : Nat)
  | exited (code : Nat)
  | killed (signal : Nat)
  deriving DecidableEq

def ParentPoint.writes : ParentPoint → Bool
  | .forking | .forked => true
  | .piping | .reading | .closing _ | .waiting _ | .returned _ => false

def WorkerPoint.writes : WorkerPoint → Bool
  | .forked | .reflecting | .writing .. | .closing _ => true
  | .unborn | .exiting _ | .exited _ | .killed _ => false

def ParentPoint.reads : ParentPoint → Bool
  | .forking | .forked | .reading | .closing _ => true
  | .piping | .waiting _ | .returned _ => false

def WorkerPoint.reads : WorkerPoint → Bool
  | .forked => true
  | .unborn | .reflecting | .writing .. | .closing _ | .exiting _ | .exited _ | .killed _ => false

structure BlockReflection where
  parent : ParentPoint
  worker : WorkerPoint
  /-- What is in the pipe. -/
  buffer : Bytes
  /-- What the parent has read. -/
  payload : Bytes

inductive SystemCall
  | done
  | bytes (count : Nat)
  | failed
  deriving DecidableEq

inductive ReflectionLabel
  | parent (io : SystemCall)
  | worker (io : SystemCall)
  | kill (signal : Nat)
  deriving DecidableEq

/-- Something goes wrong that is not of the block's doing. -/
def ReflectionLabel.fault : ReflectionLabel → Bool
  | .parent .failed | .worker .failed | .kill _ => true
  | .parent .done | .parent (.bytes _) | .worker .done | .worker (.bytes _) => false

/-- What the two processes work with: the JSON library and the texts of its exceptions, how much a pipe
holds, and where the worker instantiates blocks. -/
structure ReflectionSetting where
  id : Bytes
  library : JsonLibrary
  errorText : PayloadError → Bytes
  capacity : Nat
  factory : BlockFactory

namespace ReflectionSetting

variable (e : ReflectionSetting)

def error (text : String) : CatalogLoadError := ⟨ascii text ++ e.id⟩

/-- What the worker has to write; whatever is thrown, it exits with 2. -/
def output : Option Bytes :=
  match e.factory.reflectBlock e.id with
  | .error _ => none
  | .ok block => (e.library.dump block.toJson).toOption

def conclude (payload : Bytes) : Except CatalogLoadError BlockDescriptor :=
  if payload = [] then .error (e.error "GNU Radio 4 block reflection returned empty payload for block: ")
  else
    (parseBlockDescriptor e.library payload).mapError fun err =>
      ⟨ascii "GNU Radio 4 block reflection returned invalid payload for block " ++ e.id ++ ascii ": " ++ e.errorText err⟩

/-- What the parent makes of the worker's status, once there is one. -/
def verdict (payload : Bytes) : WorkerPoint → Option (Except CatalogLoadError BlockDescriptor)
  | .killed signal => some (.error ⟨ascii "GNU Radio 4 block reflection crashed for block " ++ e.id ++ ascii " (signal " ++
      decimal signal ++ ascii ")"⟩)
  | .exited code =>
    some (if code ≠ 0 then .error (e.error "GNU Radio 4 block reflection failed for block: ") else e.conclude payload)
  | .unborn | .forked | .reflecting | .writing .. | .closing _ | .exiting _ => none

end ReflectionSetting

namespace BlockReflection

def init : BlockReflection := ⟨.piping, .unborn, [], []⟩

variable (e : ReflectionSetting) (s : BlockReflection)

def result : Option (Except CatalogLoadError BlockDescriptor) :=
  match s.parent with
  | .returned result => some result
  | _ => none

def written : Bytes := s.payload ++ s.buffer

def fail (text : String) : BlockReflection := { s with parent := .returned (.error (e.error text)) }

def parentStep (io : SystemCall) : Option BlockReflection :=
  match s.parent, io with
  | .piping, .done => some { s with parent := .forking }
  | .piping, .failed => some (s.fail e "failed to create GNU Radio 4 reflection pipe for block: ")
  | .forking, .done => some { s with parent := .forked, worker := .forked }
  | .forking, .failed => some (s.fail e "failed to fork GNU Radio 4 reflection worker for block: ")
  | .forked, .done => some { s with parent := .reading }
  | .reading, .bytes count =>
    if 0 < count ∧ count ≤ 4096 ∧ count ≤ s.buffer.length then
      some { s with payload := s.payload ++ s.buffer.take count, buffer := s.buffer.drop count }
    else none
  | .reading, .done =>
    -- `read` returns 0 once nothing is left and nobody can write any more
    if s.buffer = [] ∧ ¬ s.parent.writes ∧ ¬ s.worker.writes then some { s with parent := .closing false } else none
  | .reading, .failed => some { s with parent := .closing true }
  | .closing failed, .done => some { s with parent := .waiting failed }
  | .waiting true, .done =>
    (e.verdict s.payload s.worker).map fun _ => s.fail e "failed to read GNU Radio 4 reflection payload for block: "
  | .waiting true, .failed => some (s.fail e "failed to read GNU Radio 4 reflection payload for block: ")
  | .waiting false, .done => (e.verdict s.payload s.worker).map fun result => { s with parent := .returned result }
  | .waiting false, .failed => some (s.fail e "failed to wait for GNU Radio 4 reflection worker for block: ")
  | _, _ => none

def workerStep (io : SystemCall) : Option BlockReflection :=
  match s.worker, io with
  | .forked, .done => some { s with worker := .reflecting }
  | .reflecting, .done =>
    match e.output with
    | none => some { s with worker := .closing 2 }
    | some text => some { s with worker := .writing 0 text }
  | .writing 0 [], .done => some { s with worker := .closing 0 }
  | .writing (_ + 1) left, .done => some { s with worker := .writing 0 left }
  | .writing moved left, .bytes count =>
    if 0 < count ∧ count ≤ left.length ∧ s.buffer.length + count ≤ e.capacity ∧ (s.parent.reads ∨ s.worker.reads) then
      some { s with worker := .writing (moved + count) (left.drop count), buffer := s.buffer ++ left.take count }
    else none
  -- the loop is left, and the worker exits as if it had written everything
  | .writing 0 (_ :: _), .failed => some { s with worker := .closing 0 }
  | .closing code, .done => some { s with worker := .exiting code }
  | .exiting code, .done => some { s with worker := .exited code }
  | _, _ => none

def killStep (signal : Nat) : Option BlockReflection :=
  match s.worker with
  | .unborn | .exited _ | .killed _ => none
  | _ => some { s with worker := .killed signal }

def step : ReflectionLabel → Option BlockReflection
  | .parent io => s.parentStep e io
  | .worker io => s.workerStep e io
  | .kill signal => s.killStep signal

end BlockReflection

def reflectionMachine (e : ReflectionSetting) : Machine BlockReflection ReflectionLabel where
  init := .init
  step s := s.step e

/-! ### What a step can be -/

def ParentPoint.work (output : Bytes) : ParentPoint → Nat
  | .piping => 3 * output.length + 12
  | .forking => 3 * output.length + 11
  | .forked => 4
  | .reading => 3
  | .closing _ => 2
  | .waiting _ => 1
  | .returned _ => 0

def WorkerPoint.work (output : Bytes) : WorkerPoint → Nat
  | .forked => 3 * output.length + 6
  | .reflecting => 3 * output.length + 5
  | .writing moved left => 3 * left.length + 3 + min moved 1
  | .closing _ => 2
  | .exiting _ => 1
  | .unborn | .exited _ | .killed _ => 0

def WorkerPoint.alive : WorkerPoint → Bool
  | .unborn | .exited _ | .killed _ => false
  | .forked | .reflecting | .writing .. | .closing _ | .exiting _ => true

namespace BlockReflection

inductive ParentSteps (e : ReflectionSetting) : BlockReflection → Bool → BlockReflection → Prop
  | pipe : ParentSteps e ⟨.piping, w, b, d⟩ false ⟨.forking, w, b, d⟩
  | fork : ParentSteps e ⟨.forking, w, b, d⟩ false ⟨.forked, .forked, b, d⟩
  | close : ParentSteps e ⟨.forked, w, b, d⟩ false ⟨.reading, w, b, d⟩
  | read : 0 < count → count ≤ b.length →
      ParentSteps e ⟨.reading, w, b, d⟩ false
        ⟨.reading, w, b.drop count, d ++ b.take count⟩
  | eof : w.writes = false →
      ParentSteps e ⟨.reading, w, [], d⟩ false ⟨.closing false, w, [], d⟩
  | broken : ParentSteps e ⟨.reading, w, b, d⟩ true ⟨.closing true, w, b, d⟩
  | closeRead :
      ParentSteps e ⟨.closing failed, w, b, d⟩ false ⟨.waiting failed, w, b, d⟩
  | judge : e.verdict d w = some r →
      ParentSteps e ⟨.waiting false, w, b, d⟩ false ⟨.returned r, w, b, d⟩
  | giveUp : (∀ r, p ≠ .returned r) → (fault = true ∨ p = .waiting true) →
      ParentSteps e ⟨p, w, b, d⟩ fault ⟨.returned (.error err), w, b, d⟩

inductive WorkerSteps (e : ReflectionSetting) : BlockReflection → Bool → BlockReflection → Prop
  | closeRead : WorkerSteps e ⟨p, .forked, b, d⟩ false ⟨p, .reflecting, b, d⟩
  | throw : e.output = none →
      WorkerSteps e ⟨p, .reflecting, b, d⟩ false ⟨p, .closing 2, b, d⟩
  | print : e.output = some text →
      WorkerSteps e ⟨p, .reflecting, b, d⟩ false ⟨p, .writing 0 text, b, d⟩
  | finish : WorkerSteps e ⟨p, .writing 0 [], b, d⟩ false ⟨p, .closing 0, b, d⟩
  | wrote : WorkerSteps e ⟨p, .writing (moved + 1) left, b, d⟩ false
      ⟨p, .writing 0 left, b, d⟩
  | move : 0 < count → count ≤ left.length →
      WorkerSteps e ⟨p, .writing moved left, b, d⟩ false
        ⟨p, .writing (moved + count) (left.drop count), b ++ left.take count, d⟩
  | cut : WorkerSteps e ⟨p, .writing 0 left, b, d⟩ true ⟨p, .closing 0, b, d⟩
  | closeWrite : WorkerSteps e ⟨p, .closing code, b, d⟩ false ⟨p, .exiting code, b, d⟩
  | exit : WorkerSteps e ⟨p, .exiting code, b, d⟩ false ⟨p, .exited code, b, d⟩
  | kill : w.alive = true →
      WorkerSteps e ⟨p, w, b, d⟩ true ⟨p, .killed signal, b, d⟩

variable {e : ReflectionSetting} {s s' : BlockReflection} {l : ReflectionLabel}

theorem parentStep_cases {io : SystemCall} (h : s.parentStep e io = some s') :
    ParentSteps e s (ReflectionLabel.parent io).fault s' := by
  obtain ⟨parent, worker, buffer, payload⟩ := s
  cases parent with
  | piping =>
    cases io with
    | done => cases h; exact .pipe
    | bytes count => cases h
    | failed => cases h; exact .giveUp nofun (.inl rfl)
  | forking =>
    cases io with
    | done => cases h; exact .fork
    | bytes count => cases h
    | failed => cases h; exact .giveUp nofun (.inl rfl)
  | forked =>
    obtain rfl : io = .done := by cases io <;> first | rfl | cases h
    cases h
    exact .close
  | reading =>
    cases io with
    | done =>
      obtain ⟨⟨hnil, -, hwrites⟩, h⟩ := Option.ite_none_right_eq_some.mp h
      cases h
      obtain rfl : buffer = [] := hnil
      exact .eof (Bool.eq_false_iff.mpr hwrites)
    | bytes count =>
      obtain ⟨⟨hpos, -, hle⟩, h⟩ := Option.ite_none_right_eq_some.mp h
      cases h
      exact .read hpos hle
    | failed => cases h; exact .broken
  | closing failed =>
    obtain rfl : io = .done := by cases io <;> first | rfl | cases h
    cases h
    exact .closeRead
  | waiting failed =>
    cases failed with
    | true =>
      cases io with
      | done =>
        obtain ⟨r, -, h⟩ := Option.map_eq_some_iff.mp h
        cases h
        exact .giveUp nofun (.inr rfl)
      | bytes count => cases h
      | failed => cases h; exact .giveUp nofun (.inl rfl)
    | false =>
      cases io with
      | done =>
        obtain ⟨r, hr, h⟩ := Option.map_eq_some_iff.mp h
        cases h
        exact .judge hr
      | bytes count => cases h
      | failed => cases h; exact .giveUp nofun (.inl rfl)
  | returned r => cases io <;> cases h

theorem workerStep_cases {io : SystemCall} (h : s.workerStep e io = some s') :
    WorkerSteps e s (ReflectionLabel.worker io).fault s' := by
  obtain ⟨parent, worker, buffer, payload⟩ := s
  cases worker with
  | forked =>
    obtain rfl : io = .done := by cases io <;> first | rfl | cases h
    cases h
    exact .closeRead
  | reflecting =>
    cases io with
    | done =>
      dsimp only [workerStep] at h
      split at h
      · next hout => cases h; exact .throw hout
      · next hout => cases h; exact .print hout
    | bytes count => cases h
    | failed => cases h
  | writing moved left =>
    cases io with
    | done =>
      cases moved with
      | zero =>
        cases left with
        | nil => cases h; exact .finish
        | cons byte left => cases h
      | succ moved => cases h; exact .wrote
    | bytes count =>
      simp only [workerStep] at h
      obtain ⟨⟨hpos, hle, -⟩, h⟩ := Option.ite_none_right_eq_some.mp h
      cases h
      exact .move hpos hle
    | failed =>
      cases moved with
      | zero =>
        cases left with
        | nil => cases h
        | cons byte left => cases h; exact .cut
      | succ moved => cases h
  | closing code =>
    obtain rfl : io = .done := by cases io <;> first | rfl | cases h
    cases h
    exact .closeWrite
  | exiting code =>
    obtain rfl : io = .done := by cases io <;> first | rfl | cases h
    cases h
    exact .exit
  | unborn | exited | killed => cases io <;> cases h

theorem step_cases (h : s.step e l = some s') : ParentSteps e s l.fault s' ∨ WorkerSteps e s l.fault s' := by
  cases l with
  | parent io => exact .inl (parentStep_cases h)
  | worker io => exact .inr (workerStep_cases h)
  | kill signal =>
    obtain ⟨parent, worker, buffer, payload⟩ := s
    cases worker <;> cases h <;> exact .inr (.kill rfl)

end BlockReflection

end Gr4ControlPlane
