import GpuDriverLab.Submission
import Mathlib.Data.List.ReduceOption

/-!
# The fixed-capacity queue (`static_queue.rs`)

A ring buffer of `n` slots. The duplicate check scans every slot, live or not;
the index arithmetic is the checked arithmetic of the language.
-/

namespace GpuDriverLab
set_option autoImplicit false
open Rust

inductive StaticQueueError where
  | zeroCapacity
  | queueFull (capacity : Nat)
  | duplicateCommandId (id : UInt64)
deriving DecidableEq, Repr

/-- The capacity is part of the queue's type. -/
structure StaticCommandQueue (n : Nat) where
  slots : Vector (Option ValidatedSubmission) n
  head : Nat
  len : Nat
deriving DecidableEq

namespace StaticCommandQueue

variable {n : Nat}

def new (n : Nat) : Except StaticQueueError (StaticCommandQueue n) :=
  if n = 0 then .error .zeroCapacity
  else .ok { slots := Vector.replicate n none, head := 0, len := 0 }

def tailIndex (queue : StaticCommandQueue n) : Exec Nat := do
  let distanceToEnd ← sub n queue.head
  if queue.len ≥ distanceToEnd then sub queue.len distanceToEnd
  else add queue.head queue.len

def capacity (_queue : StaticCommandQueue n) : Nat := n

def isEmpty (queue : StaticCommandQueue n) : Bool := queue.len == 0

def isFull (queue : StaticCommandQueue n) : Bool := queue.len == n

/-- `self.slots[i] = value`. -/
def setSlot (queue : StaticCommandQueue n) (i : Nat) (value : Option ValidatedSubmission) :
    Exec (StaticCommandQueue n) :=
  if inside : i < n then .ret { queue with slots := queue.slots.set i value }
  else .panic .indexOutOfBounds

def enqueue (queue : StaticCommandQueue n) (submission : ValidatedSubmission) :
    Exec (Except StaticQueueError Unit × StaticCommandQueue n) :=
  let commandId := submission.command.id.get
  let duplicate := queue.slots.toList.reduceOption.any fun queued => queued.command.id.get == commandId
  if duplicate then .ret (.error (.duplicateCommandId commandId), queue)
  else if queue.isFull then .ret (.error (.queueFull n), queue)
  else do
    let tail ← queue.tailIndex
    let queue ← queue.setSlot tail (some submission)
    let len ← add queue.len 1
    return (.ok (), { queue with len })

def peek (queue : StaticCommandQueue n) : Exec (Option ValidatedSubmission) :=
  if queue.isEmpty then .ret none
  else index queue.slots.toList queue.head

def dequeue (queue : StaticCommandQueue n) :
    Exec (Option ValidatedSubmission × StaticCommandQueue n) :=
  if queue.isEmpty then .ret (none, queue)
  else do
    -- `slots[head].take()?` leaves the slot empty, also on the early return
    let slot ← index queue.slots.toList queue.head
    let queue ← queue.setSlot queue.head none
    match slot with
    | none => return (none, queue)
    | some submission =>
      let next ← add queue.head 1
      let head ← rem next n
      let len ← sub queue.len 1
      return (some submission, { queue with head, len })

end StaticCommandQueue

end GpuDriverLab
