import GpuDriverLab.Submission
import Mathlib.Data.Finset.Basic

/-!
# The growable queue (`queue.rs`)

`pending` holds the submissions in order, `active_ids` the ids among them; the
two are separate containers and each operation updates both.
-/

namespace GpuDriverLab
set_option autoImplicit false

inductive QueueError where
  | zeroCapacity
  | queueFull (capacity : Nat)
  | duplicateCommandId (id : CommandId)
deriving DecidableEq, Repr

structure CommandQueue where
  capacity : Nat
  pending : List ValidatedSubmission
  activeIds : Finset CommandId
deriving DecidableEq

namespace CommandQueue

def new (capacity : Nat) : Except QueueError CommandQueue :=
  if capacity = 0 then .error .zeroCapacity
  else .ok { capacity, pending := [], activeIds := ∅ }

def len (queue : CommandQueue) : Nat := queue.pending.length

def isEmpty (queue : CommandQueue) : Bool := queue.pending.isEmpty

def isFull (queue : CommandQueue) : Bool := queue.pending.length == queue.capacity

def containsCommand (queue : CommandQueue) (id : CommandId) : Bool := id ∈ queue.activeIds

/-- Move a validated submission into the pending queue. -/
def enqueue (queue : CommandQueue) (submission : ValidatedSubmission) :
    Except QueueError Unit × CommandQueue :=
  let cmdId := submission.command.id
  if queue.containsCommand cmdId then (.error (.duplicateCommandId cmdId), queue)
  else if queue.isFull then (.error (.queueFull queue.capacity), queue)
  else
    let queue := { queue with activeIds := insert cmdId queue.activeIds }
    (.ok (), { queue with pending := queue.pending ++ [submission] })

/-- Remove and return the oldest pending submission. -/
def dequeue (queue : CommandQueue) : Option ValidatedSubmission × CommandQueue :=
  match queue.pending with
  | [] => (none, queue)
  | submission :: pending =>
    let queue := { queue with pending }
    let cmdId := submission.command.id
    (some submission, { queue with activeIds := queue.activeIds.erase cmdId })

/-- Borrow the oldest submission without removing it. -/
def peek (queue : CommandQueue) : Option ValidatedSubmission := queue.pending.head?

end CommandQueue

end GpuDriverLab
