import GpuDriverLab.Queue
import GpuDriverLab.StaticQueue
import GpuDriverLab.Machine.Trace

/-!
# The queue interface of the generic drivers (`queue_backend.rs`)

The trait is open: any type may implement it, with its own error type, and its
methods may panic. The methods that only borrow the queue are taken to leave it
as it is: a queue that counts its queries in a cell is not covered.
-/

namespace GpuDriverLab
set_option autoImplicit false
open Rust

/-- Queue behaviour required by a generic driver. The four queries return no
queue: they do not change it, not by interior mutability either. -/
class SubmissionQueue (Q : Type) where
  Error : Type
  enqueue : Q → ValidatedSubmission → Exec (Except Error Unit × Q)
  dequeue : Q → Exec (Option ValidatedSubmission × Q)
  peek : Q → Exec (Option ValidatedSubmission)
  len : Q → Exec Nat
  isEmpty : Q → Exec Bool
  isFull : Q → Exec Bool

instance : SubmissionQueue CommandQueue where
  Error := QueueError
  enqueue queue submission := .ret (queue.enqueue submission)
  dequeue queue := .ret queue.dequeue
  peek queue := .ret queue.peek
  len queue := .ret queue.len
  isEmpty queue := .ret queue.isEmpty
  isFull queue := .ret queue.isFull

instance (n : Nat) : SubmissionQueue (StaticCommandQueue n) where
  Error := StaticQueueError
  enqueue queue submission := queue.enqueue submission
  dequeue queue := queue.dequeue
  peek queue := queue.peek
  len queue := .ret queue.len
  isEmpty queue := .ret queue.isEmpty
  isFull queue := .ret queue.isFull

/-- The calls a client can make on a queue. -/
inductive QueueOp where
  | enqueue (submission : ValidatedSubmission)
  | dequeue
  | peek
  | len
  | isEmpty
  | isFull
deriving DecidableEq

inductive QueueResult (E : Type) where
  | enqueued (result : Except E Unit)
  | submission (result : Option ValidatedSubmission)
  | len (n : Nat)
  | flag (b : Bool)

/-- A queue behind the trait, as a machine. -/
def queueMachine (Q : Type) [SubmissionQueue Q] :
    Machine Q QueueOp (QueueResult (SubmissionQueue.Error Q)) where
  step queue
    | .enqueue submission =>
      (SubmissionQueue.enqueue queue submission).bind fun p => .ret (.enqueued p.1, p.2)
    | .dequeue => (SubmissionQueue.dequeue queue).bind fun p => .ret (.submission p.1, p.2)
    | .peek => (SubmissionQueue.peek queue).bind fun r => .ret (.submission r, queue)
    | .len => (SubmissionQueue.len queue).bind fun r => .ret (.len r, queue)
    | .isEmpty => (SubmissionQueue.isEmpty queue).bind fun r => .ret (.flag r, queue)
    | .isFull => (SubmissionQueue.isFull queue).bind fun r => .ret (.flag r, queue)

end GpuDriverLab
