import GpuDriverLab.Driver
import GpuDriverLab.QueueBackend

/-!
# The driver over any queue (`generic_driver.rs`)

The same coordination as the simulated driver, with the queue as a parameter
that the client supplies.
-/

namespace GpuDriverLab
set_option autoImplicit false
open Rust

inductive GenericDriverError (QE : Type) where
  | state (e : StateError)
  | buffer (e : DriverError)
  | submission (e : SubmissionError)
  | queue (e : QE)
deriving DecidableEq, Repr

structure GenericGpuDriver (Q : Type) where
  controller : DeviceController
  device : GpuDevice
  queue : Q

namespace GenericGpuDriver

variable {Q : Type}

def new (queue : Q) : GenericGpuDriver Q := { controller := .default, device := .default, queue }

def state (driver : GenericGpuDriver Q) : DeviceState := driver.controller.state

variable [SubmissionQueue Q]

/-- The error type of the driver over `Q`. -/
abbrev Error (Q : Type) [SubmissionQueue Q] : Type := GenericDriverError (SubmissionQueue.Error Q)

def loadFirmware (driver : GenericGpuDriver Q) (image : List UInt8) :
    Exec (Except (Error Q) Unit × GenericGpuDriver Q) := do
  let (result, controller) ← driver.controller.loadFirmware image
  return (result.mapError .state, { driver with controller })

def start (driver : GenericGpuDriver Q) : Except (Error Q) Unit × GenericGpuDriver Q :=
  let (result, controller) := driver.controller.start
  (result.mapError .state, { driver with controller })

def allocateBuffer (driver : GenericGpuDriver Q) (capacity : Nat) :
    Except (Error Q) BufferId × GenericGpuDriver Q :=
  match driver.controller.ensureReady with
  | .error e => (.error (.state e), driver)
  | .ok _ =>
    let (result, device) := driver.device.allocateBuffer capacity
    (result.mapError .buffer, { driver with device })

def writeBuffer (driver : GenericGpuDriver Q) (id : BufferId) (data : List UInt8) :
    Exec (Except (Error Q) Unit × GenericGpuDriver Q) :=
  match driver.controller.ensureReady with
  | .error e => .ret (.error (.state e), driver)
  | .ok _ => do
    let (result, device) ← driver.device.writeBuffer id data
    return (result.mapError .buffer, { driver with device })

def submit (driver : GenericGpuDriver Q) (bufferId : BufferId) (command : RawCommand) :
    Exec (Except (Error Q) Unit × GenericGpuDriver Q) :=
  match driver.controller.ensureReady with
  | .error e => .ret (.error (.state e), driver)
  | .ok _ => do
    match ← validateSubmission driver.device { bufferId, command } with
    | .error e => return (.error (.submission e), driver)
    | .ok submission =>
      let (result, queue) ← SubmissionQueue.enqueue driver.queue submission
      return (result.mapError .queue, { driver with queue })

def nextSubmission (driver : GenericGpuDriver Q) :
    Exec (Option ValidatedSubmission × GenericGpuDriver Q) := do
  let (result, queue) ← SubmissionQueue.dequeue driver.queue
  return (result, { driver with queue })

def peekSubmission (driver : GenericGpuDriver Q) : Exec (Option ValidatedSubmission) :=
  SubmissionQueue.peek driver.queue

def queuedLen (driver : GenericGpuDriver Q) : Exec Nat := SubmissionQueue.len driver.queue

def isQueueEmpty (driver : GenericGpuDriver Q) : Exec Bool := SubmissionQueue.isEmpty driver.queue

def isQueueFull (driver : GenericGpuDriver Q) : Exec Bool := SubmissionQueue.isFull driver.queue

end GenericGpuDriver

/-- The calls of the generic driver: two more than the simulated one offers. -/
inductive GenericOp where
  | common (op : DriverOp)
  | peekSubmission
  | isQueueEmpty
deriving DecidableEq

/-- The generic driver over `Q` as a machine. -/
def genericMachine (Q : Type) [SubmissionQueue Q] :
    Machine (GenericGpuDriver Q) GenericOp (DriverResult (GenericGpuDriver.Error Q)) where
  step driver
    | .common (.loadFirmware image) =>
      (driver.loadFirmware image).bind fun p => .ret (.done p.1, p.2)
    | .common .start => .ret (.done driver.start.1, driver.start.2)
    | .common (.allocateBuffer capacity) =>
      .ret (.allocated (driver.allocateBuffer capacity).1, (driver.allocateBuffer capacity).2)
    | .common (.writeBuffer id data) =>
      (driver.writeBuffer id data).bind fun p => .ret (.done p.1, p.2)
    | .common (.submit bufferId command) =>
      (driver.submit bufferId command).bind fun p => .ret (.done p.1, p.2)
    | .common .nextSubmission => driver.nextSubmission.bind fun p => .ret (.submission p.1, p.2)
    | .common .queuedLen => driver.queuedLen.bind fun n => .ret (.len n, driver)
    | .common .isQueueFull => driver.isQueueFull.bind fun b => .ret (.flag b, driver)
    | .common .state => .ret (.state driver.state, driver)
    | .peekSubmission => driver.peekSubmission.bind fun r => .ret (.submission r, driver)
    | .isQueueEmpty => driver.isQueueEmpty.bind fun b => .ret (.flag b, driver)

end GpuDriverLab
