import GpuDriverLab.DeviceState
import GpuDriverLab.Queue
import GpuDriverLab.Machine.Trace

/-!
# The simulated driver (`driver.rs`)

The driver checks readiness, then hands the call to the part that does the
work. `?` converts the part's error; the part may already have changed, so its
state after the call is kept on both paths.
-/

namespace GpuDriverLab
set_option autoImplicit false
open Rust

inductive DriverApiError where
  | state (e : StateError)
  | buffer (e : DriverError)
  | submission (e : SubmissionError)
  | queue (e : QueueError)
deriving DecidableEq, Repr

/-- Device state, buffers and submissions behind one interface. -/
structure SimulatedGpuDriver where
  controller : DeviceController
  device : GpuDevice
  queue : CommandQueue

namespace SimulatedGpuDriver

def new (queueCapacity : Nat) : Except DriverApiError SimulatedGpuDriver :=
  match CommandQueue.new queueCapacity with
  | .error e => .error (.queue e)
  | .ok queue => .ok { controller := .default, device := .default, queue }

def state (driver : SimulatedGpuDriver) : DeviceState := driver.controller.state

def loadFirmware (driver : SimulatedGpuDriver) (image : List UInt8) :
    Exec (Except DriverApiError Unit × SimulatedGpuDriver) := do
  let (result, controller) ← driver.controller.loadFirmware image
  return (result.mapError .state, { driver with controller })

def start (driver : SimulatedGpuDriver) : Except DriverApiError Unit × SimulatedGpuDriver :=
  let (result, controller) := driver.controller.start
  (result.mapError .state, { driver with controller })

/-- Allocate a buffer only while the device is ready. -/
def allocateBuffer (driver : SimulatedGpuDriver) (capacity : Nat) :
    Except DriverApiError BufferId × SimulatedGpuDriver :=
  match driver.controller.ensureReady with
  | .error e => (.error (.state e), driver)
  | .ok _ =>
    let (result, device) := driver.device.allocateBuffer capacity
    (result.mapError .buffer, { driver with device })

/-- Write to a buffer only while the device is ready. -/
def writeBuffer (driver : SimulatedGpuDriver) (id : BufferId) (data : List UInt8) :
    Exec (Except DriverApiError Unit × SimulatedGpuDriver) :=
  match driver.controller.ensureReady with
  | .error e => .ret (.error (.state e), driver)
  | .ok _ => do
    let (result, device) ← driver.device.writeBuffer id data
    return (result.mapError .buffer, { driver with device })

/-- Validate and enqueue an untrusted command request. -/
def submit (driver : SimulatedGpuDriver) (bufferId : BufferId) (command : RawCommand) :
    Exec (Except DriverApiError Unit × SimulatedGpuDriver) :=
  match driver.controller.ensureReady with
  | .error e => .ret (.error (.state e), driver)
  | .ok _ => do
    match ← validateSubmission driver.device { bufferId, command } with
    | .error e => return (.error (.submission e), driver)
    | .ok submission =>
      let (result, queue) := driver.queue.enqueue submission
      return (result.mapError .queue, { driver with queue })

/-- Transfer ownership of the oldest submission to the caller. -/
def nextSubmission (driver : SimulatedGpuDriver) : Option ValidatedSubmission × SimulatedGpuDriver :=
  let (result, queue) := driver.queue.dequeue
  (result, { driver with queue })

def queuedLen (driver : SimulatedGpuDriver) : Nat := driver.queue.len

def isQueueFull (driver : SimulatedGpuDriver) : Bool := driver.queue.isFull

end SimulatedGpuDriver

/-- The calls that every driver offers. -/
inductive DriverOp where
  | loadFirmware (image : List UInt8)
  | start
  | allocateBuffer (capacity : Nat)
  | writeBuffer (id : BufferId) (data : List UInt8)
  | submit (bufferId : BufferId) (command : RawCommand)
  | nextSubmission
  | queuedLen
  | isQueueFull
  | state
deriving DecidableEq

/-- What a call to a driver with error type `E` returns. -/
inductive DriverResult (E : Type) where
  | done (result : Except E Unit)
  | allocated (result : Except E BufferId)
  | submission (result : Option ValidatedSubmission)
  | len (n : Nat)
  | flag (b : Bool)
  | state (s : DeviceState)

/-- The simulated driver as a machine. -/
def simulatedMachine : Machine SimulatedGpuDriver DriverOp (DriverResult DriverApiError) where
  step driver
    | .loadFirmware image => (driver.loadFirmware image).bind fun p => .ret (.done p.1, p.2)
    | .start => .ret (.done driver.start.1, driver.start.2)
    | .allocateBuffer capacity =>
      .ret (.allocated (driver.allocateBuffer capacity).1, (driver.allocateBuffer capacity).2)
    | .writeBuffer id data => (driver.writeBuffer id data).bind fun p => .ret (.done p.1, p.2)
    | .submit bufferId command => (driver.submit bufferId command).bind fun p => .ret (.done p.1, p.2)
    | .nextSubmission => .ret (.submission driver.nextSubmission.1, driver.nextSubmission.2)
    | .queuedLen => .ret (.len driver.queuedLen, driver)
    | .isQueueFull => .ret (.flag driver.isQueueFull, driver)
    | .state => .ret (.state driver.state, driver)

end GpuDriverLab
