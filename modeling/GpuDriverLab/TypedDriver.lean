import GpuDriverLab.Driver

/-!
# The lifecycle in the type (`typed_driver.rs`)

The marker is a type parameter without data; here it is an index. A transition
consumes the driver, and a failed one hands it back inside the error.
-/

namespace GpuDriverLab
set_option autoImplicit false
open Rust

/-- The sealed marker types. -/
inductive DriverState where
  | offline
  | firmwareLoaded
  | ready
deriving DecidableEq, Repr

/-- `DriverState::NAME`. -/
def DriverState.name : DriverState → String
  | offline => "offline"
  | firmwareLoaded => "firmware-loaded"
  | ready => "ready"

/-- Capability for states that allow normal operations; one marker has it. -/
inductive Operational : DriverState → Prop where
  | ready : Operational .ready

/-- Driver wrapper whose lifecycle state is represented by `S`. -/
structure TypedDriver (S : DriverState) where
  inner : SimulatedGpuDriver

/-- A failed transition returns both the error and the original driver. -/
structure TransitionError (S : DriverState) where
  driver : TypedDriver S
  error : DriverApiError

namespace TransitionError

variable {S : DriverState}

def intoDriver (failure : TransitionError S) : TypedDriver S := failure.driver

def intoParts (failure : TransitionError S) : TypedDriver S × DriverApiError :=
  (failure.driver, failure.error)

end TransitionError

namespace TypedDriver

variable {S : DriverState}

def stateName (_driver : TypedDriver S) : String := S.name

/-- Inspect the runtime state for diagnostics. -/
def runtimeState (driver : TypedDriver S) : DeviceState := driver.inner.state

/-- Change only the compile-time marker. -/
def changeState (T : DriverState) (driver : TypedDriver S) : TypedDriver T := { inner := driver.inner }

def new (queueCapacity : Nat) : Except DriverApiError (TypedDriver .offline) :=
  match SimulatedGpuDriver.new queueCapacity with
  | .error e => .error e
  | .ok driver => .ok { inner := driver }

/-- Consume an offline driver and return a firmware-loaded driver. -/
def loadFirmware (driver : TypedDriver .offline) (image : List UInt8) :
    Exec (Except (TransitionError .offline) (TypedDriver .firmwareLoaded)) := do
  let (result, inner) ← driver.inner.loadFirmware image
  let driver : TypedDriver .offline := { inner }
  match result with
  | .ok () => return .ok (driver.changeState .firmwareLoaded)
  | .error error => return .error { driver, error }

/-- Consume a firmware-loaded driver and return a ready driver. -/
def start (driver : TypedDriver .firmwareLoaded) :
    Except (TransitionError .firmwareLoaded) (TypedDriver .ready) :=
  let (result, inner) := driver.inner.start
  let driver : TypedDriver .firmwareLoaded := { inner }
  match result with
  | .ok () => .ok (driver.changeState .ready)
  | .error error => .error { driver, error }

/-! ### Methods that only an operational driver has -/

def allocateBuffer (_ : Operational S) (driver : TypedDriver S) (capacity : Nat) :
    Except DriverApiError BufferId × TypedDriver S :=
  let (result, inner) := driver.inner.allocateBuffer capacity
  (result, { inner })

def writeBuffer (_ : Operational S) (driver : TypedDriver S) (id : BufferId) (data : List UInt8) :
    Exec (Except DriverApiError Unit × TypedDriver S) := do
  let (result, inner) ← driver.inner.writeBuffer id data
  return (result, { inner })

def submit (_ : Operational S) (driver : TypedDriver S) (bufferId : BufferId)
    (command : RawCommand) : Exec (Except DriverApiError Unit × TypedDriver S) := do
  let (result, inner) ← driver.inner.submit bufferId command
  return (result, { inner })

def nextSubmission (_ : Operational S) (driver : TypedDriver S) :
    Option ValidatedSubmission × TypedDriver S :=
  let (result, inner) := driver.inner.nextSubmission
  (result, { inner })

def queuedLen (_ : Operational S) (driver : TypedDriver S) : Nat := driver.inner.queuedLen

def isQueueFull (_ : Operational S) (driver : TypedDriver S) : Bool := driver.inner.isQueueFull

end TypedDriver

end GpuDriverLab
