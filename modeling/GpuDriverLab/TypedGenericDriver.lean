import GpuDriverLab.GenericDriver
import GpuDriverLab.TypedDriver

/-!
# Lifecycle and backend in the type (`typed_generic_driver.rs`, `submission_session.rs`)

The typed wrapper over the generic driver, and the session that borrows it
exclusively for submissions. A session owns the driver for as long as it lives;
`finish` and dropping it give the driver back.
-/

namespace GpuDriverLab
set_option autoImplicit false
open Rust

structure TypedGenericGpuDriver (S : DriverState) (Q : Type) where
  inner : GenericGpuDriver Q

/-- Failed lifecycle transition preserving both the driver and its queue backend. -/
structure GenericTransitionError (S : DriverState) (Q : Type) [SubmissionQueue Q] where
  driver : TypedGenericGpuDriver S Q
  error : GenericGpuDriver.Error Q

namespace GenericTransitionError

variable {S : DriverState} {Q : Type} [SubmissionQueue Q]

def intoDriver (failure : GenericTransitionError S Q) : TypedGenericGpuDriver S Q := failure.driver

def intoParts (failure : GenericTransitionError S Q) :
    TypedGenericGpuDriver S Q × GenericGpuDriver.Error Q :=
  (failure.driver, failure.error)

end GenericTransitionError

/-- Exclusive, lifetime-bound access to the submission API. -/
structure SubmissionSession (S : DriverState) (Q : Type) where
  driver : TypedGenericGpuDriver S Q

namespace TypedGenericGpuDriver

variable {S : DriverState} {Q : Type}

def stateName (_driver : TypedGenericGpuDriver S Q) : String := S.name

def runtimeState (driver : TypedGenericGpuDriver S Q) : DeviceState := driver.inner.state

/-- Change only the compile-time marker. -/
def changeState (T : DriverState) (driver : TypedGenericGpuDriver S Q) : TypedGenericGpuDriver T Q :=
  { inner := driver.inner }

def new (queue : Q) : TypedGenericGpuDriver .offline Q := { inner := .new queue }

variable [SubmissionQueue Q]

def loadFirmware (driver : TypedGenericGpuDriver .offline Q) (image : List UInt8) :
    Exec (Except (GenericTransitionError .offline Q) (TypedGenericGpuDriver .firmwareLoaded Q)) := do
  let (result, inner) ← driver.inner.loadFirmware image
  let driver : TypedGenericGpuDriver .offline Q := { inner }
  match result with
  | .ok () => return .ok (driver.changeState .firmwareLoaded)
  | .error error => return .error { driver, error }

def start (driver : TypedGenericGpuDriver .firmwareLoaded Q) :
    Except (GenericTransitionError .firmwareLoaded Q) (TypedGenericGpuDriver .ready Q) :=
  let (result, inner) := driver.inner.start
  let driver : TypedGenericGpuDriver .firmwareLoaded Q := { inner }
  match result with
  | .ok () => .ok (driver.changeState .ready)
  | .error error => .error { driver, error }

/-! ### Methods that only an operational driver has -/

def beginSubmissionSession (_ : Operational S) (driver : TypedGenericGpuDriver S Q) :
    SubmissionSession S Q :=
  { driver }

def allocateBuffer (_ : Operational S) (driver : TypedGenericGpuDriver S Q) (capacity : Nat) :
    Except (GenericGpuDriver.Error Q) BufferId × TypedGenericGpuDriver S Q :=
  let (result, inner) := driver.inner.allocateBuffer capacity
  (result, { inner })

def writeBuffer (_ : Operational S) (driver : TypedGenericGpuDriver S Q) (id : BufferId)
    (data : List UInt8) : Exec (Except (GenericGpuDriver.Error Q) Unit × TypedGenericGpuDriver S Q) := do
  let (result, inner) ← driver.inner.writeBuffer id data
  return (result, { inner })

def submit (_ : Operational S) (driver : TypedGenericGpuDriver S Q) (bufferId : BufferId)
    (command : RawCommand) :
    Exec (Except (GenericGpuDriver.Error Q) Unit × TypedGenericGpuDriver S Q) := do
  let (result, inner) ← driver.inner.submit bufferId command
  return (result, { inner })

def nextSubmission (_ : Operational S) (driver : TypedGenericGpuDriver S Q) :
    Exec (Option ValidatedSubmission × TypedGenericGpuDriver S Q) := do
  let (result, inner) ← driver.inner.nextSubmission
  return (result, { inner })

def peekSubmission (_ : Operational S) (driver : TypedGenericGpuDriver S Q) :
    Exec (Option ValidatedSubmission) :=
  driver.inner.peekSubmission

def queuedLen (_ : Operational S) (driver : TypedGenericGpuDriver S Q) : Exec Nat :=
  driver.inner.queuedLen

def isQueueEmpty (_ : Operational S) (driver : TypedGenericGpuDriver S Q) : Exec Bool :=
  driver.inner.isQueueEmpty

def isQueueFull (_ : Operational S) (driver : TypedGenericGpuDriver S Q) : Exec Bool :=
  driver.inner.isQueueFull

end TypedGenericGpuDriver

namespace SubmissionSession

variable {S : DriverState} {Q : Type} [SubmissionQueue Q]

def submit (operational : Operational S) (session : SubmissionSession S Q) (bufferId : BufferId)
    (command : RawCommand) : Exec (Except (GenericGpuDriver.Error Q) Unit × SubmissionSession S Q) := do
  let (result, driver) ← session.driver.submit operational bufferId command
  return (result, { driver })

def queuedLen (operational : Operational S) (session : SubmissionSession S Q) : Exec Nat :=
  session.driver.queuedLen operational

def isQueueEmpty (operational : Operational S) (session : SubmissionSession S Q) : Exec Bool :=
  session.driver.isQueueEmpty operational

def isQueueFull (operational : Operational S) (session : SubmissionSession S Q) : Exec Bool :=
  session.driver.isQueueFull operational

def stateName (session : SubmissionSession S Q) : String := session.driver.stateName

/-- The end of the session's exclusive borrow. -/
def finish (session : SubmissionSession S Q) : TypedGenericGpuDriver S Q := session.driver

end SubmissionSession

end GpuDriverLab
