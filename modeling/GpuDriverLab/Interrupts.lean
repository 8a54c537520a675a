import GpuDriverLab.Registers

/-!
# Interrupt events (`interrupts.rs`)

An event set has bits of the four known events only: its field is private in
the source, and every way to make one keeps it inside the valid mask.
-/

namespace GpuDriverLab
set_option autoImplicit false

def commandCompleteMask : UInt32 := 0b0001
def queueFaultMask : UInt32 := 0b0010
def thermalWarningMask : UInt32 := 0b0100
def firmwareFaultMask : UInt32 := 0b1000

def validInterruptMask : UInt32 :=
  commandCompleteMask ||| queueFaultMask ||| thermalWarningMask ||| firmwareFaultMask

/-- A set of known interrupt events. -/
structure InterruptEvents where
  bits : UInt32
  valid : bits &&& ~~~validInterruptMask = 0
deriving DecidableEq

namespace InterruptEvents

def none : InterruptEvents := { bits := 0, valid := by decide }
def commandComplete : InterruptEvents := { bits := commandCompleteMask, valid := by decide }
def queueFault : InterruptEvents := { bits := queueFaultMask, valid := by decide }
def thermalWarning : InterruptEvents := { bits := thermalWarningMask, valid := by decide }
def firmwareFault : InterruptEvents := { bits := firmwareFaultMask, valid := by decide }

theorem or_valid {a b : UInt32} (ha : a &&& ~~~validInterruptMask = 0) (hb : b &&& ~~~validInterruptMask = 0) :
    (a ||| b) &&& ~~~validInterruptMask = 0 := by
  have split : (a ||| b) &&& ~~~validInterruptMask =
      (a &&& ~~~validInterruptMask) ||| (b &&& ~~~validInterruptMask) :=
    UInt32.toBitVec_inj.mp BitVec.and_or_distrib_right
  rw [split, ha, hb]
  rfl

/-- `BitOr`. -/
def bitor (a b : InterruptEvents) : InterruptEvents :=
  { bits := a.bits ||| b.bits, valid := or_valid a.valid b.valid }

/-- `BitOrAssign`: the left operand after the call. -/
def bitorAssign (a b : InterruptEvents) : InterruptEvents :=
  { a with bits := a.bits ||| b.bits, valid := or_valid a.valid b.valid }

def contains (events event : InterruptEvents) : Bool := events.bits &&& event.bits == event.bits

theorem masked_valid (bits : UInt32) : bits &&& validInterruptMask &&& ~~~validInterruptMask = 0 := by
  rw [UInt32.and_assoc]
  simp

def fromStatusBits (bits : UInt32) : InterruptEvents :=
  { bits := bits &&& validInterruptMask, valid := masked_valid bits }

def isEmpty (events : InterruptEvents) : Bool := events.bits == 0

end InterruptEvents

structure InterruptSnapshot where
  raw : UInt32
deriving DecidableEq, Repr

namespace InterruptSnapshot

def fromRaw (raw : UInt32) : InterruptSnapshot := { raw }

def events (snapshot : InterruptSnapshot) : InterruptEvents := .fromStatusBits snapshot.raw

/-- The events of some snapshot are all the event sets there are. -/
theorem exists_events (events : InterruptEvents) : ∃ raw, events = (fromRaw raw).events := by
  obtain ⟨bits, valid⟩ := events
  refine ⟨bits, ?_⟩
  have whole : bits &&& validInterruptMask = bits := by
    have split : bits = (bits &&& validInterruptMask) ||| (bits &&& ~~~validInterruptMask) := by
      apply UInt32.toBitVec_inj.mp
      rw [UInt32.toBitVec_or, UInt32.toBitVec_and, UInt32.toBitVec_and, UInt32.toBitVec_not,
        ← BitVec.and_or_distrib_left, BitVec.or_not_self, BitVec.and_allOnes]
    rw [valid] at split
    simpa using split.symm
  simp only [InterruptSnapshot.events, fromRaw, InterruptEvents.fromStatusBits, whole]

def has (snapshot : InterruptSnapshot) (event : InterruptEvents) : Bool := snapshot.events.contains event

end InterruptSnapshot

namespace GpuRegisterBlock

def readInterruptStatus (block : GpuRegisterBlock) : Except RegisterBlockError InterruptSnapshot :=
  (block.read .intStatus).map InterruptSnapshot.fromRaw

def ackInterrupts (block : GpuRegisterBlock) (events : InterruptEvents) :
    Except RegisterBlockError Unit × GpuRegisterBlock :=
  block.write .intAck events.bits

section Access

variable (block : GpuRegisterBlock)

theorem readInterruptStatus_returns :
    ∃ raw, block.readInterruptStatus = .ok (.fromRaw raw) ∧ block.cells[3]? = some raw := by
  obtain ⟨raw, read, cell⟩ := block.read_returns .intStatus
  exact ⟨raw, by rw [readInterruptStatus, read]; rfl, cell⟩

theorem ackInterrupts_eq (events : InterruptEvents) :
    block.ackInterrupts events = (.ok (), block.put 4 events.bits) :=
  write_eq .intAck events.bits

end Access

end GpuRegisterBlock

inductive InterruptError where
  | register (e : RegisterBlockError)
deriving DecidableEq, Repr

/-- The controller has no state of its own; the block is the caller's. -/
structure InterruptController where

namespace InterruptController

def new : InterruptController := {}

def pending (_ : InterruptController) (registers : GpuRegisterBlock) : Except InterruptError InterruptSnapshot :=
  registers.readInterruptStatus.mapError .register

def ack (_ : InterruptController) (registers : GpuRegisterBlock) (events : InterruptEvents) :
    Except InterruptError Unit × GpuRegisterBlock :=
  ((registers.ackInterrupts events).1.mapError .register, (registers.ackInterrupts events).2)

theorem pending_returns (controller : InterruptController) (block : GpuRegisterBlock) :
    ∃ raw, controller.pending block = .ok (.fromRaw raw) ∧ block.cells[Register.intStatus.index]? = some raw := by
  obtain ⟨raw, read, cell⟩ := block.readInterruptStatus_returns
  exact ⟨raw, by rw [pending, read]; rfl, cell⟩

theorem ack_eq (controller : InterruptController) (block : GpuRegisterBlock) (events : InterruptEvents) :
    controller.ack block events = (.ok (), block.put Register.intAck.index events.bits) := by
  rw [ack, block.ackInterrupts_eq]
  rfl

end InterruptController

end GpuDriverLab
