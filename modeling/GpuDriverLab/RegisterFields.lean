import GpuDriverLab.Registers
import Mathlib.Tactic.IntervalCases

/-!
# Fields of the registers (`register_fields.rs`)

The control word with its update functions, the status word, and the command
word. A command word has no constructor but `new` in the source; the value
carries what it was made from.
-/

namespace GpuDriverLab
set_option autoImplicit false

inductive PowerMode where
  | idle
  | lowPower
  | normal
  | performance
deriving DecidableEq, Repr

namespace PowerMode

/-- `bits & 0b11` has no fifth value. -/
theorem two_bits (bits : UInt32) (zero : bits &&& 0b11 ≠ 0) (one : bits &&& 0b11 ≠ 1)
    (two : bits &&& 0b11 ≠ 2) (three : bits &&& 0b11 ≠ 3) : False := by
  have low : (bits &&& 0b11).toNat = bits.toNat % 4 := by
    rw [UInt32.toNat_and]
    exact Nat.and_two_pow_sub_one_eq_mod bits.toNat 2
  simp only [ne_eq, ← UInt32.toNat_inj, low] at zero one two three
  simp at zero one two three
  omega

/-- `From<u32>`. -/
def ofBits (bits : UInt32) : PowerMode :=
  if zero : bits &&& 0b11 = 0 then .idle
  else if one : bits &&& 0b11 = 1 then .lowPower
  else if two : bits &&& 0b11 = 2 then .normal
  else if three : bits &&& 0b11 = 3 then .performance
  -- `unreachable!()`
  else (two_bits bits zero one two three).elim

def bits : PowerMode → UInt32
  | idle => 0
  | lowPower => 1
  | normal => 2
  | performance => 3

end PowerMode

def controlEnableMask : UInt32 := 0b00001
def controlIrqEnableMask : UInt32 := 0b01000
def controlPowermodeMask : UInt32 := 0b00110
def controlPowermodeShift : UInt32 := 1

structure ControlValue where
  raw : UInt32
deriving DecidableEq, Repr

namespace ControlValue

def fromRaw (raw : UInt32) : ControlValue := { raw }

def enabled (value : ControlValue) : Bool := value.raw &&& controlEnableMask != 0

def irqEnabled (value : ControlValue) : Bool := value.raw &&& controlIrqEnableMask != 0

def powerMode (value : ControlValue) : PowerMode :=
  .ofBits ((value.raw &&& controlPowermodeMask) >>> controlPowermodeShift)

def withEnabled (value : ControlValue) (enabled : Bool) : ControlValue :=
  if enabled then { value with raw := value.raw ||| controlEnableMask }
  else { value with raw := value.raw &&& ~~~controlEnableMask }

def withIrqEnabled (value : ControlValue) (enabled : Bool) : ControlValue :=
  if enabled then { value with raw := value.raw ||| controlIrqEnableMask }
  else { value with raw := value.raw &&& ~~~controlIrqEnableMask }

def withPowerMode (value : ControlValue) (mode : PowerMode) : ControlValue :=
  { value with
    raw := (value.raw &&& ~~~controlPowermodeMask) |||
      ((mode.bits <<< controlPowermodeShift) &&& controlPowermodeMask) }

end ControlValue

namespace GpuRegisterBlock

def readControl (block : GpuRegisterBlock) : Except RegisterBlockError ControlValue :=
  (block.read .control).map ControlValue.fromRaw

def writeControl (block : GpuRegisterBlock) (value : ControlValue) :
    Except RegisterBlockError Unit × GpuRegisterBlock :=
  block.write .control value.raw

/-- Read, update, write back. -/
def modifyControl (block : GpuRegisterBlock) (update : ControlValue → ControlValue) :
    Except RegisterBlockError ControlValue × GpuRegisterBlock :=
  match block.readControl with
  | .error e => (.error e, block)
  | .ok current =>
    let updated := update current
    match block.writeControl updated with
    | (.error e, block) => (.error e, block)
    | (.ok (), block) => (.ok updated, block)

end GpuRegisterBlock

def statusReadyMask : UInt32 := 0b001
def statusBusyMask : UInt32 := 0b010
def statusFaultMask : UInt32 := 0b100

structure StatusSnapshot where
  raw : UInt32
deriving DecidableEq, Repr

namespace StatusSnapshot

def fromRaw (raw : UInt32) : StatusSnapshot := { raw }

def ready (status : StatusSnapshot) : Bool := status.raw &&& statusReadyMask != 0

def busy (status : StatusSnapshot) : Bool := status.raw &&& statusBusyMask != 0

def fault (status : StatusSnapshot) : Bool := status.raw &&& statusFaultMask != 0

end StatusSnapshot

namespace GpuRegisterBlock

def readStatus (block : GpuRegisterBlock) : Except RegisterBlockError StatusSnapshot :=
  (block.read .status).map StatusSnapshot.fromRaw

end GpuRegisterBlock

inductive CommandOpCode where
  | kick
  | flush
  | reset
deriving DecidableEq, Repr

def CommandOpCode.bits : CommandOpCode → UInt32
  | kick => 1
  | flush => 2
  | reset => 3

def commandOpcodeMask : UInt32 := 0b1111
def commandQueueShift : UInt32 := 8
def commandQueueMask : UInt32 := 0xFF <<< commandQueueShift

namespace CommandWord

/-- The bits of a command. -/
def encode (opcode : CommandOpCode) (queueId : UInt8) : UInt32 :=
  (opcode.bits &&& commandOpcodeMask) ||| (queueId.toUInt32 <<< commandQueueShift)

end CommandWord

/-- A word for the command register. -/
structure CommandWord where
  raw : UInt32
  made : ∃ opcode queueId, raw = CommandWord.encode opcode queueId

namespace CommandWord

def new (opcode : CommandOpCode) (queueId : UInt8) : CommandWord :=
  { raw := encode opcode queueId, made := ⟨opcode, queueId, rfl⟩ }

def queueId (word : CommandWord) : UInt8 :=
  ((word.raw &&& commandQueueMask) >>> commandQueueShift).toUInt8

def opcodeBits (word : CommandWord) : UInt32 := word.raw &&& commandOpcodeMask

/-- Every command word is a `new` one. -/
theorem eq_new (word : CommandWord) : ∃ opcode queueId, word = new opcode queueId := by
  obtain ⟨raw, opcode, queueId, rfl⟩ := word
  exact ⟨opcode, queueId, rfl⟩

theorem toBitVec_encode (opcode : CommandOpCode) (queueId : UInt8) :
    (encode opcode queueId).toBitVec = opcode.bits.toBitVec ||| (queueId.toBitVec.setWidth 32 <<< 8) := by
  cases opcode <;> rfl

/-- The opcode field holds the opcode. -/
theorem new_opcodeBits (opcode : CommandOpCode) (queueId : UInt8) :
    (new opcode queueId).opcodeBits = opcode.bits := by
  apply UInt32.toBitVec_inj.mp
  rw [opcodeBits, new, UInt32.toBitVec_and, toBitVec_encode]
  apply BitVec.eq_of_getLsbD_eq
  intro i inside
  cases opcode <;> interval_cases i <;> simp [commandOpcodeMask, CommandOpCode.bits]

/-- The queue field holds the queue id. -/
theorem new_queueId (opcode : CommandOpCode) (queueId : UInt8) : (new opcode queueId).queueId = queueId := by
  apply UInt8.toBitVec_inj.mp
  rw [CommandWord.queueId, new, UInt32.toBitVec_toUInt8, UInt32.toBitVec_shiftRight, UInt32.toBitVec_and,
    toBitVec_encode]
  apply BitVec.eq_of_getLsbD_eq
  intro i inside
  cases opcode <;> interval_cases i <;> simp [commandQueueMask, commandQueueShift, CommandOpCode.bits]

/-- No other bit is set. -/
theorem encode_confined (opcode : CommandOpCode) (queueId : UInt8) :
    encode opcode queueId &&& ~~~0x0000FF0F = 0 := by
  apply UInt32.toBitVec_inj.mp
  rw [UInt32.toBitVec_and, toBitVec_encode]
  apply BitVec.eq_of_getLsbD_eq
  intro i inside
  cases opcode <;> interval_cases i <;> simp [CommandOpCode.bits]

end CommandWord

namespace GpuRegisterBlock

def issueCommand (block : GpuRegisterBlock) (command : CommandWord) :
    Except RegisterBlockError Unit × GpuRegisterBlock :=
  block.write .command command.raw

section Access

variable (block : GpuRegisterBlock)

/-- The control word in the storage. -/
def controlWord : UInt32 := block.cells.get ⟨0, Nat.lt_of_lt_of_le (by decide) block.five_cells⟩

theorem controlWord_cell : block.cells[0]? = some block.controlWord := List.getElem?_eq_getElem _

/-- Only a store into the control cell changes the control word. -/
theorem controlWord_put (index : Nat) (value : UInt32) :
    (block.put index value).controlWord =
      if index = Register.control.index then value else block.controlWord := by
  simp only [controlWord, cells_put, List.get_eq_getElem, List.getElem_set]
  rfl

theorem readControl_eq : block.readControl = .ok (.fromRaw block.controlWord) := by
  have word : block.read .control = .ok block.controlWord := (read_eq_ok .control).mpr block.controlWord_cell
  rw [readControl, word]
  rfl

theorem writeControl_eq (value : ControlValue) :
    block.writeControl value = (.ok (), block.put 0 value.raw) :=
  write_eq .control value.raw

/-- The read-modify-write stores what the update makes of the stored word. -/
theorem modifyControl_eq (update : ControlValue → ControlValue) :
    block.modifyControl update = (.ok (update (.fromRaw block.controlWord)),
      block.put 0 (update (.fromRaw block.controlWord)).raw) := by
  simp only [modifyControl, readControl_eq, writeControl_eq]

theorem readStatus_returns : ∃ raw, block.readStatus = .ok (.fromRaw raw) ∧ block.cells[1]? = some raw := by
  obtain ⟨raw, read, cell⟩ := block.read_returns .status
  exact ⟨raw, by rw [readStatus, read]; rfl, cell⟩

theorem issueCommand_eq (command : CommandWord) :
    block.issueCommand command = (.ok (), block.put 2 command.raw) :=
  write_eq .command command.raw

end Access

end GpuRegisterBlock

end GpuDriverLab
