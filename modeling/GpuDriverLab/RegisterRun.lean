import GpuDriverLab.RegisterFields
import GpuDriverLab.Interrupts
import GpuDriverLab.Machine.Trace

/-!
# Runs of the register block

`registerMachine` is the register block under the operations of a client, the
typed reads and writes included: an operation carries the permission that its
call would need. What an operation stores is said once, in `stored`.
-/

namespace GpuDriverLab
set_option autoImplicit false
open Rust

/-- The calls that the types allow a client to make. -/
inductive RegisterOp where
  | read {A : RegisterAccess} (permission : ReadableAccess A) (register : Register A)
      (declared : register.Declared)
  | write {A : RegisterAccess} (permission : WritableAccess A) (register : Register A)
      (declared : register.Declared) (value : UInt32)
  | readControl
  | writeControl (value : ControlValue)
  | modifyControl (update : ControlValue → ControlValue)
  | readStatus
  | issueCommand (command : CommandWord)
  | readInterruptStatus
  | ackInterrupts (events : InterruptEvents)

inductive RegisterResult where
  | value (result : Except RegisterBlockError UInt32)
  | done (result : Except RegisterBlockError Unit)
  | control (result : Except RegisterBlockError ControlValue)
  | status (result : Except RegisterBlockError StatusSnapshot)
  | interrupts (result : Except RegisterBlockError InterruptSnapshot)
deriving DecidableEq

/-- The call returned `Ok`. -/
def RegisterResult.Succeeds : RegisterResult → Prop
  | value result => ∃ a, result = .ok a
  | done result => ∃ a, result = .ok a
  | control result => ∃ a, result = .ok a
  | status result => ∃ a, result = .ok a
  | interrupts result => ∃ a, result = .ok a

def registerMachine : Machine GpuRegisterBlock RegisterOp RegisterResult where
  step block
    | .read _ register _ => .ret (.value (block.read register), block)
    | .write _ register _ value =>
      .ret (.done (block.write register value).1, (block.write register value).2)
    | .readControl => .ret (.control block.readControl, block)
    | .writeControl value => .ret (.done (block.writeControl value).1, (block.writeControl value).2)
    | .modifyControl update =>
      .ret (.control (block.modifyControl update).1, (block.modifyControl update).2)
    | .readStatus => .ret (.status block.readStatus, block)
    | .issueCommand command => .ret (.done (block.issueCommand command).1, (block.issueCommand command).2)
    | .readInterruptStatus => .ret (.interrupts block.readInterruptStatus, block)
    | .ackInterrupts events => .ret (.done (block.ackInterrupts events).1, (block.ackInterrupts events).2)

namespace RegisterOp

/-- The cell that an operation stores into, and the word; `current` is the control word before it. -/
def stored (current : UInt32) : RegisterOp → Option (Nat × UInt32)
  | write _ register _ value => some (register.index, value)
  | writeControl value => some (Register.control.index, value.raw)
  | modifyControl update => some (Register.control.index, (update (.fromRaw current)).raw)
  | issueCommand command => some (Register.command.index, command.raw)
  | ackInterrupts events => some (Register.intAck.index, events.bits)
  | read .. | readControl | readStatus | readInterruptStatus => none

/-- Stores go to the three writable registers. -/
theorem stored_writable {current : UInt32} {op : RegisterOp} {index : Nat} {value : UInt32}
    (store : op.stored current = some (index, value)) :
    index = Register.control.index ∨ index = Register.command.index ∨ index = Register.intAck.index := by
  cases op with
  | write permission register declared word =>
    cases store
    cases declared with
    | control => exact Or.inl rfl
    | command => exact Or.inr (Or.inl rfl)
    | intAck => exact Or.inr (Or.inr rfl)
    | status | intStatus => cases permission
  | writeControl value | modifyControl update =>
    cases store
    exact Or.inl rfl
  | issueCommand command =>
    cases store
    exact Or.inr (Or.inl rfl)
  | ackInterrupts events =>
    cases store
    exact Or.inr (Or.inr rfl)
  | read | readControl | readStatus | readInterruptStatus => cases store

/-- The control word after an operation. -/
def controlAfter (current : UInt32) (op : RegisterOp) : UInt32 :=
  match op.stored current with
  | some (index, value) => if index = Register.control.index then value else current
  | none => current

/-- The last value written to the control register by a sequence of operations. -/
def lastControl (initial : UInt32) (ops : List RegisterOp) : UInt32 := ops.foldl controlAfter initial

end RegisterOp

namespace GpuRegisterBlock

/-- The block after the store of an operation. -/
def after (block : GpuRegisterBlock) : Option (Nat × UInt32) → GpuRegisterBlock
  | some (index, value) => block.put index value
  | none => block

/-- **Step lemma.** Every operation succeeds, and stores what `stored` says. -/
theorem step_after (block : GpuRegisterBlock) (op : RegisterOp) :
    ∃ r, registerMachine.step block op = .ret (r, block.after (op.stored block.controlWord)) ∧ r.Succeeds := by
  cases op with
  | read permission register declared =>
    obtain ⟨value, run, -⟩ := block.read_returns declared
    exact ⟨_, rfl, value, run⟩
  | write permission register declared value =>
    refine ⟨.done (.ok ()), ?_, (), rfl⟩
    simp only [registerMachine, write_eq declared]
    rfl
  | readControl => exact ⟨_, rfl, _, block.readControl_eq⟩
  | writeControl value =>
    refine ⟨.done (.ok ()), ?_, (), rfl⟩
    simp only [registerMachine, writeControl_eq]
    rfl
  | modifyControl update =>
    refine ⟨.control (.ok (update (.fromRaw block.controlWord))), ?_, _, rfl⟩
    simp only [registerMachine, modifyControl_eq]
    rfl
  | readStatus =>
    obtain ⟨raw, run, -⟩ := block.readStatus_returns
    exact ⟨_, rfl, _, run⟩
  | issueCommand command =>
    refine ⟨.done (.ok ()), ?_, (), rfl⟩
    simp only [registerMachine, issueCommand_eq]
    rfl
  | readInterruptStatus =>
    obtain ⟨raw, run, -⟩ := block.readInterruptStatus_returns
    exact ⟨_, rfl, _, run⟩
  | ackInterrupts events =>
    refine ⟨.done (.ok ()), ?_, (), rfl⟩
    simp only [registerMachine, ackInterrupts_eq]
    rfl

section Run

variable {storage : List UInt32} {block : GpuRegisterBlock}

/-- The cells that the device alone may change, and those the block knows nothing of. -/
def Untouched (storage cells : List UInt32) : Prop :=
  ∀ i, i ≠ Register.control.index → i ≠ Register.command.index → i ≠ Register.intAck.index →
    cells[i]? = storage[i]?

/-- One operation leaves the untouchable cells and the size of the storage. -/
theorem after_untouched {current : UInt32} {op : RegisterOp}
    (kept : Untouched storage block.cells) : Untouched storage (block.after (op.stored current)).cells := by
  intro i control command intAck
  cases store : op.stored current with
  | none => exact kept i control command intAck
  | some cell =>
    obtain ⟨index, value⟩ := cell
    have other : index ≠ i := by
      rintro rfl
      obtain here | here | here := RegisterOp.stored_writable store
      · exact control here
      · exact command here
      · exact intAck here
    show (block.put index value).cells[i]? = _
    rw [cells_put, List.getElem?_set_ne other]
    exact kept i control command intAck

theorem after_length (store : Option (Nat × UInt32)) : (block.after store).cells.length = block.cells.length := by
  cases store with
  | none => rfl
  | some cell => exact List.length_set

/-- The control cell holds the control word after the operation. -/
theorem after_controlWord (op : RegisterOp) :
    (block.after (op.stored block.controlWord)).controlWord = op.controlAfter block.controlWord := by
  rw [RegisterOp.controlAfter]
  cases op.stored block.controlWord with
  | none => rfl
  | some written => exact block.controlWord_put written.1 written.2

/-- What a run over `storage` has kept and what it has changed. -/
structure Ran (storage : List UInt32) (initial : UInt32) (ops : List RegisterOp) (block : GpuRegisterBlock) :
    Prop where
  length : block.cells.length = storage.length
  untouched : Untouched storage block.cells
  controlWord : block.controlWord = RegisterOp.lastControl initial ops

/-- **Run lemma.** Every list of operations runs, each operation succeeds, and
the control word is the last one written. -/
theorem run_ran (block : GpuRegisterBlock) (ops : List RegisterOp) :
    ∃ rs after, registerMachine.run block ops = .ret (rs, after) ∧ (∀ r ∈ rs, r.Succeeds) ∧
      after.Ran block.cells block.controlWord ops := by
  induction ops using List.reverseRecOn with
  | nil => exact ⟨[], block, rfl, by simp, rfl, fun _ _ _ _ => rfl, rfl⟩
  | append_singleton ops op ih =>
    obtain ⟨rs, before, run, succeeded, ran⟩ := ih
    obtain ⟨r, step, succeeds⟩ := before.step_after op
    refine ⟨rs ++ [r], _, Machine.run_snoc.mpr ⟨before, run, step⟩, ?_, ?_, ?_, ?_⟩
    · intro r' member
      obtain earlier | last := List.mem_append.mp member
      · exact succeeded r' earlier
      · rw [List.mem_singleton.mp last]
        exact succeeds
    · rw [after_length, ran.length]
    · exact after_untouched ran.untouched
    · rw [after_controlWord, ran.controlWord, RegisterOp.lastControl, RegisterOp.lastControl,
        List.foldl_append]
      rfl

/-- What the client of a block over `storage` can rely on after `ops`. -/
structure Confined (storage : List UInt32) (ops : List RegisterOp) (block : GpuRegisterBlock) : Prop where
  length : block.cells.length = storage.length
  status : block.cells[Register.status.index]? = storage[Register.status.index]?
  intStatus : block.cells[Register.intStatus.index]? = storage[Register.intStatus.index]?
  beyond : ∀ i, requiredRegisters ≤ i → block.cells[i]? = storage[i]?
  control : ∃ initial, storage[Register.control.index]? = some initial ∧
    block.read .control = .ok (RegisterOp.lastControl initial ops) ∧
    block.readControl = .ok (.fromRaw (RegisterOp.lastControl initial ops)) ∧
    ∀ update, (block.modifyControl update).1 = .ok (update (.fromRaw (RegisterOp.lastControl initial ops)))
  command : ∀ command : CommandWord, ∃ opcode queueId after, command = .new opcode queueId ∧
    block.issueCommand command = (.ok (), after) ∧
    after.cells[Register.command.index]? = some command.raw ∧ command.raw &&& ~~~0x0000FF0F = 0 ∧
    command.opcodeBits = opcode.bits ∧ command.queueId = queueId
  ack : ∀ events : InterruptEvents, ∃ after, block.ackInterrupts events = (.ok (), after) ∧
    after.cells[Register.intAck.index]? = some events.bits ∧ events.bits &&& ~~~0b1111 = 0

theorem Ran.confined {ops : List RegisterOp} {initial : UInt32}
    (start : storage[Register.control.index]? = some initial) (ran : block.Ran storage initial ops) :
    block.Confined storage ops where
  length := ran.length
  status := ran.untouched _ (by decide) (by decide) (by decide)
  intStatus := ran.untouched _ (by decide) (by decide) (by decide)
  beyond := by
    intro i beyond
    have past : 5 ≤ i := beyond
    apply ran.untouched <;> simp only [Register.control, Register.command, Register.intAck] <;> omega
  control := by
    refine ⟨initial, start, ?_, ?_, ?_⟩
    · rw [← ran.controlWord]
      exact (read_eq_ok .control).mpr block.controlWord_cell
    · rw [← ran.controlWord]
      exact block.readControl_eq
    · intro update
      rw [← ran.controlWord, modifyControl_eq]
  command := by
    intro command
    obtain ⟨opcode, queueId, rfl⟩ := command.eq_new
    have room := Nat.lt_of_lt_of_le Register.Declared.command.inside block.five_cells
    exact ⟨opcode, queueId, _, rfl, block.issueCommand_eq _, List.getElem?_set_self room,
      CommandWord.encode_confined opcode queueId, CommandWord.new_opcodeBits opcode queueId,
      CommandWord.new_queueId opcode queueId⟩
  ack := by
    intro events
    have room := Nat.lt_of_lt_of_le Register.Declared.intAck.inside block.five_cells
    exact ⟨_, block.ackInterrupts_eq events, List.getElem?_set_self room, events.valid⟩

/-- **The register block touches only what it may.** A storage with room for the
registers is accepted, and then every sequence of client calls succeeds and is
confined; a shorter one is rejected and left as it was. -/
theorem register_block_confined (storage : List UInt32) :
    (storage.length < 5 ∧
      GpuRegisterBlock.fromSlice storage = (.error (.regionTooSmall 5 storage.length), storage)) ∨
    (5 ≤ storage.length ∧ ∃ block, GpuRegisterBlock.fromSlice storage = (.ok block, storage) ∧
      ∀ ops, ∃ rs after, registerMachine.run block ops = .ret (rs, after) ∧ (∀ r ∈ rs, r.Succeeds) ∧
        after.Confined storage ops) := by
  obtain ⟨short, rejected⟩ | ⟨long, block, accepted, rfl⟩ := fromSlice_cases storage
  · exact Or.inl ⟨short, rejected⟩
  · refine Or.inr ⟨long, block, accepted, ?_⟩
    intro ops
    obtain ⟨rs, after, run, succeeded, ran⟩ := block.run_ran ops
    exact ⟨rs, after, run, succeeded, ran.confined block.controlWord_cell⟩

end Run

end GpuRegisterBlock

end GpuDriverLab
