import GpuDriverLab.Machine.Unwinding
import GpuDriverLab.RegisterRun

/-!
# The register block beside the hardware

The registers are volatile: while a client holds the block, the hardware may
post any word into any cell that no client may write. `sharedMachine` is the
block under the client, the interrupt controller and the hardware, in any order.
Each cell has one owner, and a party that does not look at the other's cells
runs as if it were alone.
-/

namespace GpuDriverLab
set_option autoImplicit false
open Rust

/-- The cells that a client may write. -/
def ClientCell (index : Nat) : Prop :=
  index = Register.control.index ∨ index = Register.command.index ∨ index = Register.intAck.index

instance (index : Nat) : Decidable (ClientCell index) := by
  unfold ClientCell
  infer_instance

/-- A word that the hardware stores into a cell of its own. -/
structure HardwarePost where
  index : Nat
  value : UInt32
  owned : ¬ ClientCell index

inductive SharedOp where
  | client (op : RegisterOp)
  | pending
  | ack (events : InterruptEvents)
  | post (word : HardwarePost)

inductive SharedResult where
  | client (result : RegisterResult)
  | pending (result : Except InterruptError InterruptSnapshot)
  | acked (result : Except InterruptError Unit)
  | posted

/-- The call returned `Ok`. -/
def SharedResult.Succeeds : SharedResult → Prop
  | client result => result.Succeeds
  | pending result => ∃ a, result = .ok a
  | acked result => ∃ a, result = .ok a
  | posted => True

/-- Between any two calls on the block the hardware may post. A post between the two accesses
of `modify_control` would not touch the cell of either. -/
def sharedMachine : Machine GpuRegisterBlock SharedOp SharedResult where
  step block
    | .client op => do
      let (r, block) ← registerMachine.step block op
      return (.client r, block)
    | .pending => .ret (.pending (InterruptController.new.pending block), block)
    | .ack events =>
      .ret (.acked (InterruptController.new.ack block events).1, (InterruptController.new.ack block events).2)
    | .post word => .ret (.posted, block.put word.index word.value)

/-- The operation reads a cell that the hardware posts to. -/
def RegisterOp.looks : RegisterOp → Bool
  | read _ register _ => decide (¬ ClientCell register.index)
  | readStatus | readInterruptStatus => true
  | write .. | readControl | writeControl _ | modifyControl _ | issueCommand _ | ackInterrupts _ => false

namespace SharedOp

/-- The cell that an operation stores into, and the word. -/
def stored (current : UInt32) : SharedOp → Option (Nat × UInt32)
  | client op => op.stored current
  | pending => none
  | ack events => some (Register.intAck.index, events.bits)
  | post word => some (word.index, word.value)

def isPost : SharedOp → Bool
  | post _ => true
  | client _ | pending | ack _ => false

/-- Calls of the client that neither are posts nor show one. -/
def blind : SharedOp → Bool
  | client op => !op.looks
  | ack _ => true
  | pending | post _ => false

theorem stored_client {current : UInt32} {op : SharedOp} {index : Nat} {value : UInt32}
    (mine : op.isPost = false) (store : op.stored current = some (index, value)) : ClientCell index := by
  cases op with
  | client op => exact RegisterOp.stored_writable store
  | pending => cases store
  | ack events =>
    cases store
    exact Or.inr (Or.inr rfl)
  | post word => cases mine

/-- A cell that only posts reach, after an operation. -/
def postedAfter (index : Nat) (current : Option UInt32) : SharedOp → Option UInt32
  | post word => if word.index = index then current.map fun _ => word.value else current
  | client _ | pending | ack _ => current

/-- The last word posted to a cell of the storage, or its first one. -/
def lastPosted (initial : Option UInt32) (index : Nat) (ops : List SharedOp) : Option UInt32 :=
  ops.foldl (postedAfter index) initial

theorem lastPosted_snoc (initial : Option UInt32) (index : Nat) (ops : List SharedOp) (op : SharedOp) :
    lastPosted initial index (ops ++ [op]) = postedAfter index (lastPosted initial index ops) op :=
  List.foldl_append

/-- What the client asked of the block. -/
def clientOps (ops : List SharedOp) : List RegisterOp :=
  ops.filterMap fun
    | client op => some op
    | pending | ack _ | post _ => none

end SharedOp

namespace GpuRegisterBlock

theorem getElem?_put (block : GpuRegisterBlock) (index i : Nat) (value : UInt32) :
    (block.put index value).cells[i]? = if index = i then block.cells[i]?.map fun _ => value else block.cells[i]? := by
  rw [cells_put, List.getElem?_set]
  split
  · rename_i here
    subst here
    by_cases inside : index < block.cells.length
    · rw [if_pos inside, List.getElem?_eq_getElem inside]
      rfl
    · rw [if_neg inside, List.getElem?_eq_none (Nat.le_of_not_lt inside)]
      rfl
  · rfl

/-- Equal at the cells of one party. -/
def AgreeOn (own : Nat → Prop) (a b : GpuRegisterBlock) : Prop := ∀ i, own i → a.cells[i]? = b.cells[i]?

variable {own : Nat → Prop} {a b : GpuRegisterBlock}

/-- The same store keeps the agreement. -/
theorem AgreeOn.after (same : AgreeOn own a b) (store : Option (Nat × UInt32)) :
    AgreeOn own (a.after store) (b.after store) := by
  intro i mine
  cases store with
  | none => exact same i mine
  | some written =>
    show (a.put written.1 written.2).cells[i]? = (b.put written.1 written.2).cells[i]?
    rw [getElem?_put, getElem?_put, same i mine]

/-- A store of the other party is not seen. -/
theorem AgreeOn.after_left (same : AgreeOn own a b) {store : Option (Nat × UInt32)}
    (theirs : ∀ index value, store = some (index, value) → ¬ own index) : AgreeOn own (a.after store) b := by
  intro i mine
  cases store with
  | none => exact same i mine
  | some written =>
    have other : written.1 ≠ i := by
      rintro rfl
      exact theirs written.1 written.2 rfl mine
    show (a.put written.1 written.2).cells[i]? = _
    rw [getElem?_put, if_neg other]
    exact same i mine

theorem AgreeOn.controlWord (same : AgreeOn ClientCell a b) : a.controlWord = b.controlWord := by
  have cell := same 0 (Or.inl rfl)
  rw [a.controlWord_cell, b.controlWord_cell] at cell
  exact Option.some.inj cell

/-- **Step lemma.** Every call of every party succeeds, and stores what `stored` says. -/
theorem shared_step (block : GpuRegisterBlock) (op : SharedOp) :
    ∃ r, sharedMachine.step block op = .ret (r, block.after (op.stored block.controlWord)) ∧ r.Succeeds := by
  cases op with
  | client op =>
    obtain ⟨r, step, succeeds⟩ := block.step_after op
    refine ⟨.client r, ?_, succeeds⟩
    simp only [sharedMachine, step, Exec.bind_def, Exec.ret_bind, Exec.pure_def]
    rfl
  | pending =>
    obtain ⟨raw, run, -⟩ := InterruptController.new.pending_returns block
    exact ⟨_, rfl, _, run⟩
  | ack events =>
    refine ⟨.acked (.ok ()), ?_, (), rfl⟩
    simp only [sharedMachine, InterruptController.ack_eq]
    rfl
  | post word => exact ⟨.posted, rfl, trivial⟩

/-- A blind call answers by the cells of the client. -/
theorem blind_step {op : SharedOp} (blind : op.blind = true) (same : AgreeOn ClientCell a b) :
    (sharedMachine.step a op).Rel (fun p q => p.1 = q.1 ∧ AgreeOn ClientCell p.2 q.2) (sharedMachine.step b op) := by
  have word := same.controlWord
  cases op with
  | pending | post => cases blind
  | ack events =>
    simp only [sharedMachine, InterruptController.ack_eq]
    exact ⟨rfl, same.after (some (Register.intAck.index, events.bits))⟩
  | client op =>
    simp only [sharedMachine, Exec.bind_def, Exec.pure_def]
    cases op with
    | readStatus | readInterruptStatus => cases blind
    | read permission register declared =>
      have own : ClientCell register.index := by simpa [SharedOp.blind, RegisterOp.looks] using blind
      obtain ⟨value, run, cell⟩ := a.read_returns declared
      rw [same register.index own] at cell
      simp only [registerMachine, run, (read_eq_ok declared).mpr cell]
      exact ⟨rfl, same⟩
    | write permission register declared value =>
      simp only [registerMachine, write_eq declared]
      exact ⟨rfl, same.after (some (register.index, value))⟩
    | readControl =>
      simp only [registerMachine, readControl_eq, word]
      exact ⟨rfl, same⟩
    | writeControl value =>
      simp only [registerMachine, writeControl_eq]
      exact ⟨rfl, same.after (some (Register.control.index, value.raw))⟩
    | modifyControl update =>
      simp only [registerMachine, modifyControl_eq, word]
      exact ⟨rfl, same.after (some (Register.control.index, (update (.fromRaw b.controlWord)).raw))⟩
    | issueCommand command =>
      simp only [registerMachine, issueCommand_eq]
      exact ⟨rfl, same.after (some (Register.command.index, command.raw))⟩
    | ackInterrupts events =>
      simp only [registerMachine, ackInterrupts_eq]
      exact ⟨rfl, same.after (some (Register.intAck.index, events.bits))⟩

/-- What the hardware stores is its own, and a look stores nothing. -/
theorem stored_unblind {current : UInt32} {op : SharedOp} {index : Nat} {value : UInt32} (unblind : op.blind = false)
    (store : op.stored current = some (index, value)) : ¬ ClientCell index := by
  cases op with
  | client op =>
    cases op with
    | read | readStatus | readInterruptStatus => cases store
    | write | readControl | writeControl | modifyControl | issueCommand | ackInterrupts => cases unblind
  | pending => cases store
  | ack => cases unblind
  | post word =>
    cases store
    exact word.owned

/-- The client does not notice the hardware. -/
theorem run_blind (block : GpuRegisterBlock) (ops : List SharedOp) :
    (sharedMachine.run block ops).Rel
      (fun p q => Machine.keptResults SharedOp.blind ops p.1 = q.1 ∧ AgreeOn ClientCell p.2 q.2)
      (sharedMachine.run block (ops.filter SharedOp.blind)) := by
  refine Machine.run_purge (S := AgreeOn ClientCell) (fun _ _ _ blind same => blind_step blind same) ?_
    (fun _ _ => rfl) ops
  intro a b op unblind same
  obtain ⟨r, step, -⟩ := a.shared_step op
  exact ⟨r, _, step, same.after_left fun _ _ => stored_unblind unblind⟩

/-- The hardware does not notice the client. -/
theorem run_posts (block : GpuRegisterBlock) (ops : List SharedOp) :
    (sharedMachine.run block ops).Rel (fun p q => AgreeOn (¬ ClientCell ·) p.2 q.2)
      (sharedMachine.run block (ops.filter SharedOp.isPost)) := by
  have alone : (sharedMachine.run block ops).Rel
      (fun p q => Machine.keptResults SharedOp.isPost ops p.1 = q.1 ∧ AgreeOn (¬ ClientCell ·) p.2 q.2)
      (sharedMachine.run block (ops.filter SharedOp.isPost)) := by
    refine Machine.run_purge (S := AgreeOn (¬ ClientCell ·)) ?_ ?_ (fun _ _ => rfl) ops
    · intro a b op post same
      cases op with
      | client | pending | ack => cases post
      | post word => exact ⟨rfl, same.after (some (word.index, word.value))⟩
    · intro a b op mine same
      obtain ⟨r, step, -⟩ := a.shared_step op
      exact ⟨r, _, step, same.after_left fun _ _ store foreign => foreign (SharedOp.stored_client mine store)⟩
  exact alone.mono fun _ _ h => h.2

/-- What is in the cells after `ops` over `storage`, cell by cell of each owner. -/
structure Shared (storage : List UInt32) (initial : UInt32) (ops : List SharedOp) (block : GpuRegisterBlock) :
    Prop where
  posted : ∀ i, ¬ ClientCell i → block.cells[i]? = SharedOp.lastPosted storage[i]? i ops
  controlWord : block.controlWord = RegisterOp.lastControl initial (SharedOp.clientOps ops)

/-- **Step lemma.** -/
theorem Shared.step {storage : List UInt32} {initial : UInt32} {ops : List SharedOp} {block : GpuRegisterBlock}
    (shared : block.Shared storage initial ops) (op : SharedOp) :
    (block.after (op.stored block.controlWord)).Shared storage initial (ops ++ [op]) := by
  have foreign : ∀ i, ¬ ClientCell i → op.isPost = false →
      (block.after (op.stored block.controlWord)).cells[i]? = block.cells[i]? := by
    intro i theirs mine
    have kept : AgreeOn (¬ ClientCell ·) block block := fun _ _ => rfl
    exact kept.after_left (fun _ _ store own => own (SharedOp.stored_client mine store)) i theirs
  constructor
  · intro i theirs
    rw [SharedOp.lastPosted_snoc, ← shared.posted i theirs]
    cases op with
    | client | pending | ack => exact foreign i theirs rfl
    | post word => exact block.getElem?_put word.index i word.value
  · have told : SharedOp.clientOps (ops ++ [op]) = SharedOp.clientOps ops ++ SharedOp.clientOps [op] :=
      List.filterMap_append
    rw [told, RegisterOp.lastControl, List.foldl_append]
    change _ = (SharedOp.clientOps [op]).foldl RegisterOp.controlAfter
      (RegisterOp.lastControl initial (SharedOp.clientOps ops))
    rw [← shared.controlWord]
    cases op with
    | client op => exact block.after_controlWord op
    | pending => rfl
    | ack events => exact block.controlWord_put Register.intAck.index events.bits
    | post word =>
      have other : word.index ≠ Register.control.index := fun here => word.owned (Or.inl here)
      have kept := block.controlWord_put word.index word.value
      rwa [if_neg other] at kept

/-- **Run lemma.** -/
theorem run_shared (block : GpuRegisterBlock) (ops : List SharedOp) :
    ∃ rs after, sharedMachine.run block ops = .ret (rs, after) ∧ (∀ r ∈ rs, r.Succeeds) ∧
      after.Shared block.cells block.controlWord ops := by
  induction ops using List.reverseRecOn with
  | nil => exact ⟨[], block, rfl, by simp, fun _ _ => rfl, rfl⟩
  | append_singleton ops op ih =>
    obtain ⟨rs, before, run, succeeded, shared⟩ := ih
    obtain ⟨r, step, succeeds⟩ := before.shared_step op
    refine ⟨rs ++ [r], _, Machine.run_snoc.mpr ⟨before, run, step⟩, ?_, shared.step op⟩
    intro r' member
    obtain earlier | last := List.mem_append.mp member
    · exact succeeded r' earlier
    · rw [List.mem_singleton.mp last]
      exact succeeds

/-- What each party can rely on after `ops`, from a fresh block over `storage`. -/
structure Owned (block fresh : GpuRegisterBlock) (storage : List UInt32) (ops : List SharedOp)
    (rs : List SharedResult) : Prop where
  succeeded : ∀ r ∈ rs, r.Succeeds
  /-- A look shows the last word posted. -/
  status : ∃ raw, SharedOp.lastPosted storage[Register.status.index]? Register.status.index ops = some raw ∧
    block.readStatus = .ok (.fromRaw raw)
  /-- What a look showed can be acknowledged later; what was posted in between is not. -/
  interrupts : ∃ raw, SharedOp.lastPosted storage[Register.intStatus.index]? Register.intStatus.index ops = some raw ∧
    InterruptController.new.pending block = .ok (.fromRaw raw) ∧
    ∀ more, ∃ rs' acked, sharedMachine.run block (more ++ [.ack (InterruptSnapshot.fromRaw raw).events]) = .ret (rs', acked) ∧
      acked.cells[Register.intAck.index]? = some (raw &&& 0b1111)
  /-- The control register is the client's. -/
  control : ∃ initial, storage[Register.control.index]? = some initial ∧
    block.readControl = .ok (.fromRaw (RegisterOp.lastControl initial (SharedOp.clientOps ops)))
  /-- The client, without the posts and without its looks. -/
  clientAlone : ∃ alone, sharedMachine.run fresh (ops.filter SharedOp.blind) =
      .ret (Machine.keptResults SharedOp.blind ops rs, alone) ∧ AgreeOn ClientCell block alone
  /-- The hardware, without the client. -/
  hardwareAlone : ∃ posted alone, sharedMachine.run fresh (ops.filter SharedOp.isPost) = .ret (posted, alone) ∧
    AgreeOn (¬ ClientCell ·) block alone

/-- **The parties do not interfere.** A region with room for the registers, made from raw parts or
from a slice, is a block that the client, the controller and the hardware can share in any order of
their steps. -/
theorem shared_registers_owned (mmio : MmioRegion) (room : 5 ≤ mmio.registerCount) :
    ∃ fresh, GpuRegisterBlock.fromMmio mmio = .ok fresh ∧
      (∀ storage, MmioRegion.fromSlice storage = .ok mmio →
        GpuRegisterBlock.fromSlice storage = (.ok fresh, storage) ∧ mmio.cells = storage) ∧
      ∀ ops, ∃ rs block, sharedMachine.run fresh ops = .ret (rs, block) ∧ block.Owned fresh mmio.cells ops rs := by
  let fresh : GpuRegisterBlock := { mmio, sized := room }
  refine ⟨fresh, fromMmio_eq room, fun storage made => ⟨fromSlice_of_region made room, (fromSlice_len made).2⟩, ?_⟩
  intro ops
  obtain ⟨rs, block, run, succeeded, shared⟩ := fresh.run_shared ops
  refine ⟨rs, block, run, succeeded, ?_, ?_, ?_, ?_, ?_⟩
  · obtain ⟨raw, read, cell⟩ := block.readStatus_returns
    exact ⟨raw, (shared.posted Register.status.index (by decide)).symm.trans cell, read⟩
  · obtain ⟨raw, read, cell⟩ := InterruptController.new.pending_returns block
    refine ⟨raw, (shared.posted Register.intStatus.index (by decide)).symm.trans cell, read, ?_⟩
    intro more
    obtain ⟨rs', later, run', -, -⟩ := block.run_shared more
    obtain ⟨r, step, -⟩ := later.shared_step (.ack (InterruptSnapshot.fromRaw raw).events)
    refine ⟨_, _, Machine.run_snoc.mpr ⟨later, run', step⟩, ?_⟩
    exact List.getElem?_set_self (Nat.lt_of_lt_of_le Register.Declared.intAck.inside later.five_cells)
  · refine ⟨fresh.controlWord, fresh.controlWord_cell, ?_⟩
    rw [← shared.controlWord]
    exact block.readControl_eq
  · have alone := fresh.run_blind ops
    rw [run] at alone
    obtain ⟨⟨_, after⟩, part, rfl, same⟩ := alone.ret_left
    exact ⟨after, part, same⟩
  · have alone := fresh.run_posts ops
    rw [run] at alone
    obtain ⟨⟨posted, after⟩, part, same⟩ := alone.ret_left
    exact ⟨posted, after, part, same⟩

/-- Five registers and a cell behind them. -/
def fiveOfSix : MmioRegion := { cells := List.replicate 6 0, registerCount := 5, valid := by decide }

/-- That region, as raw parts may give it, and a slice of five cells. -/
theorem shared_registers_owned_five :
    (∃ fresh, GpuRegisterBlock.fromMmio fiveOfSix = .ok fresh ∧
      ∀ ops, ∃ rs block, sharedMachine.run fresh ops = .ret (rs, block) ∧
        block.Owned fresh fiveOfSix.cells ops rs) ∧
    ∃ fresh, GpuRegisterBlock.fromSlice (List.replicate 5 0) = (.ok fresh, List.replicate 5 0) ∧
      ∀ ops, ∃ rs block, sharedMachine.run fresh ops = .ret (rs, block) ∧
        block.Owned fresh (List.replicate 5 0) ops rs := by
  constructor
  · obtain ⟨fresh, made, -, shared⟩ := shared_registers_owned fiveOfSix (by decide)
    exact ⟨fresh, made, shared⟩
  · have sliced : MmioRegion.fromSlice (List.replicate 5 0) =
        .ok { cells := List.replicate 5 0, registerCount := 5, valid := by decide } := rfl
    obtain ⟨fresh, -, same, shared⟩ := shared_registers_owned _ (show 5 ≤ MmioRegion.registerCount
      { cells := List.replicate 5 0, registerCount := 5, valid := by decide } by decide)
    exact ⟨fresh, (same _ sliced).1, shared⟩

end GpuRegisterBlock

end GpuDriverLab
