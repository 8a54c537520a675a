import GpuDriverLab.Rust.Slice

/-!
# Command validation (`command.rs`)

The validated types have private fields in the source, so a value of one of
them has passed its constructor. Each carries what that constructor checked.
-/

namespace GpuDriverLab
set_option autoImplicit false
open Rust

inductive CommandError where
  | zeroCommandId
  | zeroLength
  | misalignedOffset (offset requiredAlignment : Nat)
  | rangeOverflow (offset length : Nat)
  | invalidPriority (found minimum maximum : UInt8)
deriving DecidableEq, Repr

/-- A command identifier; zero is reserved. -/
structure CommandId where
  raw : UInt64
  nonzero : raw ≠ 0
deriving DecidableEq, Repr

namespace CommandId

def new (raw : UInt64) : Except CommandError CommandId :=
  if zero : raw = 0 then .error .zeroCommandId else .ok ⟨raw, zero⟩

def get (id : CommandId) : UInt64 := id.raw

theorem get_injective {a b : CommandId} : a.get = b.get ↔ a = b := by
  cases a
  cases b
  simp [get]

end CommandId

namespace Priority

def min : UInt8 := 0
def max : UInt8 := 3

end Priority

/-- A scheduling priority between `Priority.min` and `Priority.max`. -/
structure Priority where
  raw : UInt8
  valid : Priority.min ≤ raw ∧ raw ≤ Priority.max
deriving DecidableEq, Repr

namespace Priority

def new (raw : UInt8) : Except CommandError Priority :=
  if inside : Priority.min ≤ raw ∧ raw ≤ Priority.max then .ok ⟨raw, inside⟩
  else .error (.invalidPriority raw Priority.min Priority.max)

def get (priority : Priority) : UInt8 := priority.raw

/-- `TryFrom<u8>`. -/
def tryFrom (value : UInt8) : Except CommandError Priority := new value

end Priority

namespace CommandRange

def alignment : Nat := 4

end CommandRange

/-- A nonempty aligned byte range whose end is a `usize`. -/
structure CommandRange where
  offset : Nat
  length : Nat
  aligned : offset % CommandRange.alignment = 0
  nonempty : length ≠ 0
  fits : offset + length ≤ usizeMax
deriving DecidableEq, Repr

namespace CommandRange

def new (offset length : Nat) : Except CommandError CommandRange :=
  if misaligned : offset % alignment ≠ 0 then .error (.misalignedOffset offset alignment)
  else if zero : length = 0 then .error .zeroLength
  else
    match sum : checkedAdd offset length with
    | none => .error (.rangeOverflow offset length)
    | some _ => .ok ⟨offset, length, not_not.mp misaligned, zero, (checkedAdd_eq_some.mp sum).2⟩

/-- The addition is unchecked in the source; the constructor has checked it. -/
def end_ (range : CommandRange) : Exec Nat := add range.offset range.length

@[simp] theorem end_eq (range : CommandRange) : range.end_ = .ret (range.offset + range.length) :=
  add_eq range.fits

end CommandRange

/-- The command as the client sends it. -/
structure RawCommand where
  id : UInt64
  offset : Nat
  length : Nat
  priority : UInt8
deriving DecidableEq, Repr

structure ValidatedCommand where
  id : CommandId
  range : CommandRange
  priority : Priority
deriving DecidableEq, Repr

namespace ValidatedCommand

/-- `TryFrom<RawCommand>`: id, then range, then priority. -/
def tryFrom (raw : RawCommand) : Except CommandError ValidatedCommand := do
  let id ← CommandId.new raw.id
  let range ← CommandRange.new raw.offset raw.length
  let priority ← Priority.tryFrom raw.priority
  return { id, range, priority }

/-- The raw command that a validated one was made from. -/
def toRaw (command : ValidatedCommand) : RawCommand :=
  { id := command.id.get
    offset := command.range.offset
    length := command.range.length
    priority := command.priority.get }

end ValidatedCommand

theorem CommandId.new_eq_ok {raw : UInt64} {id : CommandId} : CommandId.new raw = .ok id ↔ id.get = raw := by
  unfold CommandId.new CommandId.get
  split
  · rename_i zero
    have := id.nonzero
    simp only [reduceCtorEq, false_iff]
    intro same
    exact this (same.trans zero)
  · rw [Except.ok.injEq]
    cases id
    simp [eq_comm]

theorem Priority.new_eq_ok {raw : UInt8} {priority : Priority} :
    Priority.new raw = .ok priority ↔ priority.get = raw := by
  unfold Priority.new Priority.get
  split
  · rw [Except.ok.injEq]
    cases priority
    simp [eq_comm]
  · rename_i outside
    simp only [reduceCtorEq, false_iff]
    intro same
    exact outside (same ▸ priority.valid)

theorem CommandRange.new_eq_ok {offset length : Nat} {range : CommandRange} :
    CommandRange.new offset length = .ok range ↔ range.offset = offset ∧ range.length = length := by
  obtain ⟨o, l, aligned, nonempty, fits⟩ := range
  unfold CommandRange.new
  constructor
  · intro h
    split at h
    · cases h
    · split at h
      · cases h
      · split at h
        · cases h
        · cases h
          exact ⟨rfl, rfl⟩
  · rintro ⟨rfl, rfl⟩
    rw [dif_neg (not_not.mpr aligned), dif_neg nonempty]
    split
    · rename_i sum
      have := checkedAdd_eq_none.mp sum
      dsimp only at fits this
      omega
    · rfl

/-- Validation succeeds exactly on the raw form of a validated command. -/
theorem ValidatedCommand.tryFrom_eq_ok {raw : RawCommand} {command : ValidatedCommand} :
    ValidatedCommand.tryFrom raw = .ok command ↔ command.toRaw = raw := by
  obtain ⟨id, range, priority⟩ := command
  obtain ⟨rid, offset, length, rprio⟩ := raw
  have accept : ValidatedCommand.tryFrom ⟨rid, offset, length, rprio⟩ = .ok ⟨id, range, priority⟩ ↔
      CommandId.new rid = .ok id ∧ CommandRange.new offset length = .ok range ∧
        Priority.new rprio = .ok priority := by
    unfold ValidatedCommand.tryFrom Priority.tryFrom
    cases CommandId.new rid <;> cases CommandRange.new offset length <;> cases Priority.new rprio <;>
      simp [bind, Except.bind, pure, Except.pure]
  rw [accept, CommandId.new_eq_ok, CommandRange.new_eq_ok, Priority.new_eq_ok]
  simp [ValidatedCommand.toRaw, and_assoc]

end GpuDriverLab
