import Mathlib.Tactic.Common

/-!
# Memory-mapped registers (`mmio.rs`)

A region is the memory that its base pointer addresses and the number of
registers it may touch. That the memory is there is what the constructors
guarantee, and what the unchecked pointer accesses rely on.
-/

namespace GpuDriverLab
set_option autoImplicit false

inductive MmioError where
  | emptyRegion
  | nullBase
  | misalignedBase (address requiredAlignment : Nat)
  | outOfBounds (index registerCount : Nat)
deriving DecidableEq, Repr

/-- A region of 32-bit registers. -/
structure MmioRegion where
  cells : List UInt32
  registerCount : Nat
  valid : registerCount ≤ cells.length
deriving DecidableEq

namespace MmioRegion

/-- `align_of::<u32>()`. -/
def alignment : Nat := 4

/-- Exclusively borrowed storage; the address of a reference is not null. -/
def fromSlice (registers : List UInt32) : Except MmioError MmioRegion :=
  if registers.isEmpty then .error .emptyRegion
  else .ok { cells := registers, registerCount := registers.length, valid := Nat.le_refl _ }

/-- Raw parts: the caller owes the memory behind `base`. -/
def fromRawParts (base registerCount : Nat) (cells : List UInt32) (valid : registerCount ≤ cells.length) :
    Except MmioError MmioRegion :=
  if base = 0 then .error .nullBase
  else if registerCount = 0 then .error .emptyRegion
  else if base % alignment ≠ 0 then .error (.misalignedBase base alignment)
  else .ok { cells, registerCount, valid }

def len (region : MmioRegion) : Nat := region.registerCount

def isEmpty (region : MmioRegion) : Bool := region.registerCount == 0

def checkIndex (region : MmioRegion) (index : Nat) : Except MmioError Unit :=
  if index ≥ region.len then .error (.outOfBounds index region.registerCount)
  else .ok ()

theorem checkIndex_eq_ok {region : MmioRegion} {index : Nat} :
    region.checkIndex index = .ok () ↔ index < region.registerCount := by
  unfold checkIndex len
  split
  · rename_i outside
    simp only [reduceCtorEq, false_iff]
    omega
  · rename_i inside
    simp only [true_iff]
    omega

/-- The safety argument of both accesses: a checked index is inside the memory. -/
theorem checked_inside {region : MmioRegion} {index : Nat} (checked : region.checkIndex index = .ok ()) :
    index < region.cells.length :=
  Nat.lt_of_lt_of_le (checkIndex_eq_ok.mp checked) region.valid

def read (region : MmioRegion) (index : Nat) : Except MmioError UInt32 :=
  match checked : region.checkIndex index with
  | .error e => .error e
  | .ok () => .ok (region.cells.get ⟨index, checked_inside checked⟩)

/-- The memory after a volatile store of `value`. -/
def store (region : MmioRegion) (index : Nat) (value : UInt32) : MmioRegion :=
  { cells := region.cells.set index value
    registerCount := region.registerCount
    valid := by rw [List.length_set]; exact region.valid }

def write (region : MmioRegion) (index : Nat) (value : UInt32) : Except MmioError Unit × MmioRegion :=
  match region.checkIndex index with
  | .error e => (.error e, region)
  | .ok () => (.ok (), region.store index value)

@[simp] theorem cells_store (region : MmioRegion) (index : Nat) (value : UInt32) :
    (region.store index value).cells = region.cells.set index value := rfl

@[simp] theorem registerCount_store (region : MmioRegion) (index : Nat) (value : UInt32) :
    (region.store index value).registerCount = region.registerCount := rfl

@[simp] theorem registerCount_write (region : MmioRegion) (index : Nat) (value : UInt32) :
    (region.write index value).2.registerCount = region.registerCount := by
  unfold write
  cases region.checkIndex index <;> rfl

section Outside

variable {region : MmioRegion} {index : Nat} (outside : ¬ index < region.registerCount)
include outside

theorem checkIndex_outside : region.checkIndex index = .error (.outOfBounds index region.registerCount) :=
  if_pos (Nat.le_of_not_lt outside)

theorem read_outside : region.read index = .error (.outOfBounds index region.registerCount) := by
  have failed := checkIndex_outside outside
  unfold read
  split
  · rename_i e error
    rw [failed] at error
    cases error
    rfl
  · rename_i passed
    rw [failed] at passed
    cases passed

theorem write_outside (value : UInt32) :
    region.write index value = (.error (.outOfBounds index region.registerCount), region) := by
  simp [write, checkIndex_outside outside]

end Outside

section Inside

variable {region : MmioRegion} {index : Nat} (inside : index < region.registerCount)
include inside

theorem inside_cells : index < region.cells.length := Nat.lt_of_lt_of_le inside region.valid

theorem read_eq : region.read index = .ok (region.cells.get ⟨index, inside_cells inside⟩) := by
  have checked := checkIndex_eq_ok.mpr inside
  unfold read
  split
  · rename_i failed
    rw [checked] at failed
    cases failed
  · rfl

/-- A register reads as the cell behind it. -/
theorem read_eq_ok {value : UInt32} : region.read index = .ok value ↔ region.cells[index]? = some value := by
  rw [read_eq inside, List.getElem?_eq_getElem (inside_cells inside)]
  simp

theorem write_eq (value : UInt32) : region.write index value = (.ok (), region.store index value) := by
  simp [write, checkIndex_eq_ok.mpr inside]

end Inside

end MmioRegion

end GpuDriverLab
