import GpuDriverLab.Mmio

/-!
# Typed registers and the register block (`registers.rs`)

A register carries its access in its type, and reading or writing it asks for
the permission. `Register::new` is private in the source, so that a client
holds the five declared registers and no other.
-/

namespace GpuDriverLab
set_option autoImplicit false

/-- The access markers. -/
inductive RegisterAccess where
  | readOnly
  | writeOnly
  | readWrite
deriving DecidableEq, Repr

class inductive ReadableAccess : RegisterAccess → Prop where
  | readOnly : ReadableAccess .readOnly
  | readWrite : ReadableAccess .readWrite

class inductive WritableAccess : RegisterAccess → Prop where
  | writeOnly : WritableAccess .writeOnly
  | readWrite : WritableAccess .readWrite

instance : ReadableAccess .readOnly := .readOnly
instance : ReadableAccess .readWrite := .readWrite
instance : WritableAccess .writeOnly := .writeOnly
instance : WritableAccess .readWrite := .readWrite

structure Register (A : RegisterAccess) where
  index : Nat
deriving DecidableEq, Repr

namespace Register

def control : Register .readWrite := ⟨0⟩
def status : Register .readOnly := ⟨1⟩
def command : Register .writeOnly := ⟨2⟩
def intStatus : Register .readOnly := ⟨3⟩
def intAck : Register .writeOnly := ⟨4⟩

/-- The registers that a client can name. -/
inductive Declared : {A : RegisterAccess} → Register A → Prop where
  | control : Declared control
  | status : Declared status
  | command : Declared command
  | intStatus : Declared intStatus
  | intAck : Declared intAck

end Register

def requiredRegisters : Nat := 5

inductive RegisterBlockError where
  | regionTooSmall (required actual : Nat)
  | mmio (e : MmioError)
deriving DecidableEq, Repr

/-- A region that has room for every declared register. -/
structure GpuRegisterBlock where
  mmio : MmioRegion
  sized : requiredRegisters ≤ mmio.registerCount
deriving DecidableEq

namespace GpuRegisterBlock

def checkRegisterLen (len : Nat) : Except RegisterBlockError Unit :=
  if len < requiredRegisters then .error (.regionTooSmall requiredRegisters len)
  else .ok ()

theorem checkRegisterLen_eq_ok {len : Nat} : checkRegisterLen len = .ok () ↔ requiredRegisters ≤ len := by
  unfold checkRegisterLen
  split
  · rename_i small
    simp only [reduceCtorEq, false_iff]
    omega
  · rename_i large
    simp only [true_iff]
    omega

def fromMmio (mmio : MmioRegion) : Except RegisterBlockError GpuRegisterBlock :=
  match checked : checkRegisterLen mmio.len with
  | .error e => .error e
  | .ok () => .ok { mmio, sized := checkRegisterLen_eq_ok.mp checked }

theorem fromSlice_len {registers : List UInt32} {mmio : MmioRegion}
    (made : MmioRegion.fromSlice registers = .ok mmio) :
    mmio.registerCount = registers.length ∧ mmio.cells = registers := by
  unfold MmioRegion.fromSlice at made
  split at made
  · cases made
  · cases made
    exact ⟨rfl, rfl⟩

/-- The block over a borrowed slice, and the slice after the call. -/
def fromSlice (registers : List UInt32) : Except RegisterBlockError GpuRegisterBlock × List UInt32 :=
  match checked : checkRegisterLen registers.length with
  | .error e => (.error e, registers)
  | .ok () =>
    match made : MmioRegion.fromSlice registers with
    | .error e => (.error (.mmio e), registers)
    | .ok mmio =>
      (.ok { mmio, sized := (fromSlice_len made).1 ▸ checkRegisterLen_eq_ok.mp checked }, registers)

variable {A : RegisterAccess}

/-- Read-only and read-write registers can be read. -/
def read [ReadableAccess A] (block : GpuRegisterBlock) (register : Register A) :
    Except RegisterBlockError UInt32 :=
  (block.mmio.read register.index).mapError .mmio

/-- Write-only and read-write registers can be written. -/
def write [WritableAccess A] (block : GpuRegisterBlock) (register : Register A) (value : UInt32) :
    Except RegisterBlockError Unit × GpuRegisterBlock :=
  ((block.mmio.write register.index value).1.mapError .mmio,
    { mmio := (block.mmio.write register.index value).2
      sized := by rw [MmioRegion.registerCount_write]; exact block.sized })

/-- The storage behind the block. -/
def cells (block : GpuRegisterBlock) : List UInt32 := block.mmio.cells

/-- The block with `value` in cell `index`. -/
def put (block : GpuRegisterBlock) (index : Nat) (value : UInt32) : GpuRegisterBlock :=
  { mmio := block.mmio.store index value, sized := block.sized }

@[simp] theorem cells_put (block : GpuRegisterBlock) (index : Nat) (value : UInt32) :
    (block.put index value).cells = block.cells.set index value := rfl

theorem five_cells (block : GpuRegisterBlock) : requiredRegisters ≤ block.cells.length :=
  Nat.le_trans block.sized block.mmio.valid

end GpuRegisterBlock

/-- Every declared register is one of the first five cells. -/
theorem Register.Declared.inside {A : RegisterAccess} {register : Register A} (declared : register.Declared) :
    register.index < requiredRegisters := by
  cases declared <;> decide

namespace GpuRegisterBlock

variable {A : RegisterAccess} {block : GpuRegisterBlock} {register : Register A}

theorem declared_inside (declared : register.Declared) : register.index < block.mmio.registerCount :=
  Nat.lt_of_lt_of_le declared.inside block.sized

/-- A declared register reads as its cell. -/
theorem read_eq_ok [ReadableAccess A] (declared : register.Declared) {value : UInt32} :
    block.read register = .ok value ↔ block.cells[register.index]? = some value := by
  unfold GpuRegisterBlock.read cells
  rw [← MmioRegion.read_eq_ok (declared_inside declared)]
  cases block.mmio.read register.index <;> simp [Except.mapError]

theorem read_returns [ReadableAccess A] (block : GpuRegisterBlock) (declared : register.Declared) :
    ∃ value, block.read register = .ok value ∧ block.cells[register.index]? = some value := by
  have here : register.index < block.cells.length := Nat.lt_of_lt_of_le declared.inside block.five_cells
  have cell := List.getElem?_eq_getElem here
  exact ⟨_, (read_eq_ok declared).mpr cell, cell⟩

/-- A write to a declared register succeeds and changes its cell only. -/
theorem write_eq [WritableAccess A] (declared : register.Declared) (value : UInt32) :
    block.write register value = (.ok (), block.put register.index value) := by
  have inside : register.index < block.mmio.registerCount := declared_inside declared
  unfold GpuRegisterBlock.write
  simp only [MmioRegion.write_eq inside]
  rfl

/-- A storage is accepted exactly when it has room for every declared register,
and the call itself writes nothing. -/
theorem fromSlice_cases (registers : List UInt32) :
    (registers.length < requiredRegisters ∧
      fromSlice registers = (.error (.regionTooSmall requiredRegisters registers.length), registers)) ∨
    (requiredRegisters ≤ registers.length ∧
      ∃ block, fromSlice registers = (.ok block, registers) ∧ block.cells = registers) := by
  by_cases small : registers.length < requiredRegisters
  · left
    refine ⟨small, ?_⟩
    unfold fromSlice
    split
    · rename_i e failed
      rw [checkRegisterLen, if_pos small] at failed
      cases failed
      rfl
    · rename_i checked
      exact absurd small (Nat.not_lt.mpr (checkRegisterLen_eq_ok.mp checked))
  · right
    have large : requiredRegisters ≤ registers.length := Nat.le_of_not_lt small
    refine ⟨large, ?_⟩
    unfold fromSlice
    split
    · rename_i e failed
      rw [checkRegisterLen_eq_ok.mpr large] at failed
      cases failed
    · split
      · rename_i failed
        have nonempty : registers.isEmpty = false := by
          cases registers with
          | nil => exact absurd large (by decide)
          | cons => rfl
        rw [MmioRegion.fromSlice, nonempty] at failed
        cases failed
      · rename_i mmio made
        exact ⟨_, rfl, (fromSlice_len made).2⟩

/-- A region with room is a block, however it was made. -/
theorem fromMmio_eq {mmio : MmioRegion} (room : requiredRegisters ≤ mmio.registerCount) :
    fromMmio mmio = .ok { mmio, sized := room } := by
  unfold fromMmio
  split
  · rename_i e failed
    rw [MmioRegion.len, checkRegisterLen_eq_ok.mpr room] at failed
    cases failed
  · rfl

/-- `from_slice` checks the length before it makes the region, and makes the same block. -/
theorem fromSlice_of_region {registers : List UInt32} {mmio : MmioRegion}
    (made : MmioRegion.fromSlice registers = .ok mmio) (room : requiredRegisters ≤ mmio.registerCount) :
    fromSlice registers = (.ok { mmio, sized := room }, registers) := by
  have long : requiredRegisters ≤ registers.length := by rwa [(fromSlice_len made).1] at room
  unfold fromSlice
  split
  · rename_i e failed
    rw [checkRegisterLen_eq_ok.mpr long] at failed
    cases failed
  · split
    · rename_i e failed
      rw [made] at failed
      cases failed
    · rename_i region again
      rw [made] at again
      cases again
      rfl

end GpuRegisterBlock

end GpuDriverLab
