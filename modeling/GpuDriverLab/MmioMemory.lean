import GpuDriverLab.Machine.Unwinding
import GpuDriverLab.Mmio
import GpuDriverLab.Rust.Memory

/-!
# Regions as pointers into memory

What a region is in the source: a base pointer and a count. Its registers are the
words behind the base, and `view` collects them into the region of the model.
Regions of one memory that are apart do not interfere, and each answers as the
region of the model does on its own calls.
-/

namespace GpuDriverLab
set_option autoImplicit false
open Rust

/-- `&mut [u32]`: a reference is not null, and is aligned. -/
structure WordSlice where
  address : Nat
  length : Nat
  nonnull : address ≠ 0
  aligned : address % MmioRegion.alignment = 0

/-- A region, with what its constructors have checked. -/
structure MmioPointer where
  base : Nat
  registerCount : Nat
  nonnull : base ≠ 0
  nonempty : registerCount ≠ 0
  aligned : base % MmioRegion.alignment = 0

namespace MmioPointer

/-- `from_slice`: the address of the first word; `NonNull::new` finds no null. -/
def fromSlice (registers : WordSlice) : Except MmioError MmioPointer :=
  if empty : registers.length = 0 then .error .emptyRegion
  else if null : registers.address = 0 then .error .nullBase
  else .ok { base := registers.address, registerCount := registers.length, nonnull := null, nonempty := empty,
             aligned := registers.aligned }

/-- `from_raw_parts`. -/
def fromRawParts (base registerCount : Nat) : Except MmioError MmioPointer :=
  if null : base = 0 then .error .nullBase
  else if empty : registerCount = 0 then .error .emptyRegion
  else if misaligned : base % MmioRegion.alignment ≠ 0 then .error (.misalignedBase base MmioRegion.alignment)
  else .ok { base, registerCount, nonnull := null, nonempty := empty, aligned := Decidable.not_not.mp misaligned }

/-- `base.add(index)`. -/
def address (region : MmioPointer) (index : Nat) : Nat := region.base + MmioRegion.alignment * index

/-- The bytes that the region may touch. -/
def Owns (region : MmioPointer) (byte : Nat) : Prop :=
  region.base ≤ byte ∧ byte < region.base + MmioRegion.alignment * region.registerCount

def checkIndex (region : MmioPointer) (index : Nat) : Except MmioError Unit :=
  if index ≥ region.registerCount then .error (.outOfBounds index region.registerCount)
  else .ok ()

variable (layout : WordLayout)

def read (region : MmioPointer) (memory : Memory) (index : Nat) : Except MmioError UInt32 :=
  match region.checkIndex index with
  | .error e => .error e
  | .ok () => .ok (readVolatile layout memory (region.address index))

def write (region : MmioPointer) (memory : Memory) (index : Nat) (value : UInt32) :
    Except MmioError Unit × Memory :=
  match region.checkIndex index with
  | .error e => (.error e, memory)
  | .ok () => (.ok (), writeVolatile layout memory (region.address index) value)

/-- The words behind the base, as a region of the model. -/
def view (region : MmioPointer) (memory : Memory) : MmioRegion where
  cells := (List.range region.registerCount).map fun index => readVolatile layout memory (region.address index)
  registerCount := region.registerCount
  valid := by simp

end MmioPointer

inductive RegionOp where
  | read (index : Nat)
  | write (index : Nat) (value : UInt32)
  | len
  | isEmpty
deriving DecidableEq

inductive RegionResult where
  | word (result : Except MmioError UInt32)
  | stored (result : Except MmioError Unit)
  | len (n : Nat)
  | flag (b : Bool)
deriving DecidableEq

/-- The region of the model under its operations, each with the name of its region. -/
def regionMachine (Name : Type) : Machine MmioRegion (Name × RegionOp) RegionResult where
  step region
    | (_, .read index) => .ret (.word (region.read index), region)
    | (_, .write index value) => .ret (.stored (region.write index value).1, (region.write index value).2)
    | (_, .len) => .ret (.len region.len, region)
    | (_, .isEmpty) => .ret (.flag region.isEmpty, region)

/-- One memory under the regions that point into it. -/
def mappedMachine {Name : Type} (layout : WordLayout) (regions : Name → MmioPointer) :
    Machine Memory (Name × RegionOp) RegionResult where
  step memory
    | (name, .read index) => .ret (.word ((regions name).read layout memory index), memory)
    | (name, .write index value) =>
      .ret (.stored ((regions name).write layout memory index value).1, ((regions name).write layout memory index value).2)
    | (name, .len) => .ret (.len (regions name).registerCount, memory)
    | (name, .isEmpty) => .ret (.flag ((regions name).registerCount == 0), memory)

theorem MmioRegion.eq_of_cells {a b : MmioRegion} (cells : a.cells = b.cells)
    (count : a.registerCount = b.registerCount) : a = b := by
  cases a
  cases b
  cases cells
  cases count
  rfl

namespace MmioPointer

variable {layout : WordLayout} {region : MmioPointer} {memory : Memory} {index : Nat}

theorem address_lt {i j : Nat} (before : i < j) : region.address i + 4 ≤ region.address j := by
  unfold address MmioRegion.alignment
  omega

/-- A checked access stays in the region. -/
theorem owns_address (inside : index < region.registerCount) {byte : Nat} (low : region.address index ≤ byte)
    (high : byte < region.address index + 4) : region.Owns byte := by
  unfold address MmioRegion.alignment at low high
  unfold Owns MmioRegion.alignment
  omega

theorem view_get (i : Nat) (inside : i < region.registerCount) :
    (region.view layout memory).cells[i]? = some (readVolatile layout memory (region.address i)) := by
  show ((List.range region.registerCount).map _)[i]? = _
  rw [List.getElem?_map, List.getElem?_range inside]
  rfl

theorem checkIndex_inside (inside : index < region.registerCount) : region.checkIndex index = .ok () :=
  if_neg (Nat.not_le.mpr inside)

theorem checkIndex_outside (outside : ¬ index < region.registerCount) :
    region.checkIndex index = .error (.outOfBounds index region.registerCount) :=
  if_pos (Nat.le_of_not_lt outside)

/-- A read through the pointer reads the cell of the view. -/
theorem read_view : region.read layout memory index = (region.view layout memory).read index := by
  by_cases inside : index < region.registerCount
  · have cell : (region.view layout memory).read index = .ok (readVolatile layout memory (region.address index)) :=
      (MmioRegion.read_eq_ok inside).mpr (view_get index inside)
    rw [cell, read, checkIndex_inside inside]
  · have refused : (region.view layout memory).read index = .error (.outOfBounds index region.registerCount) :=
      MmioRegion.read_outside inside
    rw [refused, read, checkIndex_outside inside]

/-- A store into a register of the region changes that cell of its view. -/
theorem view_store (inside : index < region.registerCount) (value : UInt32) :
    region.view layout (writeVolatile layout memory (region.address index) value) =
      (region.view layout memory).store index value := by
  refine MmioRegion.eq_of_cells ?_ rfl
  show _ = (region.view layout memory).cells.set index value
  apply List.ext_getElem?
  intro i
  by_cases within : i < region.registerCount
  · rw [view_get i within, List.getElem?_set]
    have room : index < (region.view layout memory).cells.length := by simpa [view] using inside
    by_cases here : index = i
    · subst here
      rw [if_pos rfl, if_pos room, read_written]
    · rw [if_neg here, view_get i within]
      obtain before | after := Nat.lt_or_gt_of_ne here
      · rw [read_of_apart (Or.inr (address_lt before))]
      · rw [read_of_apart (Or.inl (address_lt after))]
  · have none : (region.view layout memory).cells.length ≤ i := by simpa [view] using within
    rw [List.getElem?_eq_none (by simpa [view] using within), List.getElem?_eq_none (by rwa [List.length_set])]

/-- A write through the pointer writes the cell of the view. -/
theorem write_view (value : UInt32) :
    (region.write layout memory index value).1 = ((region.view layout memory).write index value).1 ∧
      region.view layout (region.write layout memory index value).2 =
        ((region.view layout memory).write index value).2 := by
  by_cases inside : index < region.registerCount
  · have stored : (region.view layout memory).write index value = (.ok (), (region.view layout memory).store index value) :=
      MmioRegion.write_eq inside value
    rw [stored, write, checkIndex_inside inside]
    exact ⟨rfl, view_store inside value⟩
  · have refused : (region.view layout memory).write index value =
        (.error (.outOfBounds index region.registerCount), region.view layout memory) :=
      MmioRegion.write_outside inside value
    rw [refused, write, checkIndex_outside inside]
    exact ⟨rfl, rfl⟩

/-- A write changes bytes of its own region only. -/
theorem write_outside {byte : Nat} (outside : ¬ region.Owns byte) (value : UInt32) :
    (region.write layout memory index value).2 byte = memory byte := by
  by_cases inside : index < region.registerCount
  · rw [write, checkIndex_inside inside]
    apply writeVolatile_of_outside
    by_contra touched
    exact outside (owns_address inside (by omega) (by omega))
  · rw [write, checkIndex_outside inside]

/-- What does not touch the region's bytes does not change its view. -/
theorem view_congr {memory' : Memory} (same : ∀ byte, region.Owns byte → memory byte = memory' byte) :
    region.view layout memory = region.view layout memory' := by
  unfold view
  congr 1
  apply List.map_congr_left
  intro i member
  apply readVolatile_congr
  intro k below
  exact same _ (owns_address (List.mem_range.mp member) (Nat.le_add_right _ _) (by omega))

/-- `from_raw_parts` decides as in the model, over the words behind the base. -/
theorem fromRawParts_view (layout : WordLayout) (memory : Memory) (base registerCount : Nat)
    (cells : List UInt32) (valid : registerCount ≤ cells.length)
    (words : cells = (List.range registerCount).map fun i => readVolatile layout memory (base + MmioRegion.alignment * i)) :
    (fromRawParts base registerCount).map (fun region => region.view layout memory) =
      MmioRegion.fromRawParts base registerCount cells valid := by
  subst words
  unfold fromRawParts MmioRegion.fromRawParts
  by_cases null : base = 0
  · rw [dif_pos null, if_pos null]
    rfl
  rw [dif_neg null, if_neg null]
  by_cases empty : registerCount = 0
  · rw [dif_pos empty, if_pos empty]
    rfl
  rw [dif_neg empty, if_neg empty]
  by_cases misaligned : base % MmioRegion.alignment ≠ 0
  · rw [dif_pos misaligned, if_pos misaligned]
    rfl
  · rw [dif_neg misaligned, if_neg misaligned]
    rfl

/-- `from_slice` decides as in the model, over the words of the slice. -/
theorem fromSlice_view (layout : WordLayout) (memory : Memory) (slice : WordSlice) :
    (fromSlice slice).map (fun region => region.view layout memory) = MmioRegion.fromSlice
      ((List.range slice.length).map fun i => readVolatile layout memory (slice.address + MmioRegion.alignment * i)) := by
  unfold fromSlice MmioRegion.fromSlice
  by_cases empty : slice.length = 0
  · rw [dif_pos empty, empty]
    rfl
  · have some_ : ((List.range slice.length).map fun i =>
        readVolatile layout memory (slice.address + MmioRegion.alignment * i)).isEmpty = false := by
      simpa using empty
    rw [dif_neg empty, dif_neg slice.nonnull, some_]
    simp only [Except.map, Bool.false_eq_true, if_false]
    exact congrArg Except.ok (MmioRegion.eq_of_cells rfl (by simp [view]))

section Runs

variable {Name : Type} (layout : WordLayout) (regions : Name → MmioPointer)

/-- Every call returns, and leaves the bytes that are not of its region. -/
theorem mapped_step (memory : Memory) (call : Name × RegionOp) :
    ∃ r after, (mappedMachine layout regions).step memory call = .ret (r, after) ∧
      ∀ byte, ¬ (regions call.1).Owns byte → after byte = memory byte := by
  obtain ⟨name, op⟩ := call
  cases op with
  | read | len | isEmpty => exact ⟨_, memory, rfl, fun _ _ => rfl⟩
  | write index value => exact ⟨_, _, rfl, fun byte outside => write_outside outside value⟩

/-- A call on the region itself is the call on its view. -/
theorem mapped_step_view (memory : Memory) (name : Name) (op : RegionOp) :
    ((mappedMachine layout regions).step memory (name, op)).Rel
      (fun p q => p.1 = q.1 ∧ (regions name).view layout p.2 = q.2)
      ((regionMachine Name).step ((regions name).view layout memory) (name, op)) := by
  cases op with
  | read index => exact ⟨congrArg RegionResult.word read_view, rfl⟩
  | write index value => exact ⟨congrArg RegionResult.stored (write_view value).1, (write_view value).2⟩
  | len | isEmpty => exact ⟨rfl, rfl⟩

/-- **Run lemma.** The region's own calls, on its view alone. -/
theorem mapped_run_view [DecidableEq Name] (name : Name)
    (apart : ∀ other, other ≠ name → ∀ byte, (regions name).Owns byte → ¬ (regions other).Owns byte)
    (memory : Memory) (ops : List (Name × RegionOp)) :
    ((mappedMachine layout regions).run memory ops).Rel
      (fun p q => Machine.keptResults (fun call => call.1 == name) ops p.1 = q.1 ∧ (regions name).view layout p.2 = q.2)
      ((regionMachine Name).run ((regions name).view layout memory) (ops.filter fun call => call.1 == name)) := by
  refine Machine.run_purge (S := fun memory region => (regions name).view layout memory = region) ?_ ?_ rfl ops
  · rintro memory region ⟨called, op⟩ mine rfl
    cases eq_of_beq mine
    exact mapped_step_view layout regions memory called op
  · rintro memory region ⟨called, op⟩ foreign rfl
    obtain ⟨r, after, step, outside⟩ := mapped_step layout regions memory (called, op)
    have other : called ≠ name := by simpa using foreign
    exact ⟨r, after, step, view_congr fun byte own => outside byte (apart called other byte own)⟩

theorem mapped_run_returns (memory : Memory) (ops : List (Name × RegionOp)) :
    ∃ rs after, (mappedMachine layout regions).run memory ops = .ret (rs, after) ∧
      ∀ byte, (∀ name, ¬ (regions name).Owns byte) → after byte = memory byte := by
  have step : ∀ (m : Memory) (call : Name × RegionOp),
      (∀ byte, (∀ name, ¬ (regions name).Owns byte) → m byte = memory byte) →
      ∃ r after, (mappedMachine layout regions).step m call = .ret (r, after) ∧
        ∀ byte, (∀ name, ¬ (regions name).Owns byte) → after byte = memory byte := by
    intro m call same
    obtain ⟨r, after, step, outside⟩ := mapped_step layout regions m call
    exact ⟨r, after, step, fun byte free => (outside byte (free call.1)).trans (same byte free)⟩
  exact Machine.run_returns step (fun _ _ => rfl) ops

end Runs

end MmioPointer

/-- Regions as pointers into memory, against the regions of the model. -/
structure PointersFaithful (layout : WordLayout) : Prop where
  fromSlice : ∀ memory slice, (MmioPointer.fromSlice slice).map (fun region => region.view layout memory) =
    MmioRegion.fromSlice
      ((List.range slice.length).map fun i => readVolatile layout memory (slice.address + MmioRegion.alignment * i))
  fromRawParts : ∀ memory base registerCount cells valid,
    (cells = (List.range registerCount).map fun i => readVolatile layout memory (base + MmioRegion.alignment * i)) →
    (MmioPointer.fromRawParts base registerCount).map (fun region => region.view layout memory) =
      MmioRegion.fromRawParts base registerCount cells valid
  /-- Under any calls on any regions of one memory, no byte outside them changes. -/
  confined : ∀ (Name : Type) (regions : Name → MmioPointer) memory ops, ∃ rs after,
    (mappedMachine layout regions).run memory ops = .ret (rs, after) ∧
      ∀ byte, (∀ name, ¬ (regions name).Owns byte) → after byte = memory byte
  /-- A region apart from the others answers, and ends, as its view does on its own calls. -/
  apart : ∀ (Name : Type) [DecidableEq Name] (regions : Name → MmioPointer) name,
    (∀ other, other ≠ name → ∀ byte, (regions name).Owns byte → ¬ (regions other).Owns byte) → ∀ memory ops,
    ∃ rs after, (mappedMachine layout regions).run memory ops = .ret (rs, after) ∧
      (regionMachine Name).run ((regions name).view layout memory) (ops.filter fun call => call.1 == name) =
        .ret (Machine.keptResults (fun call => call.1 == name) ops rs, (regions name).view layout after)

/-- **The pointers do what the model's regions do**, whatever the byte order of the target. -/
theorem pointers_faithful (layout : WordLayout) : PointersFaithful layout where
  fromSlice := MmioPointer.fromSlice_view layout
  fromRawParts := MmioPointer.fromRawParts_view layout
  confined _ regions memory ops := MmioPointer.mapped_run_returns layout regions memory ops
  apart _ _ regions name apart memory ops := by
    obtain ⟨rs, after, run, -⟩ := MmioPointer.mapped_run_returns layout regions memory ops
    have alone := MmioPointer.mapped_run_view layout regions name apart memory ops
    rw [run] at alone
    obtain ⟨⟨_, region⟩, own, rfl, rfl⟩ := alone.ret_left
    exact ⟨rs, after, run, own⟩

end GpuDriverLab
