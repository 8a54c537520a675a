import GpuDriverLab.Rust.Slice
import Std.Data.ExtTreeMap

/-!
# The buffer table of the simulated device (`lib.rs`)

`GpuDevice` owns the live buffers. A method that borrows the device mutably
returns the device after it, on the error paths too, so that what a failed call
leaves behind can be compared with what it found. The hash map is a finite map;
its iteration order is never observed.
-/

namespace GpuDriverLab
set_option autoImplicit false
open Rust

/-- Identifier returned to a client when a GPU buffer is allocated. -/
structure BufferId where
  raw : UInt32
deriving DecidableEq, Repr

instance : Ord BufferId := ⟨fun a b => compare a.raw b.raw⟩

theorem BufferId.compare_eq (a b : BufferId) : compare a b = compare a.raw b.raw := rfl

instance : Std.TransOrd BufferId where
  eq_swap {a b} := Std.OrientedOrd.eq_swap (a := a.raw) (b := b.raw)
  isLE_trans {a b c} := Std.TransOrd.isLE_trans (a := a.raw) (b := b.raw) (c := c.raw)

instance : Std.LawfulEqOrd BufferId where
  eq_of_compare {a b} h := by
    rw [BufferId.compare_eq] at h
    cases a
    cases b
    exact congrArg BufferId.mk (Std.LawfulEqCmp.eq_of_compare h)

/-- Errors produced by the buffer manager. -/
inductive DriverError where
  | zeroSizedAllocation
  | unknownBuffer (id : BufferId)
  | bufferIdExhausted
  | writeTooLarge (capacity requested : Nat)
  | rangeOverflow (offset length : Nat)
  | writeOutOfBounds (offset length capacity : Nat)
  | readOutOfBounds (offset length initialized : Nat)
deriving DecidableEq, Repr

/-- A simulated DMA-capable buffer: `storage` owns the allocated bytes, `used`
says how many of them currently contain valid data. -/
structure GpuBuffer where
  id : BufferId
  storage : List UInt8
  used : Nat
deriving DecidableEq, Repr

namespace GpuBuffer

def capacity (buffer : GpuBuffer) : Nat := buffer.storage.length

/-- `&self.storage[..self.used]`. -/
def data (buffer : GpuBuffer) : Exec (List UInt8) := slice buffer.storage 0 buffer.used

/-- What fits the buffer fits it from the front. -/
theorem front_fits (buffer : GpuBuffer) {data : List UInt8} (fits : data.length ≤ buffer.capacity) :
    0 + data.length ≤ buffer.storage.length := by
  rw [Nat.zero_add]
  exact fits

end GpuBuffer

/-- All buffers currently allocated to the simulated device. -/
structure GpuDevice where
  nextId : UInt32
  buffers : Std.ExtTreeMap BufferId GpuBuffer

namespace GpuDevice

def default : GpuDevice := { nextId := 0, buffers := ∅ }

def checkedEnd (offset length : Nat) : Except DriverError Nat :=
  match checkedAdd offset length with
  | some requested => .ok requested
  | none => .error (.rangeOverflow offset length)

/-- Write data beginning at a specific byte offset. -/
def writeBufferAt (device : GpuDevice) (id : BufferId) (offset : Nat) (data : List UInt8) :
    Exec (Except DriverError Unit × GpuDevice) :=
  match device.buffers[id]? with
  | none => .ret (.error (.unknownBuffer id), device)
  | some buffer =>
    let capacity := buffer.capacity
    let length := data.length
    match checkedEnd offset length with
    | .error e => .ret (.error e, device)
    | .ok requested =>
      if requested > capacity then .ret (.error (.writeOutOfBounds offset length capacity), device)
      else do
        let storage ← copyFromSlice buffer.storage offset requested data
        let buffer := { buffer with storage, used := max buffer.used requested }
        return (.ok (), { device with buffers := device.buffers.insert id buffer })

/-- Return a range of the initialized buffer data. -/
def readBufferRange (device : GpuDevice) (id : BufferId) (offset length : Nat) :
    Exec (Except DriverError (List UInt8)) :=
  match device.buffers[id]? with
  | none => .ret (.error (.unknownBuffer id))
  | some buffer =>
    let initialized := buffer.used
    match checkedEnd offset length with
    | .error e => .ret (.error e)
    | .ok end_ =>
      if initialized < end_ then .ret (.error (.readOutOfBounds offset length initialized))
      else do
        let bytes ← slice buffer.storage offset end_
        return .ok bytes

/-- Mark the buffer as containing no valid client data. -/
def clearBuffer (device : GpuDevice) (id : BufferId) : Except DriverError Unit × GpuDevice :=
  match device.buffers[id]? with
  | none => (.error (.unknownBuffer id), device)
  | some buffer =>
    (.ok (), { device with buffers := device.buffers.insert id { buffer with used := 0 } })

/-- Allocate an empty buffer with the requested capacity. -/
def allocateBuffer (device : GpuDevice) (capacity : Nat) : Except DriverError BufferId × GpuDevice :=
  if capacity = 0 then (.error .zeroSizedAllocation, device)
  else
    match checkedAddU32 device.nextId 1 with
    | none => (.error .bufferIdExhausted, device)
    | some nextId =>
      let id : BufferId := ⟨device.nextId⟩
      let device := { device with nextId }
      let buffer : GpuBuffer := { id, storage := List.replicate capacity 0, used := 0 }
      (.ok id, { device with buffers := device.buffers.insert id buffer })

/-- Copy client data into an existing buffer. -/
def writeBuffer (device : GpuDevice) (id : BufferId) (data : List UInt8) :
    Exec (Except DriverError Unit × GpuDevice) :=
  match device.buffers[id]? with
  | none => .ret (.error (.unknownBuffer id), device)
  | some buffer =>
    let requested := data.length
    let capacity := buffer.capacity
    if requested > capacity then .ret (.error (.writeTooLarge capacity requested), device)
    else do
      let storage ← copyFromSlice buffer.storage 0 requested data
      let buffer := { buffer with storage, used := requested }
      return (.ok (), { device with buffers := device.buffers.insert id buffer })

/-- The valid contents of an existing buffer. -/
def readBuffer (device : GpuDevice) (id : BufferId) : Exec (Except DriverError (List UInt8)) :=
  match device.buffers[id]? with
  | none => .ret (.error (.unknownBuffer id))
  | some buffer => do
    let bytes ← buffer.data
    return .ok bytes

/-- Remove a buffer and transfer its ownership to the caller. -/
def releaseBuffer (device : GpuDevice) (id : BufferId) : Except DriverError GpuBuffer × GpuDevice :=
  match device.buffers[id]? with
  | none => (.error (.unknownBuffer id), device)
  | some buffer => (.ok buffer, { device with buffers := device.buffers.erase id })

def bufferCount (device : GpuDevice) : Nat := device.buffers.size

/-- The number of bytes that have been written to the buffer. -/
def initializedLen (device : GpuDevice) (id : BufferId) : Except DriverError Nat :=
  match device.buffers[id]? with
  | none => .error (.unknownBuffer id)
  | some buffer => .ok buffer.used

/-- Some buffer is stored under `id`. -/
def Live (device : GpuDevice) (id : BufferId) : Prop := ∃ buffer, device.buffers[id]? = some buffer

theorem live_iff_mem {device : GpuDevice} {id : BufferId} : device.Live id ↔ id ∈ device.buffers := by
  rw [Live, Std.ExtTreeMap.mem_iff_isSome_getElem?, Option.isSome_iff_exists]

theorem not_live_iff {device : GpuDevice} {id : BufferId} :
    ¬ device.Live id ↔ device.buffers[id]? = none := by
  unfold Live
  cases device.buffers[id]? <;> simp

/-- The device with `buffer` stored under `id`. -/
def put (device : GpuDevice) (id : BufferId) (buffer : GpuBuffer) : GpuDevice :=
  { device with buffers := device.buffers.insert id buffer }

theorem buffers_put (device : GpuDevice) (id k : BufferId) (buffer : GpuBuffer) :
    (device.put id buffer).buffers[k]? = if id = k then some buffer else device.buffers[k]? := by
  simp [put, Std.ExtTreeMap.getElem?_insert]

@[simp] theorem buffers_put_self (device : GpuDevice) (id : BufferId) (buffer : GpuBuffer) :
    (device.put id buffer).buffers[id]? = some buffer := by
  simp [buffers_put]

theorem buffers_put_of_ne {device : GpuDevice} {id k : BufferId} {buffer : GpuBuffer} (ne : id ≠ k) :
    (device.put id buffer).buffers[k]? = device.buffers[k]? := by
  simp [buffers_put, ne]

/-- Replacing a live buffer keeps the number of buffers. -/
theorem bufferCount_put {device : GpuDevice} {id : BufferId} {old buffer : GpuBuffer}
    (found : device.buffers[id]? = some old) :
    (device.put id buffer).bufferCount = device.bufferCount := by
  have live := live_iff_mem.mp ⟨old, found⟩
  simp [bufferCount, put, Std.ExtTreeMap.size_insert, live]

theorem buffers_insert (device : GpuDevice) (nextId : UInt32) (id k : BufferId) (buffer : GpuBuffer) :
    ({ nextId, buffers := device.buffers.insert id buffer } : GpuDevice).buffers[k]? =
      if id = k then some buffer else device.buffers[k]? := by
  simp [Std.ExtTreeMap.getElem?_insert]

theorem buffers_erase (device : GpuDevice) (id k : BufferId) :
    ({ device with buffers := device.buffers.erase id } : GpuDevice).buffers[k]? =
      if id = k then none else device.buffers[k]? := by
  simp [Std.ExtTreeMap.getElem?_erase]

theorem bufferCount_insert {device : GpuDevice} {nextId : UInt32} {id : BufferId} {buffer : GpuBuffer}
    (fresh : device.buffers[id]? = none) :
    bufferCount { nextId, buffers := device.buffers.insert id buffer } = device.bufferCount + 1 := by
  have absent : id ∉ device.buffers := by
    rw [← live_iff_mem, not_live_iff]
    exact fresh
  simp [bufferCount, Std.ExtTreeMap.size_insert, absent]

theorem bufferCount_erase {device : GpuDevice} {id : BufferId} {buffer : GpuBuffer}
    (found : device.buffers[id]? = some buffer) :
    bufferCount { device with buffers := device.buffers.erase id } + 1 = device.bufferCount := by
  have live := live_iff_mem.mp ⟨buffer, found⟩
  have nonempty : device.buffers.size ≠ 0 := by
    intro zero
    rw [Std.ExtTreeMap.eq_empty_iff_size_eq_zero.mpr zero] at live
    simp at live
  simp only [bufferCount, Std.ExtTreeMap.size_erase, Std.ExtTreeMap.contains_iff_mem, live, if_true]
  omega

theorem checkedEnd_eq_ok {offset length requested : Nat} :
    checkedEnd offset length = .ok requested ↔
      requested = offset + length ∧ offset + length ≤ usizeMax := by
  rw [← checkedAdd_eq_some]
  unfold checkedEnd
  cases checkedAdd offset length <;> simp

section Unknown

variable {device : GpuDevice} {id : BufferId}

/-- What every operation on an id that is not live does: it reports the id and changes nothing. -/
structure ReportsUnknown (device : GpuDevice) (id : BufferId) : Prop where
  writeBuffer : ∀ data, device.writeBuffer id data = .ret (.error (.unknownBuffer id), device)
  writeBufferAt : ∀ offset data, device.writeBufferAt id offset data = .ret (.error (.unknownBuffer id), device)
  readBuffer : device.readBuffer id = .ret (.error (.unknownBuffer id))
  readBufferRange : ∀ offset length,
    device.readBufferRange id offset length = .ret (.error (.unknownBuffer id))
  clearBuffer : device.clearBuffer id = (.error (.unknownBuffer id), device)
  initializedLen : device.initializedLen id = .error (.unknownBuffer id)
  releaseBuffer : device.releaseBuffer id = (.error (.unknownBuffer id), device)

theorem unknown_buffer (gone : device.buffers[id]? = none) : device.ReportsUnknown id where
  writeBuffer := fun data => by simp [GpuDevice.writeBuffer, gone]
  writeBufferAt := fun offset data => by simp [GpuDevice.writeBufferAt, gone]
  readBuffer := by simp [GpuDevice.readBuffer, gone]
  readBufferRange := fun offset length => by simp [GpuDevice.readBufferRange, gone]
  clearBuffer := by simp [GpuDevice.clearBuffer, gone]
  initializedLen := by simp [GpuDevice.initializedLen, gone]
  releaseBuffer := by simp [GpuDevice.releaseBuffer, gone]

end Unknown

section Live

variable {device : GpuDevice} {id : BufferId} {buffer : GpuBuffer}

theorem initializedLen_eq (found : device.buffers[id]? = some buffer) :
    device.initializedLen id = .ok buffer.used := by
  simp [initializedLen, found]

theorem initializedLen_eq_ok {n : Nat} :
    device.initializedLen id = .ok n ↔ ∃ buffer, device.buffers[id]? = some buffer ∧ buffer.used = n := by
  unfold initializedLen
  cases device.buffers[id]? <;> simp

theorem clearBuffer_eq (found : device.buffers[id]? = some buffer) :
    device.clearBuffer id = (.ok (), device.put id { buffer with used := 0 }) := by
  simp [clearBuffer, found, put]

theorem releaseBuffer_eq (found : device.buffers[id]? = some buffer) :
    device.releaseBuffer id = (.ok buffer, { device with buffers := device.buffers.erase id }) := by
  simp [releaseBuffer, found]

/-- A whole write replaces the front of the storage and fixes `used`. -/
theorem writeBuffer_eq {data : List UInt8} (found : device.buffers[id]? = some buffer)
    (fits : data.length ≤ buffer.capacity) :
    device.writeBuffer id data = .ret (.ok (), device.put id
      { buffer with storage := splice buffer.storage 0 data, used := data.length }) := by
  have front := buffer.front_fits fits
  have copy := copyFromSlice_eq front
  rw [Nat.zero_add] at copy
  simp [writeBuffer, found, Nat.not_lt.mpr fits, copy, put]

theorem writeBuffer_tooLarge {data : List UInt8} (found : device.buffers[id]? = some buffer)
    (large : buffer.capacity < data.length) :
    device.writeBuffer id data = .ret (.error (.writeTooLarge buffer.capacity data.length), device) := by
  simp [writeBuffer, found, large]

/-- An offset write changes the written window and can only raise `used`. -/
theorem writeBufferAt_eq {offset : Nat} {data : List UInt8} (found : device.buffers[id]? = some buffer)
    (word : offset + data.length ≤ usizeMax) (fits : offset + data.length ≤ buffer.capacity) :
    device.writeBufferAt id offset data = .ret (.ok (), device.put id
      { buffer with
        storage := splice buffer.storage offset data
        used := max buffer.used (offset + data.length) }) := by
  have requested := checkedEnd_eq_ok.mpr ⟨rfl, word⟩
  simp [writeBufferAt, found, requested, Nat.not_lt.mpr fits, copyFromSlice_eq fits, put]

theorem writeBufferAt_overflow {offset : Nat} {data : List UInt8}
    (found : device.buffers[id]? = some buffer) (wraps : usizeMax < offset + data.length) :
    device.writeBufferAt id offset data = .ret (.error (.rangeOverflow offset data.length), device) := by
  simp [writeBufferAt, found, checkedEnd, checkedAdd_eq_none.mpr wraps]

theorem writeBufferAt_outOfBounds {offset : Nat} {data : List UInt8}
    (found : device.buffers[id]? = some buffer) (word : offset + data.length ≤ usizeMax)
    (large : buffer.capacity < offset + data.length) :
    device.writeBufferAt id offset data =
      .ret (.error (.writeOutOfBounds offset data.length buffer.capacity), device) := by
  simp [writeBufferAt, found, checkedEnd_eq_ok.mpr ⟨rfl, word⟩, large]

theorem data_eq (valid : buffer.used ≤ buffer.capacity) :
    buffer.data = .ret (buffer.storage.take buffer.used) := by
  rw [GpuBuffer.data, slice_eq (Nat.zero_le _) valid, List.drop_zero]

theorem readBuffer_eq (found : device.buffers[id]? = some buffer) (valid : buffer.used ≤ buffer.capacity) :
    device.readBuffer id = .ret (.ok (buffer.storage.take buffer.used)) := by
  simp [readBuffer, found, data_eq valid]

theorem readBufferRange_eq {offset length : Nat} (found : device.buffers[id]? = some buffer)
    (valid : buffer.used ≤ buffer.capacity) (word : offset + length ≤ usizeMax)
    (inside : offset + length ≤ buffer.used) :
    device.readBufferRange id offset length =
      .ret (.ok ((buffer.storage.take (offset + length)).drop offset)) := by
  have bytes : slice buffer.storage offset (offset + length) = _ :=
    slice_eq (Nat.le_add_right offset length) (Nat.le_trans inside valid)
  simp [readBufferRange, found, checkedEnd_eq_ok.mpr ⟨rfl, word⟩, Nat.not_lt.mpr inside, bytes]

theorem readBufferRange_overflow {offset length : Nat} (found : device.buffers[id]? = some buffer)
    (wraps : usizeMax < offset + length) :
    device.readBufferRange id offset length = .ret (.error (.rangeOverflow offset length)) := by
  simp [readBufferRange, found, checkedEnd, checkedAdd_eq_none.mpr wraps]

theorem readBufferRange_outOfBounds {offset length : Nat} (found : device.buffers[id]? = some buffer)
    (word : offset + length ≤ usizeMax) (beyond : buffer.used < offset + length) :
    device.readBufferRange id offset length =
      .ret (.error (.readOutOfBounds offset length buffer.used)) := by
  simp [readBufferRange, found, checkedEnd_eq_ok.mpr ⟨rfl, word⟩, beyond]

end Live

section Allocation

variable {device : GpuDevice} {capacity : Nat}

/-- The buffer that an allocation adds. -/
def freshBuffer (id : BufferId) (capacity : Nat) : GpuBuffer :=
  { id, storage := List.replicate capacity 0, used := 0 }

theorem allocateBuffer_exhausted (nonzero : capacity ≠ 0) (last : ¬ device.nextId.toNat + 1 < UInt32.size) :
    device.allocateBuffer capacity = (.error .bufferIdExhausted, device) := by
  have none : checkedAddU32 device.nextId 1 = none := by
    cases h : checkedAddU32 device.nextId 1 with
    | none => rfl
    | some next => exact (last (checkedAddU32_one_eq_some.mp h).1).elim
  simp [allocateBuffer, nonzero, none]

theorem allocateBuffer_eq (nonzero : capacity ≠ 0) (room : device.nextId.toNat + 1 < UInt32.size) :
    device.allocateBuffer capacity = (.ok ⟨device.nextId⟩,
      { nextId := device.nextId + 1,
        buffers := device.buffers.insert ⟨device.nextId⟩ (freshBuffer ⟨device.nextId⟩ capacity) }) := by
  simp [allocateBuffer, nonzero, checkedAddU32_one_eq_some.mpr ⟨room, rfl⟩, freshBuffer]

end Allocation

end GpuDevice

end GpuDriverLab
