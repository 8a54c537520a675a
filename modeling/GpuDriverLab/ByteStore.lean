import GpuDriverLab.ChunkedUpload

/-!
# The device as a store of byte strings

The store keeps of a buffer its capacity and its valid bytes; the storage beyond
them is not part of it. The device is this store, except that an offset write
past the valid bytes leaves a gap, and what the gap holds the store does not
say: there it is told. A released buffer is compared by id, capacity and
`data()`: so compared, two devices with the same store cannot be told apart
where no gap is opened, and only such devices. The derived equality of a
released buffer reads the storage beyond too, and hides nothing of a device.
-/

namespace GpuDriverLab
set_option autoImplicit false
open Rust

/-- How many bytes a buffer can hold, and those it holds. -/
@[ext]
structure Contents where
  capacity : Nat
  bytes : List UInt8
  fits : bytes.length ≤ capacity

namespace Contents

def empty (capacity : Nat) : Contents := { capacity, bytes := [], fits := Nat.zero_le _ }

/-- The bytes after a write at `offset`, over `fill` where it starts beyond them. -/
def written (contents : Contents) (offset : Nat) (data fill : List UInt8) : List UInt8 :=
  (contents.bytes ++ fill).take offset ++ data ++ contents.bytes.drop (offset + data.length)

theorem length_written (contents : Contents) {offset : Nat} {data : List UInt8} (fill : List UInt8)
    (inside : offset + data.length ≤ contents.capacity) :
    (contents.written offset data fill).length ≤ contents.capacity := by
  have fits := contents.fits
  simp only [written, List.length_append, List.length_take, List.length_drop]
  omega

/-- Without a gap, the fill is not used. -/
theorem written_of_le {contents : Contents} {offset : Nat} (connected : offset ≤ contents.bytes.length)
    (data fill : List UInt8) : contents.written offset data fill = contents.written offset data [] := by
  simp only [written, List.take_append_of_le_length connected, List.append_nil]

end Contents

structure ByteStore where
  nextId : UInt32
  contents : Std.ExtTreeMap BufferId Contents

inductive StoreResult where
  | done (result : Except DriverError Unit)
  | allocated (result : Except DriverError BufferId)
  | bytes (result : Except DriverError (List UInt8))
  | len (result : Except DriverError Nat)
  | released (result : Except DriverError (BufferId × Contents))
  | count (n : Nat)

namespace ByteStore

def empty : ByteStore := { nextId := 0, contents := ∅ }

def put (store : ByteStore) (id : BufferId) (contents : Contents) : ByteStore :=
  { store with contents := store.contents.insert id contents }

end ByteStore

/-- The store under the operations of the device; a write comes with what a gap would hold. -/
def storeMachine : Machine ByteStore (DeviceOp × List UInt8) StoreResult where
  step store
    | (.allocateBuffer capacity, _) =>
      if capacity = 0 then .ret (.allocated (.error .zeroSizedAllocation), store)
      else if store.nextId.toNat + 1 < UInt32.size then
        .ret (.allocated (.ok ⟨store.nextId⟩),
          { nextId := store.nextId + 1, contents := store.contents.insert ⟨store.nextId⟩ (.empty capacity) })
      else .ret (.allocated (.error .bufferIdExhausted), store)
    | (.writeBuffer id data, _) =>
      match store.contents[id]? with
      | none => .ret (.done (.error (.unknownBuffer id)), store)
      | some contents =>
        if fits : data.length ≤ contents.capacity then
          .ret (.done (.ok ()), store.put id { contents with bytes := data, fits })
        else .ret (.done (.error (.writeTooLarge contents.capacity data.length)), store)
    | (.writeBufferAt id offset data, fill) =>
      match store.contents[id]? with
      | none => .ret (.done (.error (.unknownBuffer id)), store)
      | some contents =>
        if offset + data.length ≤ usizeMax then
          if inside : offset + data.length ≤ contents.capacity then
            .ret (.done (.ok ()), store.put id
              { contents with
                bytes := contents.written offset data fill
                fits := contents.length_written fill inside })
          else .ret (.done (.error (.writeOutOfBounds offset data.length contents.capacity)), store)
        else .ret (.done (.error (.rangeOverflow offset data.length)), store)
    | (.clearBuffer id, _) =>
      match store.contents[id]? with
      | none => .ret (.done (.error (.unknownBuffer id)), store)
      | some contents => .ret (.done (.ok ()), store.put id (.empty contents.capacity))
    | (.readBuffer id, _) =>
      match store.contents[id]? with
      | none => .ret (.bytes (.error (.unknownBuffer id)), store)
      | some contents => .ret (.bytes (.ok contents.bytes), store)
    | (.readBufferRange id offset length, _) =>
      match store.contents[id]? with
      | none => .ret (.bytes (.error (.unknownBuffer id)), store)
      | some contents =>
        if offset + length ≤ usizeMax then
          if offset + length ≤ contents.bytes.length then
            .ret (.bytes (.ok ((contents.bytes.drop offset).take length)), store)
          else .ret (.bytes (.error (.readOutOfBounds offset length contents.bytes.length)), store)
        else .ret (.bytes (.error (.rangeOverflow offset length)), store)
    | (.initializedLen id, _) =>
      match store.contents[id]? with
      | none => .ret (.len (.error (.unknownBuffer id)), store)
      | some contents => .ret (.len (.ok contents.bytes.length), store)
    | (.releaseBuffer id, _) =>
      match store.contents[id]? with
      | none => .ret (.released (.error (.unknownBuffer id)), store)
      | some contents =>
        .ret (.released (.ok (id, contents)), { store with contents := store.contents.erase id })
    | (.bufferCount, _) => .ret (.count store.contents.size, store)

/-- The capacity of a buffer and its `data()`; not the storage beyond, which the
derived equality and the debug output of an owned buffer show. -/
def GpuBuffer.contents (buffer : GpuBuffer) : Contents :=
  { capacity := buffer.capacity
    bytes := buffer.storage.take buffer.used
    fits := by rw [List.length_take]; exact Nat.min_le_right _ _ }

/-- A result, a released buffer by its id, capacity and `data()`. -/
def DeviceResult.told : DeviceResult → StoreResult
  | done result => .done result
  | allocated result => .allocated result
  | bytes result => .bytes result
  | len result => .len result
  | released (.ok buffer) => .released (.ok (buffer.id, buffer.contents))
  | released (.error e) => .released (.error e)
  | count n => .count n

theorem GpuBuffer.contents_write (buffer : GpuBuffer) {data : List UInt8} (fits : data.length ≤ buffer.capacity) :
    ({ buffer with storage := splice buffer.storage 0 data, used := data.length } : GpuBuffer).contents =
      { buffer.contents with bytes := data, fits := fits } := by
  apply Contents.ext
  · exact length_splice (buffer.front_fits fits)
  · show (splice buffer.storage 0 data).take data.length = data
    simp [splice]

/-- What a gap holds afterwards is what the storage held there. -/
theorem GpuBuffer.contents_writeAt (buffer : GpuBuffer) {offset : Nat} {data : List UInt8}
    (inside : offset + data.length ≤ buffer.capacity) :
    ({ buffer with
        storage := splice buffer.storage offset data
        used := max buffer.used (offset + data.length) } : GpuBuffer).contents =
      { buffer.contents with
        bytes := buffer.contents.written offset data (buffer.storage.drop buffer.used)
        fits := buffer.contents.length_written _ inside } := by
  apply Contents.ext
  · exact length_splice inside
  · show (splice buffer.storage offset data).take (max buffer.used (offset + data.length)) =
      (buffer.storage.take buffer.used ++ buffer.storage.drop buffer.used).take offset ++ data ++
        (buffer.storage.take buffer.used).drop (offset + data.length)
    rw [take_splice inside, List.take_append_drop]

namespace GpuDevice

/-- The store that a device is. -/
def store (device : GpuDevice) : ByteStore :=
  { nextId := device.nextId, contents := device.buffers.map fun _ buffer => buffer.contents }

/-- What a gap of the call would hold: the storage beyond the valid bytes. -/
def residue (device : GpuDevice) : DeviceOp → List UInt8
  | .writeBufferAt id _ _ =>
    match device.buffers[id]? with
    | some buffer => buffer.storage.drop buffer.used
    | none => []
  | _ => []

variable {device : GpuDevice} {id : BufferId} {buffer : GpuBuffer}

theorem store_contents (device : GpuDevice) (id : BufferId) :
    device.store.contents[id]? = device.buffers[id]?.map GpuBuffer.contents := by
  simp [store, Std.ExtTreeMap.getElem?_map]

theorem store_put (device : GpuDevice) (id : BufferId) (buffer : GpuBuffer) :
    (device.put id buffer).store = device.store.put id buffer.contents := by
  unfold store ByteStore.put put
  congr 1
  apply Std.ExtTreeMap.ext_getElem?
  intro k
  simp only [Std.ExtTreeMap.getElem?_map, Std.ExtTreeMap.getElem?_insert]
  split <;> rfl

theorem store_insert (device : GpuDevice) (nextId : UInt32) (id : BufferId) (buffer : GpuBuffer) :
    ({ nextId, buffers := device.buffers.insert id buffer } : GpuDevice).store =
      { nextId, contents := device.store.contents.insert id buffer.contents } := by
  unfold store
  congr 1
  apply Std.ExtTreeMap.ext_getElem?
  intro k
  simp only [Std.ExtTreeMap.getElem?_map, Std.ExtTreeMap.getElem?_insert]
  split <;> rfl

theorem store_erase (device : GpuDevice) (id : BufferId) :
    ({ device with buffers := device.buffers.erase id } : GpuDevice).store =
      { device.store with contents := device.store.contents.erase id } := by
  unfold store
  congr 1
  apply Std.ExtTreeMap.ext_getElem?
  intro k
  simp only [Std.ExtTreeMap.getElem?_map, Std.ExtTreeMap.getElem?_erase]
  split <;> rfl

theorem bytes_length (valid : buffer.used ≤ buffer.capacity) : buffer.contents.bytes.length = buffer.used :=
  List.length_take_of_le valid

/-- A step of the device and the step of its store. -/
def StepsAs (device : GpuDevice) (op : DeviceOp) : Prop :=
  ∃ r device', deviceMachine.step device op = .ret (r, device') ∧
    storeMachine.step device.store (op, device.residue op) = .ret (r.told, device'.store)

section Step

variable (device : GpuDevice)

theorem allocateBuffer_store (capacity : Nat) : device.StepsAs (.allocateBuffer capacity) := by
  have counter : device.store.nextId = device.nextId := rfl
  refine ⟨_, _, rfl, ?_⟩
  simp only [storeMachine, counter]
  by_cases zero : capacity = 0
  · subst zero
    rfl
  · by_cases room : device.nextId.toNat + 1 < UInt32.size
    · rw [if_neg zero, if_pos room, allocateBuffer_eq zero room]
      have fresh : (freshBuffer ⟨device.nextId⟩ capacity).contents = .empty capacity := by
        apply Contents.ext
        · exact List.length_replicate
        · rfl
      rw [store_insert, fresh]
      rfl
    · rw [if_neg zero, if_neg room, allocateBuffer_exhausted zero room]
      rfl

theorem writeBuffer_store (id : BufferId) (data : List UInt8) : device.StepsAs (.writeBuffer id data) := by
  have there := device.store_contents id
  unfold StepsAs
  simp only [deviceMachine, storeMachine]
  cases found : device.buffers[id]? with
  | none =>
    rw [found, Option.map_none] at there
    simp only [there, (unknown_buffer found).writeBuffer, Exec.ret_bind]
    exact ⟨_, _, rfl, rfl⟩
  | some buffer =>
    rw [found, Option.map_some] at there
    simp only [there]
    by_cases fits : data.length ≤ buffer.capacity
    · have small : data.length ≤ buffer.contents.capacity := fits
      refine ⟨_, _, by rw [writeBuffer_eq found fits]; rfl, ?_⟩
      rw [dif_pos small, store_put, buffer.contents_write fits]
      rfl
    · have large : ¬ data.length ≤ buffer.contents.capacity := fits
      refine ⟨_, _, by rw [writeBuffer_tooLarge found (Nat.lt_of_not_le fits)]; rfl, ?_⟩
      rw [dif_neg large]
      rfl

theorem writeBufferAt_store (id : BufferId) (offset : Nat) (data : List UInt8) :
    device.StepsAs (.writeBufferAt id offset data) := by
  have there := device.store_contents id
  unfold StepsAs
  simp only [deviceMachine, storeMachine]
  cases found : device.buffers[id]? with
  | none =>
    rw [found, Option.map_none] at there
    simp only [there, (unknown_buffer found).writeBufferAt]
    exact ⟨_, _, rfl, rfl⟩
  | some buffer =>
    rw [found, Option.map_some] at there
    simp only [there]
    by_cases word : offset + data.length ≤ usizeMax
    · rw [if_pos word]
      by_cases fits : offset + data.length ≤ buffer.capacity
      · have inside : offset + data.length ≤ buffer.contents.capacity := fits
        have residue : device.residue (.writeBufferAt id offset data) = buffer.storage.drop buffer.used := by
          simp only [GpuDevice.residue, found]
        refine ⟨_, _, by rw [writeBufferAt_eq found word fits]; rfl, ?_⟩
        rw [dif_pos inside, store_put, buffer.contents_writeAt fits]
        simp only [residue]
        rfl
      · have large : ¬ offset + data.length ≤ buffer.contents.capacity := fits
        refine ⟨_, _, by rw [writeBufferAt_outOfBounds found word (Nat.lt_of_not_le fits)]; rfl, ?_⟩
        rw [dif_neg large]
        rfl
    · refine ⟨_, _, by rw [writeBufferAt_overflow found (Nat.lt_of_not_le word)]; rfl, ?_⟩
      rw [if_neg word]
      rfl

theorem readBuffer_store (wf : device.WellFormed) (id : BufferId) : device.StepsAs (.readBuffer id) := by
  have there := device.store_contents id
  unfold StepsAs
  simp only [deviceMachine, storeMachine]
  cases found : device.buffers[id]? with
  | none =>
    rw [found, Option.map_none] at there
    simp only [there, (unknown_buffer found).readBuffer]
    exact ⟨_, _, rfl, rfl⟩
  | some buffer =>
    rw [found, Option.map_some] at there
    simp only [there, readBuffer_eq found (wf id buffer found).valid]
    exact ⟨_, _, rfl, rfl⟩

theorem readBufferRange_store (wf : device.WellFormed) (id : BufferId) (offset length : Nat) :
    device.StepsAs (.readBufferRange id offset length) := by
  have there := device.store_contents id
  unfold StepsAs
  simp only [deviceMachine, storeMachine]
  cases found : device.buffers[id]? with
  | none =>
    rw [found, Option.map_none] at there
    simp only [there, (unknown_buffer found).readBufferRange]
    exact ⟨_, _, rfl, rfl⟩
  | some buffer =>
    rw [found, Option.map_some] at there
    have valid := (wf id buffer found).valid
    simp only [there, bytes_length valid]
    by_cases word : offset + length ≤ usizeMax
    · rw [if_pos word]
      by_cases inside : offset + length ≤ buffer.used
      · refine ⟨_, _, by rw [readBufferRange_eq found valid word inside]; rfl, ?_⟩
        have part : (buffer.storage.take (offset + length)).drop offset =
            (buffer.contents.bytes.drop offset).take length := by
          rw [GpuBuffer.contents, List.drop_take, List.drop_take, List.take_take]
          congr 1
          omega
        rw [if_pos inside, part]
        rfl
      · refine ⟨_, _, by rw [readBufferRange_outOfBounds found word (Nat.lt_of_not_le inside)]; rfl, ?_⟩
        rw [if_neg inside]
        rfl
    · refine ⟨_, _, by rw [readBufferRange_overflow found (Nat.lt_of_not_le word)]; rfl, ?_⟩
      rw [if_neg word]
      rfl

theorem releaseBuffer_store (wf : device.WellFormed) (id : BufferId) : device.StepsAs (.releaseBuffer id) := by
  have there := device.store_contents id
  unfold StepsAs
  simp only [deviceMachine, storeMachine]
  cases found : device.buffers[id]? with
  | none =>
    rw [found, Option.map_none] at there
    simp only [there, (unknown_buffer found).releaseBuffer]
    exact ⟨_, _, rfl, rfl⟩
  | some buffer =>
    rw [found, Option.map_some] at there
    simp only [there, releaseBuffer_eq found]
    refine ⟨_, _, rfl, ?_⟩
    rw [store_erase, DeviceResult.told, (wf id buffer found).own]

/-- **Step lemma.** The device steps as its store, told what a gap would hold. -/
theorem step_store {device : GpuDevice} (wf : device.WellFormed) (op : DeviceOp) : device.StepsAs op := by
  cases op with
  | allocateBuffer capacity => exact device.allocateBuffer_store capacity
  | writeBuffer id data => exact device.writeBuffer_store id data
  | writeBufferAt id offset data => exact device.writeBufferAt_store id offset data
  | readBuffer id => exact device.readBuffer_store wf id
  | readBufferRange id offset length => exact device.readBufferRange_store wf id offset length
  | releaseBuffer id => exact device.releaseBuffer_store wf id
  | clearBuffer id =>
    have there := device.store_contents id
    unfold StepsAs
    simp only [deviceMachine, storeMachine]
    cases found : device.buffers[id]? with
    | none =>
      rw [found, Option.map_none] at there
      simp only [there, (unknown_buffer found).clearBuffer]
      exact ⟨_, _, rfl, rfl⟩
    | some buffer =>
      rw [found, Option.map_some] at there
      simp only [there, clearBuffer_eq found]
      refine ⟨_, _, rfl, ?_⟩
      rw [store_put]
      rfl
  | initializedLen id =>
    have there := device.store_contents id
    unfold StepsAs
    simp only [deviceMachine, storeMachine]
    cases found : device.buffers[id]? with
    | none =>
      rw [found, Option.map_none] at there
      simp only [there, (unknown_buffer found).initializedLen]
      exact ⟨_, _, rfl, rfl⟩
    | some buffer =>
      rw [found, Option.map_some] at there
      simp only [there, initializedLen_eq found, bytes_length (wf id buffer found).valid]
      exact ⟨_, _, rfl, rfl⟩
  | bufferCount =>
    refine ⟨_, _, rfl, ?_⟩
    simp only [storeMachine, store, Std.ExtTreeMap.size_map]
    rfl

end Step

/-- **Run lemma.** -/
theorem run_store {device : GpuDevice} (wf : device.WellFormed) (ops : List DeviceOp) :
    ∃ fills rs device', fills.length = ops.length ∧ deviceMachine.run device ops = .ret (rs, device') ∧
      storeMachine.run device.store (ops.zip fills) = .ret (rs.map DeviceResult.told, device'.store) := by
  induction ops generalizing device with
  | nil => exact ⟨[], [], device, rfl, rfl, rfl⟩
  | cons op ops ih =>
    obtain ⟨r, middle, step, spec⟩ := step_store wf op
    obtain ⟨fills, rs, last, length, run, specs⟩ := ih ((step_effect step).wellFormed wf)
    refine ⟨device.residue op :: fills, r :: rs, last, by rw [List.length_cons, length, List.length_cons], ?_, ?_⟩
    · rw [Machine.run, step, Exec.ret_bind, run]
      rfl
    · rw [List.zip_cons_cons, Machine.run, spec, Exec.ret_bind, specs]
      rfl

end GpuDevice

namespace ByteStore

/-- The call opens no gap: it does not write, fails, or starts within the valid bytes or at their end. -/
def NoGap (store : ByteStore) (op : DeviceOp) : Prop :=
  ∀ id offset data contents, op = .writeBufferAt id offset data → store.contents[id]? = some contents →
    offset + data.length ≤ usizeMax → offset + data.length ≤ contents.capacity → offset ≤ contents.bytes.length

/-- No call of the list opens a gap where the list leads. -/
inductive GapFree : ByteStore → List DeviceOp → Prop where
  | nil (store : ByteStore) : GapFree store []
  | cons {store after : ByteStore} {op : DeviceOp} {ops : List DeviceOp} {r : StoreResult} (here : store.NoGap op)
      (step : storeMachine.step store (op, []) = .ret (r, after)) (rest : GapFree after ops) : GapFree store (op :: ops)

variable {store : ByteStore} {op : DeviceOp}

/-- Without a gap there is nothing to tell. -/
theorem NoGap.step_eq (here : store.NoGap op) (fill : List UInt8) :
    storeMachine.step store (op, fill) = storeMachine.step store (op, []) := by
  cases op with
  | writeBufferAt id offset data =>
    simp only [storeMachine]
    cases found : store.contents[id]? with
    | none => rfl
    | some contents =>
      dsimp only
      split
      · rename_i word
        split
        · rename_i inside
          have connected := here id offset data contents rfl found word inside
          congr 3
          exact Contents.ext rfl (Contents.written_of_le connected data fill)
        · rfl
      · rfl
  | allocateBuffer | writeBuffer | clearBuffer | readBuffer | readBufferRange | initializedLen | releaseBuffer
  | bufferCount => rfl

theorem noGap_of_target (other : ∀ id offset data, op ≠ .writeBufferAt id offset data) : store.NoGap op := by
  intro id offset data contents same
  exact absurd same (other id offset data)

end ByteStore

open ByteStore (GapFree)

namespace GpuDevice

variable {device device' : GpuDevice}

/-- **Run lemma**, without gaps: the store alone decides. -/
theorem run_gapFree (wf : device.WellFormed) {ops : List DeviceOp} (free : GapFree device.store ops) :
    ∃ rs after, deviceMachine.run device ops = .ret (rs, after) ∧
      storeMachine.run device.store (ops.map (·, [])) = .ret (rs.map DeviceResult.told, after.store) := by
  generalize start : device.store = store at free
  induction free generalizing device with
  | nil => exact ⟨[], device, rfl, by rw [← start]; rfl⟩
  | @cons store after op ops r here specified _ ih =>
    subst start
    obtain ⟨result, middle, step, spec⟩ := step_store wf op
    rw [here.step_eq, specified] at spec
    cases spec
    obtain ⟨rs, last, run, specs⟩ := ih ((step_effect step).wellFormed wf) rfl
    refine ⟨result :: rs, last, ?_, ?_⟩
    · rw [Machine.run, step, Exec.ret_bind, run]
      rfl
    · rw [List.map_cons, Machine.run, specified, Exec.ret_bind, specs]
      rfl

/-- Both devices answer the calls, with the same results, released buffers by id, capacity and `data()`. -/
def AnswerAlike (device device' : GpuDevice) (ops : List DeviceOp) : Prop :=
  ∃ rs e rs' e', deviceMachine.run device ops = .ret (rs, e) ∧ deviceMachine.run device' ops = .ret (rs', e') ∧
    rs.map DeviceResult.told = rs'.map DeviceResult.told

/-- A call that writes at no offset is a gap-free list. -/
theorem answerAlike_step (wf : device.WellFormed) (wf' : device'.WellFormed)
    (alike : ∀ ops, GapFree device.store ops → GapFree device'.store ops → AnswerAlike device device' ops)
    {op : DeviceOp} (other : ∀ id offset data, op ≠ .writeBufferAt id offset data) :
    ∃ r s s', storeMachine.step device.store (op, []) = .ret (r, s) ∧
      storeMachine.step device'.store (op, []) = .ret (r, s') := by
  obtain ⟨r, after, step, spec⟩ := step_store wf op
  obtain ⟨r', after', step', spec'⟩ := step_store wf' op
  rw [(ByteStore.noGap_of_target other).step_eq] at spec spec'
  obtain ⟨rs, e, rs', e', run, run', same⟩ := alike [op] (.cons (ByteStore.noGap_of_target other) spec (.nil _))
    (.cons (ByteStore.noGap_of_target other) spec' (.nil _))
  rw [Machine.run, step] at run
  rw [Machine.run, step'] at run'
  cases run
  cases run'
  rw [List.map_singleton, List.map_singleton, List.singleton_inj] at same
  exact ⟨r.told, after.store, after'.store, spec, by rw [same]; exact spec'⟩

/-- A release shows the contents. -/
theorem contents_eq_of_release {store store' s s' : ByteStore} {id : BufferId} {r : StoreResult}
    (step : storeMachine.step store (.releaseBuffer id, []) = .ret (r, s))
    (step' : storeMachine.step store' (.releaseBuffer id, []) = .ret (r, s')) :
    store.contents[id]? = store'.contents[id]? := by
  simp only [storeMachine] at step step'
  cases found : store.contents[id]? with
  | none =>
    rw [found] at step
    cases step
    cases found' : store'.contents[id]? with
    | none => rfl
    | some contents' =>
      rw [found'] at step'
      cases step'
  | some contents =>
    rw [found] at step
    cases step
    cases found' : store'.contents[id]? with
    | none =>
      rw [found'] at step'
      cases step'
    | some contents' =>
      rw [found'] at step'
      cases step'
      rfl

/-- An allocation shows the counter; one that has run out is at its last value. -/
theorem nextId_eq_of_allocate {store store' s s' : ByteStore} {r : StoreResult}
    (step : storeMachine.step store (.allocateBuffer 1, []) = .ret (r, s))
    (step' : storeMachine.step store' (.allocateBuffer 1, []) = .ret (r, s')) : store.nextId = store'.nextId := by
  have below := store.nextId.toNat_lt
  have below' := store'.nextId.toNat_lt
  simp only [storeMachine, Nat.one_ne_zero, if_false] at step step'
  split at step
  · cases step
    split at step'
    · have result := (Prod.mk.inj (Exec.ret.inj step')).1
      exact (BufferId.mk.inj (Except.ok.inj (StoreResult.allocated.inj result))).symm
    · cases step'
  · rename_i full
    cases step
    split at step'
    · cases step'
    · rename_i full'
      apply UInt32.toNat_inj.mp
      unfold UInt32.size at full full'
      omega

theorem store_eq_of_alike (wf : device.WellFormed) (wf' : device'.WellFormed)
    (alike : ∀ ops, GapFree device.store ops → GapFree device'.store ops → AnswerAlike device device' ops) :
    device.store = device'.store := by
  have contents : device.store.contents = device'.store.contents := by
    apply Std.ExtTreeMap.ext_getElem?
    intro id
    obtain ⟨r, s, s', step, step'⟩ : ∃ r s s', storeMachine.step device.store (.releaseBuffer id, []) = .ret (r, s) ∧
      storeMachine.step device'.store (.releaseBuffer id, []) = .ret (r, s') := answerAlike_step wf wf' alike nofun
    exact contents_eq_of_release step step'
  have counter : device.store.nextId = device'.store.nextId := by
    obtain ⟨r, s, s', step, step'⟩ : ∃ r s s', storeMachine.step device.store (.allocateBuffer 1, []) = .ret (r, s) ∧
      storeMachine.step device'.store (.allocateBuffer 1, []) = .ret (r, s') := answerAlike_step wf wf' alike nofun
    exact nextId_eq_of_allocate step step'
  exact congrArg₂ ByteStore.mk counter contents

theorem alike_of_store_eq (wf : device.WellFormed) (wf' : device'.WellFormed) (same : device.store = device'.store)
    {ops : List DeviceOp} (free : GapFree device.store ops) : AnswerAlike device device' ops := by
  obtain ⟨rs, e, run, specs⟩ := run_gapFree wf free
  rw [same] at free specs
  obtain ⟨rs', e', run', specs'⟩ := run_gapFree wf' free
  rw [specs] at specs'
  exact ⟨rs, e, rs', e', run, run', (Prod.mk.inj (Exec.ret.inj specs')).1⟩

/-- Both devices answer the calls with equal results, released buffers storage and all. -/
def AnswerEqually (device device' : GpuDevice) (ops : List DeviceOp) : Prop :=
  ∃ rs e e', deviceMachine.run device ops = .ret (rs, e) ∧ deviceMachine.run device' ops = .ret (rs, e')

/-- A release shows the whole buffer. -/
theorem buffer_eq_of_release {id : BufferId} (equal : AnswerEqually device device' [.releaseBuffer id]) :
    device.buffers[id]? = device'.buffers[id]? := by
  obtain ⟨rs, e, e', run, run'⟩ := equal
  cases run
  have same : (device'.releaseBuffer id).1 = (device.releaseBuffer id).1 := by
    have results := (Prod.mk.inj (Exec.ret.inj run')).1
    exact DeviceResult.released.inj (List.singleton_inj.mp results)
  unfold GpuDevice.releaseBuffer at same
  cases found : device.buffers[id]? with
  | none =>
    cases found' : device'.buffers[id]? with
    | none => rfl
    | some buffer' =>
      rw [found, found'] at same
      cases same
  | some buffer =>
    cases found' : device'.buffers[id]? with
    | none =>
      rw [found, found'] at same
      cases same
    | some buffer' =>
      rw [found, found'] at same
      cases same
      rfl

theorem eq_of_answerEqually (wf : device.WellFormed) (wf' : device'.WellFormed)
    (equally : ∀ ops, AnswerEqually device device' ops) : device = device' := by
  have store : device.store = device'.store := by
    apply store_eq_of_alike wf wf'
    intro ops _ _
    obtain ⟨rs, e, e', run, run'⟩ := equally ops
    exact ⟨rs, e, rs, e', run, run', rfl⟩
  have counter : device.nextId = device'.nextId := congrArg ByteStore.nextId store
  have buffers : device.buffers = device'.buffers := by
    apply Std.ExtTreeMap.ext_getElem?
    intro id
    exact buffer_eq_of_release (equally [.releaseBuffer id])
  exact congrArg₂ GpuDevice.mk counter buffers

theorem answerEqually_self (wf : device.WellFormed) (ops : List DeviceOp) : AnswerEqually device device ops := by
  obtain ⟨_, rs, e, _, run, _⟩ := run_store wf ops
  exact ⟨rs, e, e, run, run⟩

theorem default_store : GpuDevice.default.store = .empty := by
  refine congrArg₂ ByteStore.mk rfl ?_
  apply Std.ExtTreeMap.ext_getElem?
  intro id
  simp [GpuDevice.default]

end GpuDevice

/-- The device against the store of byte strings. -/
structure IsByteStore : Prop where
  /-- Every run is a run of the store, for some fillings of the gaps. -/
  refines : ∀ ops, ∃ fills rs device, fills.length = ops.length ∧
    deviceMachine.run .default ops = .ret (rs, device) ∧
    storeMachine.run .empty (ops.zip fills) = .ret (rs.map DeviceResult.told, device.store)
  /-- Without gaps it is the run of the store. -/
  gapFree : ∀ ops, GapFree .empty ops → ∃ rs device, deviceMachine.run .default ops = .ret (rs, device) ∧
    storeMachine.run .empty (ops.map (·, [])) = .ret (rs.map DeviceResult.told, device.store)
  /-- With a released buffer compared by id, capacity and `data()`, the store is what can be
  told of a device without opening a gap, no more and no less. -/
  fullyAbstract : ∀ t device t' device', GpuDevice.History t device → GpuDevice.History t' device' →
    (device.store = device'.store ↔ ∀ ops, GapFree device.store ops → GapFree device'.store ops →
      GpuDevice.AnswerAlike device device' ops)
  /-- With a released buffer compared by its derived equality, only equal devices answer alike. -/
  storageShows : ∀ t device t' device', GpuDevice.History t device → GpuDevice.History t' device' →
    (device = device' ↔ ∀ ops, GpuDevice.AnswerEqually device device' ops)

/-- **The device is a store of byte strings.** -/
theorem device_is_byte_store : IsByteStore where
  refines ops := by
    rw [← GpuDevice.default_store]
    exact GpuDevice.run_store GpuDevice.default_wellFormed ops
  gapFree ops free := by
    rw [← GpuDevice.default_store] at free ⊢
    exact GpuDevice.run_gapFree GpuDevice.default_wellFormed free
  fullyAbstract t device t' device' history history' := by
    constructor
    · intro same ops free _
      exact GpuDevice.alike_of_store_eq history.wellFormed history'.wellFormed same free
    · exact GpuDevice.store_eq_of_alike history.wellFormed history'.wellFormed
  storageShows t device t' device' history history' := by
    constructor
    · rintro rfl
      exact GpuDevice.answerEqually_self history.wellFormed
    · exact GpuDevice.eq_of_answerEqually history.wellFormed history'.wellFormed

end GpuDriverLab
