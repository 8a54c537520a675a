import GpuDriverLab.DeviceRun
import GpuDriverLab.Rust.Chunks

/-!
# Uploads in chunks

A call that names another id neither sees the buffer of `id` nor changes it, so
it commutes with replacing that buffer. Offset writes of the chunks of a string,
in any order and with such calls in between, therefore leave the buffer that one
write of the string leaves, and everything else as without them.
-/

namespace GpuDriverLab
set_option autoImplicit false
open Rust

/-- The id that a call names. -/
def DeviceOp.target : DeviceOp → Option BufferId
  | .writeBuffer id _ | .writeBufferAt id _ _ | .readBuffer id | .readBufferRange id _ _ | .clearBuffer id
  | .initializedLen id | .releaseBuffer id => some id
  | .allocateBuffer _ | .bufferCount => none

def DeviceOp.names (id : BufferId) (op : DeviceOp) : Bool := op.target == some id

namespace GpuDevice

section Frame

variable {device : GpuDevice} {id k : BufferId} {buffer : GpuBuffer}

theorem ext_buffers {a b : GpuDevice} (nextId : a.nextId = b.nextId)
    (buffers : ∀ k : BufferId, a.buffers[k]? = b.buffers[k]?) : a = b := by
  cases a
  cases b
  cases nextId
  congr
  exact Std.ExtTreeMap.ext_getElem? buffers

theorem put_found (found : device.buffers[id]? = some buffer) : device.put id buffer = device := by
  apply ext_buffers
  · rfl
  · intro k
    rw [buffers_put]
    split
    · rename_i here
      rw [← here, found]
    · rfl

theorem put_put (old : GpuBuffer) : (device.put id old).put id buffer = device.put id buffer := by
  apply ext_buffers
  · rfl
  · intro k
    simp only [buffers_put]
    split <;> rfl

theorem insert_put_comm (apart : k ≠ id) (nextId : UInt32) (b : GpuBuffer) :
    ({ nextId, buffers := (device.put id buffer).buffers.insert k b } : GpuDevice) =
      ({ nextId, buffers := device.buffers.insert k b } : GpuDevice).put id buffer := by
  apply ext_buffers
  · rfl
  · intro j
    refine (buffers_insert (device.put id buffer) nextId k j b).trans ?_
    rw [buffers_put, buffers_put, buffers_insert]
    by_cases here : k = j
    · rw [if_pos here, if_neg (by rw [← here]; exact apart.symm), if_pos here]
    · rw [if_neg here, if_neg here]

theorem erase_put_comm (apart : k ≠ id) :
    ({ device.put id buffer with buffers := (device.put id buffer).buffers.erase k } : GpuDevice) =
      ({ device with buffers := device.buffers.erase k } : GpuDevice).put id buffer := by
  apply ext_buffers
  · rfl
  · intro j
    refine (buffers_erase (device.put id buffer) k j).trans ?_
    rw [buffers_put, buffers_put, buffers_erase]
    by_cases here : k = j
    · rw [if_pos here, if_neg (by rw [← here]; exact apart.symm), if_pos here]
    · rw [if_neg here, if_neg here]

theorem writeBuffer_put (apart : k ≠ id) (data : List UInt8) :
    (device.put id buffer).writeBuffer k data =
      (device.writeBuffer k data).bind fun p => .ret (p.1, p.2.put id buffer) := by
  unfold writeBuffer
  rw [buffers_put_of_ne apart.symm]
  cases device.buffers[k]? with
  | none => rfl
  | some b =>
    dsimp only
    split
    · rfl
    · cases copyFromSlice b.storage 0 data.length data with
      | panic why => rfl
      | ret storage => exact congrArg (fun after => Exec.ret (Except.ok (), after)) (insert_put_comm apart _ _)

theorem writeBufferAt_put (apart : k ≠ id) (offset : Nat) (data : List UInt8) :
    (device.put id buffer).writeBufferAt k offset data =
      (device.writeBufferAt k offset data).bind fun p => .ret (p.1, p.2.put id buffer) := by
  unfold writeBufferAt
  rw [buffers_put_of_ne apart.symm]
  cases device.buffers[k]? with
  | none => rfl
  | some b =>
    dsimp only
    cases checkedEnd offset data.length with
    | error e => rfl
    | ok requested =>
      dsimp only
      split
      · rfl
      · cases copyFromSlice b.storage offset requested data with
        | panic why => rfl
        | ret storage => exact congrArg (fun after => Exec.ret (Except.ok (), after)) (insert_put_comm apart _ _)

theorem clearBuffer_put (apart : k ≠ id) :
    (device.put id buffer).clearBuffer k =
      ((device.clearBuffer k).1, (device.clearBuffer k).2.put id buffer) := by
  unfold clearBuffer
  rw [buffers_put_of_ne apart.symm]
  cases device.buffers[k]? with
  | none => rfl
  | some b => exact Prod.ext rfl (insert_put_comm apart _ _)

theorem releaseBuffer_put (apart : k ≠ id) :
    (device.put id buffer).releaseBuffer k =
      ((device.releaseBuffer k).1, (device.releaseBuffer k).2.put id buffer) := by
  unfold releaseBuffer
  rw [buffers_put_of_ne apart.symm]
  cases device.buffers[k]? with
  | none => rfl
  | some b => exact Prod.ext rfl (erase_put_comm apart)

/-- An allocation does not take the id of a live buffer. -/
theorem allocateBuffer_put (fresh : (⟨device.nextId⟩ : BufferId) ≠ id) (capacity : Nat) :
    (device.put id buffer).allocateBuffer capacity =
      ((device.allocateBuffer capacity).1, (device.allocateBuffer capacity).2.put id buffer) := by
  unfold allocateBuffer
  split
  · rfl
  · have same : (device.put id buffer).nextId = device.nextId := rfl
    rw [same]
    cases checkedAddU32 device.nextId 1 with
    | none => rfl
    | some nextId => exact Prod.ext rfl (insert_put_comm fresh _ _)

/-- **Frame.** A call that does not name `id` runs with another buffer there as it does without. -/
theorem step_put (wf : device.WellFormed) {old : GpuBuffer} (found : device.buffers[id]? = some old) {op : DeviceOp}
    (apart : op.names id = false) :
    deviceMachine.step (device.put id buffer) op =
      (deviceMachine.step device op).bind fun p => .ret (p.1, p.2.put id buffer) := by
  have other : ∀ {k : BufferId}, op.target = some k → k ≠ id := by
    rintro k target rfl
    rw [DeviceOp.names, target] at apart
    simp at apart
  cases op with
  | allocateBuffer capacity =>
    have fresh : (⟨device.nextId⟩ : BufferId) ≠ id := by
      rintro rfl
      rw [wf.next_fresh] at found
      cases found
    simp only [deviceMachine, allocateBuffer_put fresh, Exec.ret_bind]
  | writeBuffer k data =>
    simp only [deviceMachine, writeBuffer_put (other rfl), Exec.bind_bind, Exec.ret_bind]
  | writeBufferAt k offset data =>
    simp only [deviceMachine, writeBufferAt_put (other rfl), Exec.bind_bind, Exec.ret_bind]
  | clearBuffer k => simp only [deviceMachine, clearBuffer_put (other rfl), Exec.ret_bind]
  | readBuffer k =>
    simp only [deviceMachine, readBuffer, buffers_put_of_ne (other rfl).symm, Exec.bind_bind, Exec.ret_bind]
  | readBufferRange k offset length =>
    simp only [deviceMachine, readBufferRange, buffers_put_of_ne (other rfl).symm, Exec.bind_bind, Exec.ret_bind]
  | initializedLen k =>
    simp only [deviceMachine, initializedLen, buffers_put_of_ne (other rfl).symm, Exec.ret_bind]
  | releaseBuffer k => simp only [deviceMachine, releaseBuffer_put (other rfl), Exec.ret_bind]
  | bufferCount => simp only [deviceMachine, bufferCount_put found, Exec.ret_bind]

/-- Such a call also leaves the buffer of `id` where it was. -/
theorem step_keeps (wf : device.WellFormed) (found : device.buffers[id]? = some buffer) {op : DeviceOp}
    (apart : op.names id = false) {r : DeviceResult} {after : GpuDevice}
    (step : deviceMachine.step device op = .ret (r, after)) : after.buffers[id]? = some buffer := by
  have framed : deviceMachine.step (device.put id buffer) op =
      (deviceMachine.step device op).bind fun p => .ret (p.1, p.2.put id buffer) := step_put wf found apart
  rw [put_found found, step, Exec.ret_bind, Exec.ret.injEq, Prod.mk.injEq] at framed
  rw [framed.2, buffers_put_self]

end Frame

/-- The stores that the offset writes to `id` ask for. -/
def chunkWrites (id : BufferId) (ops : List DeviceOp) : List (Nat × List UInt8) :=
  ops.filterMap fun op =>
    match op with
    | .writeBufferAt k offset data => if k = id then some (offset, data) else none
    | _ => none

/-- The buffer after all of these stores. -/
def storeAll (buffer : GpuBuffer) (log : List (Nat × List UInt8)) : GpuBuffer :=
  { buffer with storage := writeAll buffer.storage log, used := highMark buffer.used log }

theorem chunkWrites_cons_other {id : BufferId} {op : DeviceOp} (apart : op.names id = false) (ops : List DeviceOp) :
    chunkWrites id (op :: ops) = chunkWrites id ops := by
  apply List.filterMap_cons_none
  cases op with
  | writeBufferAt k offset data =>
    apply if_neg
    rintro rfl
    simp [DeviceOp.names, DeviceOp.target] at apart
  | allocateBuffer | writeBuffer | clearBuffer | readBuffer | readBufferRange | initializedLen | releaseBuffer
  | bufferCount => rfl

theorem chunkWrites_cons_write (id : BufferId) (offset : Nat) (data : List UInt8) (ops : List DeviceOp) :
    chunkWrites id (.writeBufferAt id offset data :: ops) = (offset, data) :: chunkWrites id ops := by
  apply List.filterMap_cons_some
  exact if_pos rfl

/-- An offset write that its buffer has room for. -/
def InRoom (id : BufferId) (capacity : Nat) (op : DeviceOp) : Prop :=
  ∃ offset data, op = .writeBufferAt id offset data ∧ offset + data.length ≤ usizeMax ∧
    offset + data.length ≤ capacity

/-- What a run with offset writes to `id` among calls on other ids amounts to: the other
calls alone, with `buffer` under `id`. -/
structure Uploaded (id : BufferId) (device : GpuDevice) (buffer : GpuBuffer) (ops : List DeviceOp)
    (rs : List DeviceResult) (final : GpuDevice) : Prop where
  writes : ∀ p ∈ ops.zip rs, p.1.names id = true → p.2 = .done (.ok ())
  others : ∃ alone, deviceMachine.run device (ops.filter fun op => !op.names id) =
      .ret (((ops.zip rs).filter fun p => !p.1.names id).map Prod.snd, alone) ∧
    final = alone.put id buffer

/-- **Run lemma.** The writes gather in the buffer of `id`, the other calls pass by it. -/
theorem run_writes {id : BufferId} {device : GpuDevice} {old buffer : GpuBuffer} {ops : List DeviceOp}
    (wf : device.WellFormed) (found : device.buffers[id]? = some old)
    (room : ∀ op ∈ ops, op.names id = true → InRoom id buffer.capacity op) :
    ∃ rs final, deviceMachine.run (device.put id buffer) ops = .ret (rs, final) ∧
      Uploaded id device (storeAll buffer (chunkWrites id ops)) ops rs final := by
  induction ops generalizing device buffer with
  | nil => exact ⟨[], _, rfl, nofun, device, rfl, rfl⟩
  | cons op ops ih =>
    have later : ∀ op ∈ ops, op.names id = true → InRoom id buffer.capacity op :=
      fun op member => room op (List.mem_cons_of_mem _ member)
    cases mine : op.names id with
    | true =>
      obtain ⟨offset, data, rfl, word, fits⟩ := room op List.mem_cons_self mine
      have step : deviceMachine.step (device.put id buffer) (.writeBufferAt id offset data) =
          .ret (.done (.ok ()), device.put id (storeAll buffer [(offset, data)])) := by
        simp only [deviceMachine, writeBufferAt_eq (buffers_put_self device id buffer) word fits, Exec.ret_bind,
          put_put]
        rfl
      have capacity : (storeAll buffer [(offset, data)]).capacity = buffer.capacity := length_splice fits
      obtain ⟨rs, final, run, writes, alone, runAlone, same⟩ :=
        @ih device (storeAll buffer [(offset, data)]) wf found (by rw [capacity]; exact later)
      refine ⟨.done (.ok ()) :: rs, final, by simp [Machine.run, Exec.bind, step, run], ?_, alone, ?_, ?_⟩
      · intro p member named
        rcases List.mem_cons.mp member with rfl | old
        · rfl
        · exact writes p old named
      · simpa [mine] using runAlone
      · rw [same, chunkWrites_cons_write]
        rfl
    | false =>
      obtain ⟨r, after, step⟩ := wf.step_returns op
      have framed : deviceMachine.step (device.put id buffer) op = .ret (r, after.put id buffer) := by
        rw [step_put wf found mine, step, Exec.ret_bind]
      obtain ⟨rs, final, run, writes, alone, runAlone, same⟩ :=
        ih ((step_effect step).wellFormed wf) (step_keeps wf found mine step) later
      refine ⟨r :: rs, final, by simp [Machine.run, Exec.bind, framed, run], ?_, alone, ?_, ?_⟩
      · intro p member named
        rcases List.mem_cons.mp member with rfl | old
        · rw [mine] at named
          cases named
        · exact writes p old named
      · simp [mine, Machine.run, Exec.bind, step, runAlone]
      · rw [same, chunkWrites_cons_other mine]

theorem chunkWrites_filter (id : BufferId) (ops : List DeviceOp) :
    chunkWrites id (ops.filter (DeviceOp.names id)) = chunkWrites id ops := by
  induction ops with
  | nil => rfl
  | cons op ops ih =>
    cases mine : op.names id with
    | true =>
      rw [List.filter_cons_of_pos mine, chunkWrites, List.filterMap_cons, chunkWrites, List.filterMap_cons]
      rw [chunkWrites, chunkWrites] at ih
      rw [ih]
    | false =>
      rw [List.filter_cons_of_neg (by rw [mine]; exact Bool.false_ne_true), chunkWrites_cons_other mine, ih]

/-- The chunk writes of a run are the chunks, in the order in which they were issued. -/
theorem chunkWrites_perm {id : BufferId} {ops : List DeviceOp} {log : List (Nat × List UInt8)}
    (order : (ops.filter (DeviceOp.names id)).Perm (log.map fun w => .writeBufferAt id w.1 w.2)) :
    (chunkWrites id ops).Perm log := by
  have whole : chunkWrites id (log.map fun w => .writeBufferAt id w.1 w.2) = log := by
    clear order
    induction log with
    | nil => rfl
    | cons w log ih => rw [List.map_cons, chunkWrites_cons_write, ih]
  have issued := order.filterMap fun op =>
    match op with
    | .writeBufferAt k offset data => if k = id then some (offset, data) else none
    | _ => none
  rw [← chunkWrites_filter, ← whole]
  exact issued

/-- The calls `ops`, with the chunk writes among them, end as one write to `id` and the other
calls alone do. -/
def UploadsAs (id : BufferId) (device single : GpuDevice) (ops : List DeviceOp) : Prop :=
  ∃ rs final, deviceMachine.run device ops = .ret (rs, final) ∧
    (∀ p ∈ ops.zip rs, p.1.names id = true → p.2 = .done (.ok ())) ∧
    final.buffers[id]? = single.buffers[id]? ∧
    ∃ rs' alone, deviceMachine.run device (ops.filter fun op => !op.names id) = .ret (rs', alone) ∧
      ∀ k, k ≠ id → final.buffers[k]? = alone.buffers[k]?

/-- **A chunked upload equals one write.** Wherever a write of `data` would succeed, its chunks
can be written at their own offsets in any order, among any calls that do not name the buffer. -/
theorem chunked_upload_equals_one_write (pre : List DeviceOp) : ∃ rs device,
    deviceMachine.run GpuDevice.default pre = .ret (rs, device) ∧
    ∀ id offset data single, device.writeBufferAt id offset data = .ret (.ok (), single) →
      ∀ chunks : List (List UInt8), chunks ≠ [] → chunks.flatten = data →
        ∀ ops : List DeviceOp, (ops.filter (DeviceOp.names id)).Perm
            ((placed offset chunks).map fun w => .writeBufferAt id w.1 w.2) →
          UploadsAs id device single ops := by
  obtain ⟨rs, device, run, wf⟩ := run_device_returns pre
  refine ⟨rs, device, run, ?_⟩
  rintro id offset data single write chunks some_ rfl ops order
  have step : deviceMachine.step device (.writeBufferAt id offset chunks.flatten) =
      .ret (.done (.ok ()), single) := by simp only [deviceMachine, write, Exec.ret_bind]
  have effect : Effect device (some (.wroteAt id offset chunks.flatten)) single := step_effect step
  cases effect with
  | @wroteAt _ _ _ old found word fits =>
    have room : ∀ op ∈ ops, op.names id = true → InRoom id old.capacity op := by
      intro op member mine
      have chunk := order.mem_iff.mp (List.mem_filter.mpr ⟨member, mine⟩)
      obtain ⟨w, placed, rfl⟩ := List.mem_map.mp chunk
      have bounds := placed_bounds placed
      exact ⟨w.1, w.2, rfl, by omega, by omega⟩
    obtain ⟨rs, final, run, uploaded⟩ := run_writes wf found room
    rw [put_found found] at run
    obtain ⟨alone, runAlone, same⟩ := uploaded.others
    refine ⟨rs, final, run, uploaded.writes, ?_, _, alone, runAlone, ?_⟩
    · have log := chunkWrites_perm order
      have storage := writeAll_placed log fits
      have used := highMark_placed log some_ old.used
      rw [same, buffers_put_self, buffers_put_self, storeAll, storage, used]
    · intro k differ
      rw [same, buffers_put_of_ne differ.symm]

theorem chunked_upload_equals_one_write_three : ∃ rs device single,
    deviceMachine.run GpuDevice.default [.allocateBuffer 4, .allocateBuffer 2] = .ret (rs, device) ∧
    device.writeBufferAt ⟨0⟩ 1 [1, 2, 3] = .ret (.ok (), single) ∧
    UploadsAs ⟨0⟩ device single [.writeBufferAt ⟨0⟩ 2 [2, 3], .writeBuffer ⟨1⟩ [9], .writeBufferAt ⟨0⟩ 2 [],
      .writeBufferAt ⟨0⟩ 1 [1]] := by
  obtain ⟨rs, device, run, upload⟩ := chunked_upload_equals_one_write [.allocateBuffer 4, .allocateBuffer 2]
  have start : deviceMachine.run GpuDevice.default [.allocateBuffer 4, .allocateBuffer 2] =
    .ret ([.allocated (.ok ⟨0⟩), .allocated (.ok ⟨1⟩)], _) := rfl
  cases run.symm.trans start
  exact ⟨_, _, _, start, rfl, upload ⟨0⟩ 1 [1, 2, 3] _ rfl [[1], [], [2, 3]] (by decide) rfl _ (by decide)⟩

end GpuDevice

end GpuDriverLab
