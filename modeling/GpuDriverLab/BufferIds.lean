import GpuDriverLab.DeviceRun
import GpuDriverLab.Submission

/-!
# Buffer identifiers

The 32-bit counter is handed out once per successful allocation and never goes
back. `Ledger` keeps, along a history, which ids have been issued and which of
them returned; the live buffers are the difference.
-/

namespace GpuDriverLab
set_option autoImplicit false
open Rust

/-- The ids that successful allocations returned, in order. -/
def allocatedIds (es : List DeviceEvent) : List BufferId :=
  es.filterMap fun
    | .allocated id _ => some id
    | _ => none

/-- The ids that successful releases gave back, in order. -/
def releasedIds (es : List DeviceEvent) : List BufferId :=
  es.filterMap fun
    | .released id => some id
    | _ => none

namespace GpuDevice

/-- The bookkeeping between a history and the table it leads to. -/
structure Ledger (es : List DeviceEvent) (device : GpuDevice) : Prop where
  issued : ∀ id ∈ allocatedIds es, id.raw.toNat < device.nextId.toNat
  distinct : (allocatedIds es).Nodup
  returned : ∀ id ∈ releasedIds es, id ∈ allocatedIds es
  live : ∀ id, device.Live id ↔ id ∈ allocatedIds es ∧ id ∉ releasedIds es
  count : device.bufferCount + (releasedIds es).length = (allocatedIds es).length

theorem ledger_default : Ledger [] GpuDevice.default := by
  refine ⟨by simp [allocatedIds], by simp [allocatedIds], by simp [releasedIds], ?_, ?_⟩
  · intro id
    simp [Live, default_buffers, allocatedIds]
  · simp [bufferCount, GpuDevice.default, allocatedIds, releasedIds]

/-- The next id was never handed out. -/
theorem Ledger.next_unknown {es : List DeviceEvent} {device : GpuDevice} (ledger : Ledger es device) :
    (⟨device.nextId⟩ : BufferId) ∉ allocatedIds es := by
  intro member
  exact Nat.lt_irrefl _ (ledger.issued _ member)

theorem live_put {device : GpuDevice} {id : BufferId} {old buffer : GpuBuffer}
    (found : device.buffers[id]? = some old) (k : BufferId) :
    (device.put id buffer).Live k ↔ device.Live k := by
  unfold Live
  rw [buffers_put]
  split
  · rename_i same
    subst same
    simp [found]
  · rfl

/-- A rewritten buffer leaves the ledger as it was. -/
theorem Ledger.put {es : List DeviceEvent} {device : GpuDevice} {id : BufferId} {old buffer : GpuBuffer}
    (ledger : Ledger es device) (found : device.buffers[id]? = some old) :
    Ledger es (device.put id buffer) := by
  refine ⟨ledger.issued, ledger.distinct, ledger.returned, ?_, ?_⟩
  · intro k
    rw [live_put found, ledger.live]
  · rw [bufferCount_put found, ledger.count]

/-- Events that are neither allocations nor releases do not count. -/
theorem Ledger.of_same_ids {es es' : List DeviceEvent} {device : GpuDevice} (ledger : Ledger es device)
    (allocated : allocatedIds es' = allocatedIds es) (released : releasedIds es' = releasedIds es) :
    Ledger es' device := by
  obtain ⟨issued, distinct, returned, live, count⟩ := ledger
  rw [← allocated] at issued distinct count
  rw [← allocated, ← released] at returned
  simp only [← allocated, ← released] at live
  rw [← released] at count
  exact ⟨issued, distinct, returned, live, count⟩

theorem Ledger.allocated {es : List DeviceEvent} {device : GpuDevice} {capacity : Nat}
    (ledger : Ledger es device) (wf : device.WellFormed) (room : device.nextId.toNat + 1 < UInt32.size) :
    Ledger (es ++ [.allocated ⟨device.nextId⟩ capacity])
      { nextId := device.nextId + 1,
        buffers := device.buffers.insert ⟨device.nextId⟩ (freshBuffer ⟨device.nextId⟩ capacity) } := by
  have next := toNat_succ room
  have fresh := ledger.next_unknown
  have grown : allocatedIds (es ++ [.allocated ⟨device.nextId⟩ capacity]) =
      allocatedIds es ++ [⟨device.nextId⟩] := by simp [allocatedIds]
  have same : releasedIds (es ++ [.allocated ⟨device.nextId⟩ capacity]) = releasedIds es := by
    simp [releasedIds]
  refine ⟨?_, ?_, ?_, ?_, ?_⟩
  · intro id member
    rw [grown, List.mem_append, List.mem_singleton] at member
    rw [next]
    rcases member with old | rfl
    · have := ledger.issued id old
      omega
    · exact Nat.lt_succ_self _
  · rw [grown, List.nodup_append]
    refine ⟨ledger.distinct, by simp, ?_⟩
    intro a old b new equal
    rw [List.mem_singleton.mp new] at equal
    exact fresh (equal ▸ old)
  · intro id member
    rw [same] at member
    rw [grown]
    exact List.mem_append_left _ (ledger.returned id member)
  · intro id
    have before := ledger.live id
    rw [grown, same, List.mem_append, List.mem_singleton]
    unfold Live at before ⊢
    rw [buffers_insert]
    by_cases here : (⟨device.nextId⟩ : BufferId) = id
    · subst here
      have unreturned : (⟨device.nextId⟩ : BufferId) ∉ releasedIds es := fun h => fresh (ledger.returned _ h)
      simp [unreturned]
    · have there : ¬ id = ⟨device.nextId⟩ := fun h => here h.symm
      simp [here, there, before]
  · have count := ledger.count
    rw [grown, same, bufferCount_insert wf.next_fresh, List.length_append, List.length_singleton]
    omega

theorem Ledger.released {es : List DeviceEvent} {device : GpuDevice} {id : BufferId} {buffer : GpuBuffer}
    (ledger : Ledger es device) (found : device.buffers[id]? = some buffer) :
    Ledger (es ++ [.released id]) { device with buffers := device.buffers.erase id } := by
  have same : allocatedIds (es ++ [.released id]) = allocatedIds es := by simp [allocatedIds]
  have grown : releasedIds (es ++ [.released id]) = releasedIds es ++ [id] := by simp [releasedIds]
  have here := (ledger.live id).mp ⟨buffer, found⟩
  refine ⟨?_, ?_, ?_, ?_, ?_⟩
  · rw [same]
    exact ledger.issued
  · rw [same]
    exact ledger.distinct
  · intro k member
    rw [grown, List.mem_append, List.mem_singleton] at member
    rw [same]
    rcases member with old | rfl
    · exact ledger.returned k old
    · exact here.1
  · intro k
    have before := ledger.live k
    rw [same, grown, List.mem_append, List.mem_singleton]
    unfold Live at before ⊢
    rw [buffers_erase]
    by_cases equal : id = k
    · simp [equal]
    · have differ : ¬ k = id := fun h => equal h.symm
      simp [equal, differ, before]
  · have count := ledger.count
    have fewer := bufferCount_erase found
    rw [grown, same, List.length_append, List.length_singleton]
    omega

/-- Every operation keeps the ledger. -/
theorem Effect.ledger {device device' : GpuDevice} {e : Option DeviceEvent} {es : List DeviceEvent}
    (effect : Effect device e device') (wf : device.WellFormed) (ledger : Ledger es device) :
    Ledger (es ++ e.toList) device' := by
  cases effect with
  | idle => simpa using ledger
  | allocated nonzero room => exact ledger.allocated wf room
  | wrote found fits | wroteAt found word fits | cleared found =>
    exact (ledger.put found).of_same_ids (by simp [allocatedIds]) (by simp [releasedIds])
  | released found => exact ledger.released found

theorem History.ledger {t : List (DeviceOp × DeviceResult)} {device : GpuDevice} (h : History t device) :
    Ledger (events t) device := by
  refine h.history (I := fun t device => Ledger (events t) device) ledger_default ?_
  intro t device op r device' before ledger step
  rw [events_snoc]
  exact (step_effect step).ledger (History.wellFormed before) ledger

/-- Once the ids have run out, the counter stands still at its last value. -/
theorem History.exhausted {t : List (DeviceOp × DeviceResult)} {device : GpuDevice} {capacity : Nat}
    (h : History t device)
    (refused : (DeviceOp.allocateBuffer capacity, DeviceResult.allocated (.error .bufferIdExhausted)) ∈ t) :
    ¬ device.nextId.toNat + 1 < UInt32.size := by
  revert refused
  refine h.history (I := fun t device => (DeviceOp.allocateBuffer capacity,
    DeviceResult.allocated (.error .bufferIdExhausted)) ∈ t → ¬ device.nextId.toNat + 1 < UInt32.size)
    (by simp) ?_
  intro t device op r device' before ih step refused
  have grows := (step_effect step).nextId_le
  rcases List.mem_append.mp refused with earlier | now
  · have := ih earlier
    omega
  · cases List.mem_singleton.mp now
    intro room
    by_cases zero : capacity = 0
    · subst zero
      cases step
    · simp only [deviceMachine, allocateBuffer_eq zero (by omega : device.nextId.toNat + 1 < UInt32.size)] at step
      cases step

/-- No buffer answers to `id`: every call that names it says so and changes
nothing, and no well-formed command on it is accepted. -/
structure Stale (device : GpuDevice) (id : BufferId) : Prop extends ReportsUnknown device id where
  validateSubmission : ∀ raw command, ValidatedCommand.tryFrom raw = .ok command →
    validateSubmission device { bufferId := id, command := raw } =
      .ret (.error (.buffer (.unknownBuffer id)))

theorem stale_of_not_live {device : GpuDevice} {id : BufferId} (gone : ¬ device.Live id) :
    device.Stale id := by
  have unknown := unknown_buffer (not_live_iff.mp gone)
  refine { unknown with validateSubmission := ?_ }
  intro raw command accepted
  have lookup : BufferInfo.initializedLen device id = .error (.unknownBuffer id) := unknown.initializedLen
  simp only [GpuDriverLab.validateSubmission, accepted, lookup]

/-- The buffer of `id` answers every call that stays within its bounds. -/
structure Usable (device : GpuDevice) (id : BufferId) (buffer : GpuBuffer) : Prop where
  stored : device.buffers[id]? = some buffer
  initializedLen : device.initializedLen id = .ok buffer.used
  readBuffer : ∃ bytes, device.readBuffer id = .ret (.ok bytes)
  readBufferRange : ∀ offset length, offset + length ≤ usizeMax → offset + length ≤ buffer.used →
    ∃ bytes, device.readBufferRange id offset length = .ret (.ok bytes)
  writeBuffer : ∀ data, data.length ≤ buffer.capacity →
    ∃ after, device.writeBuffer id data = .ret (.ok (), after)
  writeBufferAt : ∀ offset data, offset + data.length ≤ usizeMax →
    offset + data.length ≤ buffer.capacity →
    ∃ after, device.writeBufferAt id offset data = .ret (.ok (), after)
  clearBuffer : ∃ after, device.clearBuffer id = (.ok (), after)
  releaseBuffer : ∃ after, device.releaseBuffer id = (.ok buffer, after)

theorem WellFormed.usable {device : GpuDevice} {id : BufferId} {buffer : GpuBuffer}
    (wf : device.WellFormed) (found : device.buffers[id]? = some buffer) : device.Usable id buffer where
  stored := found
  initializedLen := initializedLen_eq found
  readBuffer := ⟨_, readBuffer_eq found (wf _ _ found).valid⟩
  readBufferRange _ _ word inside := ⟨_, readBufferRange_eq found (wf _ _ found).valid word inside⟩
  writeBuffer _ fits := ⟨_, writeBuffer_eq found fits⟩
  writeBufferAt _ _ word fits := ⟨_, writeBufferAt_eq found word fits⟩
  clearBuffer := ⟨_, clearBuffer_eq found⟩
  releaseBuffer := ⟨_, releaseBuffer_eq found⟩

/-- What a history guarantees about the ids it handed out. -/
structure IdsNeverReused (t : List (DeviceOp × DeviceResult)) (device : GpuDevice) : Prop where
  distinct : (allocatedIds (events t)).Nodup
  fresh : ∀ capacity id after, device.allocateBuffer capacity = (.ok id, after) →
    ¬ device.Live id ∧ id ∉ allocatedIds (events t)
  count : device.bufferCount + (releasedIds (events t)).length = (allocatedIds (events t)).length
  stale : ∀ id ∈ releasedIds (events t), device.Stale id
  usable : ∀ id ∈ allocatedIds (events t), id ∉ releasedIds (events t) → ∃ buffer, device.Usable id buffer
  exhausted : ∀ capacity,
    (DeviceOp.allocateBuffer capacity, DeviceResult.allocated (.error .bufferIdExhausted)) ∈ t →
    ∀ later, later ≠ 0 → device.allocateBuffer later = (.error .bufferIdExhausted, device)

/-- **Identifiers are never reused.** Every run of the device ends in a state where
the ids handed out are distinct, released ones are refused, and the others usable. -/
theorem buffer_ids_never_reused (ops : List DeviceOp) :
    ∃ rs device, deviceMachine.run GpuDevice.default ops = .ret (rs, device) ∧
      IdsNeverReused (ops.zip rs) device := by
  obtain ⟨rs, device, run, wf⟩ := run_device_returns ops
  have history : History (ops.zip rs) device := Machine.run_trace run
  have ledger := history.ledger
  refine ⟨rs, device, run, ledger.distinct, ?_, ledger.count, ?_, ?_, ?_⟩
  · intro capacity id after allocation
    have grant : id = ⟨device.nextId⟩ := by
      by_cases zero : capacity = 0
      · subst zero
        cases allocation
      · by_cases room : device.nextId.toNat + 1 < UInt32.size
        · rw [allocateBuffer_eq zero room] at allocation
          cases allocation
          rfl
        · rw [allocateBuffer_exhausted zero room] at allocation
          cases allocation
    subst grant
    exact ⟨not_live_iff.mpr wf.next_fresh, ledger.next_unknown⟩
  · intro id member
    apply stale_of_not_live
    intro live
    exact ((ledger.live id).mp live).2 member
  · intro id issued kept
    obtain ⟨buffer, found⟩ := (ledger.live id).mpr ⟨issued, kept⟩
    exact ⟨buffer, wf.usable found⟩
  · intro capacity refused later nonzero
    exact allocateBuffer_exhausted nonzero (history.exhausted refused)

end GpuDevice

end GpuDriverLab
