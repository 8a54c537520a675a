import GpuDriverLab.BufferIds

/-!
# Buffer operations cannot panic

Reads slice the storage after a comparison with `used` only, and `data` slices
it after none, so all of them rest on `used` never passing the length of the
storage, which no operation changes. A command range is added up without a
check where it is used and with one where it is made.
-/

namespace GpuDriverLab
set_option autoImplicit false
open Rust

/-- The capacities with which `id` was allocated. -/
def capacitiesOf (id : BufferId) (es : List DeviceEvent) : List Nat :=
  es.filterMap fun
    | .allocated k capacity => if k = id then some capacity else none
    | _ => none

theorem capacitiesOf_append (id : BufferId) (es es' : List DeviceEvent) :
    capacitiesOf id (es ++ es') = capacitiesOf id es ++ capacitiesOf id es' := List.filterMap_append

/-- An id that was never handed out has no capacity. -/
theorem capacitiesOf_unknown {id : BufferId} {es : List DeviceEvent} (unknown : id ∉ allocatedIds es) :
    capacitiesOf id es = [] := by
  apply List.filterMap_eq_nil_iff.mpr
  intro event member
  cases event with
  | allocated k capacity =>
    apply if_neg
    rintro rfl
    exact unknown (List.mem_filterMap.mpr ⟨_, member, rfl⟩)
  | wrote | wroteAt | cleared | released => rfl

theorem capacitiesOf_elsewhere {id : BufferId} {e : Option DeviceEvent}
    (elsewhere : ∀ event, e = some event → event.buffer ≠ id) : capacitiesOf id e.toList = [] := by
  cases e with
  | none => rfl
  | some event =>
    apply capacitiesOf_unknown
    intro member
    obtain ⟨event', here, issued⟩ := List.mem_filterMap.mp member
    cases List.mem_singleton.mp here
    cases event with
    | allocated k capacity =>
      cases issued
      exact elsewhere _ rfl rfl
    | wrote | wroteAt | cleared | released => cases issued

namespace GpuDevice

/-- Every live buffer has the one capacity that its id was allocated with. -/
def SizedAsAllocated (es : List DeviceEvent) (device : GpuDevice) : Prop :=
  ∀ id buffer, device.buffers[id]? = some buffer → capacitiesOf id es = [buffer.capacity]

/-- An allocation hands out an id that no earlier one did. -/
theorem Effect.unknown {device device' : GpuDevice} {id : BufferId} {capacity : Nat} {es : List DeviceEvent}
    (effect : Effect device (some (.allocated id capacity)) device') (ledger : Ledger es device) :
    id ∉ allocatedIds es := by
  cases effect with
  | allocated nonzero room => exact ledger.next_unknown

/-- No operation changes the length of a storage. -/
theorem Effect.sizedAsAllocated {device device' : GpuDevice} {e : Option DeviceEvent} {es : List DeviceEvent}
    (effect : Effect device e device') (ledger : Ledger es device) (sized : SizedAsAllocated es device) :
    SizedAsAllocated (es ++ e.toList) device' := by
  intro k buffer found
  rw [capacitiesOf_append]
  cases effect.buffer found with
  | kept same elsewhere => rw [capacitiesOf_elsewhere elsewhere, List.append_nil, sized k buffer same]
  | allocated capacity nonzero =>
    have size : (freshBuffer k capacity).capacity = capacity := List.length_replicate
    have here : capacitiesOf k [.allocated k capacity] = [capacity] := List.filterMap_cons_some (if_pos rfl)
    rw [capacitiesOf_unknown (effect.unknown ledger), size]
    exact here
  | @wrote old data was fits =>
    have size : (splice old.storage 0 data).length = old.storage.length := length_splice (old.front_fits fits)
    rw [sized k old was, GpuBuffer.capacity, GpuBuffer.capacity, size]
    rfl
  | @wroteAt old offset data was fits =>
    have size : (splice old.storage offset data).length = old.storage.length := length_splice fits
    rw [sized k old was, GpuBuffer.capacity, GpuBuffer.capacity, size]
    rfl
  | cleared was =>
    rw [sized k _ was]
    rfl

theorem History.sizedAsAllocated {t : List (DeviceOp × DeviceResult)} {device : GpuDevice} (h : History t device) :
    SizedAsAllocated (events t) device := by
  refine h.history (I := fun t device => SizedAsAllocated (events t) device) ?_ ?_
  · intro id buffer found
    rw [default_buffers] at found
    cases found
  · intro t device op r device' before sized step
    rw [events_snoc]
    exact (step_effect step).sizedAsAllocated (History.ledger before) sized

/-- What holds of a live buffer after the history `t`. -/
structure Sound (t : List (DeviceOp × DeviceResult)) (device : GpuDevice) (id : BufferId) (buffer : GpuBuffer) :
    Prop where
  own : buffer.id = id
  issued : id.raw.toNat < device.nextId.toNat
  nonempty : 0 < buffer.storage.length
  allocated : capacitiesOf id (events t) = [buffer.storage.length]
  valid : buffer.used ≤ buffer.storage.length

theorem History.sound {t : List (DeviceOp × DeviceResult)} {device : GpuDevice} (h : History t device)
    {id : BufferId} {buffer : GpuBuffer} (found : device.buffers[id]? = some buffer) :
    Sound t device id buffer where
  own := (h.wellFormed id buffer found).own
  issued := (h.wellFormed id buffer found).issued
  nonempty := (h.wellFormed id buffer found).nonempty
  allocated := h.sizedAsAllocated id buffer found
  valid := (h.wellFormed id buffer found).valid

/-- No slice, copy or addition of these calls panics, whatever the arguments. -/
structure PanicFree (device : GpuDevice) : Prop where
  writeBufferAt : ∀ id offset data, (device.writeBufferAt id offset data).Returns
  writeBuffer : ∀ id data, (device.writeBuffer id data).Returns
  readBufferRange : ∀ id offset length, (device.readBufferRange id offset length).Returns
  readBuffer : ∀ id, (device.readBuffer id).Returns
  data : ∀ (id : BufferId) (buffer : GpuBuffer), device.buffers[id]? = some buffer → buffer.data.Returns

theorem WellFormed.panicFree {device : GpuDevice} (wf : device.WellFormed) : device.PanicFree where
  writeBufferAt := by
    intro id offset data
    obtain ⟨r, after, run, -⟩ := writeBufferAt_effect device id offset data
    exact ⟨_, run⟩
  writeBuffer := by
    intro id data
    obtain ⟨r, after, run, -⟩ := writeBuffer_effect device id data
    exact ⟨_, run⟩
  readBufferRange := by
    intro id offset length
    obtain ⟨r, after, step⟩ := wf.step_returns (.readBufferRange id offset length)
    obtain ⟨bytes, run, -⟩ := Exec.bind_eq_ret.mp step
    exact ⟨bytes, run⟩
  readBuffer := by
    intro id
    obtain ⟨r, after, step⟩ := wf.step_returns (.readBuffer id)
    obtain ⟨bytes, run, -⟩ := Exec.bind_eq_ret.mp step
    exact ⟨bytes, run⟩
  data := by
    intro id buffer found
    exact ⟨_, data_eq (wf id buffer found).valid⟩

/-- A released buffer was live, and nothing changes it afterwards. -/
theorem History.released_data {t : List (DeviceOp × DeviceResult)} {device : GpuDevice} (h : History t device)
    {id : BufferId} {buffer : GpuBuffer}
    (released : (DeviceOp.releaseBuffer id, DeviceResult.released (.ok buffer)) ∈ t) : buffer.data.Returns := by
  obtain ⟨earlier, later, rfl⟩ := List.append_of_mem released
  obtain ⟨before, after, history, step, -⟩ := h.step_at
  simp only [deviceMachine, Exec.ret.injEq, Prod.mk.injEq] at step
  obtain ⟨outcome, -⟩ := step
  cases found : before.buffers[id]? with
  | none =>
    rw [(unknown_buffer found).releaseBuffer] at outcome
    cases outcome
  | some stored =>
    rw [releaseBuffer_eq found] at outcome
    cases outcome
    exact (History.wellFormed history).panicFree.data id _ found

/-- **Buffer operations cannot panic**, after any sequence of them, nor does adding up
a command range that a client or the validation has made. -/
theorem buffer_operations_cannot_panic :
    (∀ ops, ∃ rs device, deviceMachine.run GpuDevice.default ops = .ret (rs, device) ∧
      (∀ id buffer, device.buffers[id]? = some buffer → Sound (ops.zip rs) device id buffer) ∧
      device.PanicFree ∧
      ∀ id buffer, (DeviceOp.releaseBuffer id, DeviceResult.released (.ok buffer)) ∈ ops.zip rs →
        buffer.data.Returns) ∧
    (∀ offset length range, CommandRange.new offset length = .ok range →
      range.end_ = .ret (offset + length) ∧ offset + length ≤ usizeMax) ∧
    (∀ raw command, ValidatedCommand.tryFrom raw = .ok command →
      command.range.end_ = .ret (raw.offset + raw.length)) ∧
    ∀ (B : Type) [BufferInfo B] (buffers : B) (request : SubmissionRequest),
      ∃ checked, validateSubmission buffers request = .ret checked ∧
        ∀ submission, checked = .ok submission →
          submission.command.range.end_ = .ret (request.command.offset + request.command.length) := by
  refine ⟨?_, ?_, ?_, ?_⟩
  · intro ops
    obtain ⟨rs, device, run, wf⟩ := run_device_returns ops
    have history : History (ops.zip rs) device := Machine.run_trace run
    exact ⟨rs, device, run, fun _ _ found => history.sound found, wf.panicFree,
      fun _ _ released => history.released_data released⟩
  · intro offset length range made
    obtain ⟨rfl, rfl⟩ := CommandRange.new_eq_ok.mp made
    exact ⟨range.end_eq, range.fits⟩
  · intro raw command accepted
    rw [← ValidatedCommand.tryFrom_eq_ok.mp accepted]
    exact command.range.end_eq
  · intro B _ buffers request
    obtain ⟨checked, run⟩ := @validateSubmission_returns B _ buffers request
    refine ⟨checked, run, ?_⟩
    rintro submission rfl
    obtain ⟨rfl, -⟩ := validateSubmission_eq_ok.mp run
    exact submission.command.range.end_eq

end GpuDevice

end GpuDriverLab
