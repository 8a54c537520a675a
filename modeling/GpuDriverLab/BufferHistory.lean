import GpuDriverLab.BufferIds
import GpuDriverLab.Rust.StoreLog

/-!
# What a buffer holds

The contents of a buffer are a function of its own history: `window` collects
the stores made since the buffer was last allocated, cleared or rewritten, and
the table reflects it. Calls on other ids and failed calls do not appear in it.
-/

namespace GpuDriverLab
set_option autoImplicit false
open Rust

/-- The stores into `id` since its last reset, as `(offset, bytes)`. -/
def window (id : BufferId) (es : List DeviceEvent) : List (Nat × List UInt8) :=
  es.foldl (fun log e =>
    match e with
    | .allocated k _ => if k = id then [] else log
    | .wrote k data => if k = id then [(0, data)] else log
    | .wroteAt k offset data => if k = id then log ++ [(offset, data)] else log
    | .cleared k => if k = id then [] else log
    | .released _ => log) []

theorem window_snoc (id : BufferId) (es : List DeviceEvent) (e : DeviceEvent) :
    window id (es ++ [e]) =
      match e with
      | .allocated k _ => if k = id then [] else window id es
      | .wrote k data => if k = id then [(0, data)] else window id es
      | .wroteAt k offset data => if k = id then window id es ++ [(offset, data)] else window id es
      | .cleared k => if k = id then [] else window id es
      | .released _ => window id es := by
  simp only [window, List.foldl_append, List.foldl_cons, List.foldl_nil]

/-- What happens to other buffers does not show. -/
theorem window_elsewhere {id : BufferId} {es : List DeviceEvent} {e : Option DeviceEvent}
    (elsewhere : ∀ event, e = some event → event.buffer ≠ id) : window id (es ++ e.toList) = window id es := by
  cases e with
  | none => rw [Option.toList_none, List.append_nil]
  | some event =>
    have differ := elsewhere event rfl
    rw [Option.toList_some, window_snoc]
    cases event with
    | released k => rfl
    | allocated | wrote | wroteAt | cleared => exact if_neg differ

namespace GpuDevice

/-- Each live buffer reflects its window and has the capacity it was allocated with. -/
structure Contents (es : List DeviceEvent) (device : GpuDevice) : Prop where
  reflects : ∀ id buffer, device.buffers[id]? = some buffer →
    Reflects (window id es) buffer.storage buffer.used
  capacity : ∀ id buffer, device.buffers[id]? = some buffer →
    DeviceEvent.allocated id buffer.capacity ∈ es

theorem contents_default : Contents [] GpuDevice.default := by
  constructor <;> intro id buffer found <;> rw [default_buffers] at found <;> cases found

/-- Every operation keeps the contents in step with the history. -/
theorem Effect.contents {device device' : GpuDevice} {e : Option DeviceEvent} {es : List DeviceEvent}
    (effect : Effect device e device') (contents : Contents es device) :
    Contents (es ++ e.toList) device' := by
  constructor
  · intro k b found
    cases effect.buffer found with
    | kept same elsewhere =>
      rw [window_elsewhere elsewhere]
      exact contents.reflects k b same
    | allocated capacity nonzero =>
      rw [Option.toList_some, window_snoc]
      simp only [if_true]
      exact reflects_nil _ _
    | wrote old fits =>
      rw [Option.toList_some, window_snoc]
      simp only [if_true]
      exact reflects_restart fits
    | wroteAt old fits =>
      rw [Option.toList_some, window_snoc]
      simp only [if_true]
      exact (contents.reflects k _ old).splice fits
    | cleared old =>
      rw [Option.toList_some, window_snoc]
      simp only [if_true]
      exact reflects_nil _ _
  · intro k b found
    cases effect.buffer found with
    | kept same elsewhere => exact List.mem_append_left _ (contents.capacity k b same)
    | allocated capacity nonzero => simp [GpuBuffer.capacity, freshBuffer]
    | wrote old fits =>
      have size := length_splice (GpuBuffer.front_fits _ fits)
      simp only [GpuBuffer.capacity, size]
      exact List.mem_append_left _ (contents.capacity k _ old)
    | wroteAt old fits =>
      simp only [GpuBuffer.capacity, length_splice fits]
      exact List.mem_append_left _ (contents.capacity k _ old)
    | cleared old =>
      have allocated := contents.capacity k _ old
      exact List.mem_append_left _ allocated

theorem History.contents {t : List (DeviceOp × DeviceResult)} {device : GpuDevice} (h : History t device) :
    Contents (events t) device := by
  refine h.history (I := fun t device => Contents (events t) device) contents_default ?_
  intro t device op r device' _ contents step
  rw [events_snoc]
  exact (step_effect step).contents contents

/-- A range read succeeds exactly inside the initialized bytes, and then returns
that part of a whole read. -/
theorem WellFormed.readBufferRange_eq_ok {device : GpuDevice} {id : BufferId} {buffer : GpuBuffer}
    (wf : device.WellFormed) (found : device.buffers[id]? = some buffer) (offset length : Nat)
    (bytes : List UInt8) :
    device.readBufferRange id offset length = .ret (.ok bytes) ↔
      offset + length ≤ usizeMax ∧ offset + length ≤ buffer.used ∧
        bytes = ((buffer.storage.take buffer.used).drop offset).take length := by
  have valid := (wf id buffer found).valid
  by_cases word : offset + length ≤ usizeMax
  · by_cases inside : offset + length ≤ buffer.used
    · have part : ((buffer.storage.take buffer.used).drop offset).take length =
          (buffer.storage.take (offset + length)).drop offset := by
        rw [List.take_drop, List.take_take, Nat.min_eq_left inside]
      rw [readBufferRange_eq found valid word inside, part]
      simp [word, inside, eq_comm]
    · rw [readBufferRange_outOfBounds found word (Nat.lt_of_not_le inside)]
      simp [inside]
  · rw [readBufferRange_overflow found (Nat.lt_of_not_le word)]
    simp [word]

/-- What a client can rely on when it reads the live buffer `id`. -/
structure ReadsLatestWrites (t : List (DeviceOp × DeviceResult)) (device : GpuDevice) (id : BufferId)
    (capacity initialized : Nat) (bytes : List UInt8) : Prop where
  allocated : DeviceEvent.allocated id capacity ∈ events t
  initializedLen : device.initializedLen id = .ok initialized
  readBuffer : device.readBuffer id = .ret (.ok bytes)
  within : initialized ≤ capacity
  latest : ∀ w ∈ window id (events t), ∀ i, Covers w i →
    i < initialized ∧ i < bytes.length ∧ bytes[i]? = latest (window id (events t)) i
  range : ∀ offset length part, device.readBufferRange id offset length = .ret (.ok part) ↔
    offset + length ≤ usizeMax ∧ offset + length ≤ initialized ∧ part = (bytes.drop offset).take length
  release : ∃ buffer after, device.releaseBuffer id = (.ok buffer, after) ∧
    buffer.data = .ret bytes ∧ buffer.capacity = capacity

/-- **Reads return the latest writes.** In every state that a run of the device
reaches, every live buffer reads back what its own history stored last. -/
theorem reads_latest_writes (ops : List DeviceOp) :
    ∃ rs device, deviceMachine.run GpuDevice.default ops = .ret (rs, device) ∧
      ∀ id, device.Live id →
        ∃ capacity initialized bytes, ReadsLatestWrites (ops.zip rs) device id capacity initialized bytes := by
  obtain ⟨rs, device, run, wf⟩ := run_device_returns ops
  have history : History (ops.zip rs) device := Machine.run_trace run
  have contents := history.contents
  refine ⟨rs, device, run, ?_⟩
  rintro id ⟨buffer, found⟩
  have valid := (wf id buffer found).valid
  refine ⟨buffer.capacity, buffer.used, buffer.storage.take buffer.used,
    contents.capacity id buffer found, initializedLen_eq found, readBuffer_eq found valid, valid, ?_,
    wf.readBufferRange_eq_ok found, buffer, _, releaseBuffer_eq found, data_eq valid, rfl⟩
  intro w member i here
  obtain ⟨b, stored⟩ : ∃ b, Rust.latest (window id (events (ops.zip rs))) i = some b := by
    apply Option.ne_none_iff_exists'.mp
    intro none
    exact latest_eq_none.mp none w member here
  obtain ⟨below, same⟩ := contents.reflects id buffer found i b stored
  refine ⟨below, ?_, ?_⟩
  · rw [List.length_take]
    exact Nat.lt_min.mpr ⟨below, Nat.lt_of_lt_of_le below valid⟩
  · rw [List.getElem?_take_of_lt below, same, stored]

end GpuDevice

end GpuDriverLab
