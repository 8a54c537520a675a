import GpuDriverLab.Device
import GpuDriverLab.Machine.Trace

/-!
# Runs of the buffer table

`deviceMachine` is the device under its public operations. What one operation
can do is said once, in `Effect`: a failed or reading call does nothing, and a
successful mutation is one of five events. Every invariant of the table is a
case analysis over `Effect`, and a history is read through its events.
-/

namespace GpuDriverLab
set_option autoImplicit false
open Rust

/-- The public operations of the device. -/
inductive DeviceOp where
  | allocateBuffer (capacity : Nat)
  | writeBuffer (id : BufferId) (data : List UInt8)
  | writeBufferAt (id : BufferId) (offset : Nat) (data : List UInt8)
  | clearBuffer (id : BufferId)
  | readBuffer (id : BufferId)
  | readBufferRange (id : BufferId) (offset length : Nat)
  | initializedLen (id : BufferId)
  | releaseBuffer (id : BufferId)
  | bufferCount
deriving DecidableEq, Repr

inductive DeviceResult where
  | done (result : Except DriverError Unit)
  | allocated (result : Except DriverError BufferId)
  | bytes (result : Except DriverError (List UInt8))
  | len (result : Except DriverError Nat)
  | released (result : Except DriverError GpuBuffer)
  | count (n : Nat)
deriving DecidableEq

def deviceMachine : Machine GpuDevice DeviceOp DeviceResult where
  step device
    | .allocateBuffer capacity =>
      .ret (.allocated (device.allocateBuffer capacity).1, (device.allocateBuffer capacity).2)
    | .writeBuffer id data => (device.writeBuffer id data).bind fun p => .ret (.done p.1, p.2)
    | .writeBufferAt id offset data =>
      (device.writeBufferAt id offset data).bind fun p => .ret (.done p.1, p.2)
    | .clearBuffer id => .ret (.done (device.clearBuffer id).1, (device.clearBuffer id).2)
    | .readBuffer id => (device.readBuffer id).bind fun r => .ret (.bytes r, device)
    | .readBufferRange id offset length =>
      (device.readBufferRange id offset length).bind fun r => .ret (.bytes r, device)
    | .initializedLen id => .ret (.len (device.initializedLen id), device)
    | .releaseBuffer id => .ret (.released (device.releaseBuffer id).1, (device.releaseBuffer id).2)
    | .bufferCount => .ret (.count device.bufferCount, device)

/-- A successful mutation, as the client sees it. -/
inductive DeviceEvent where
  | allocated (id : BufferId) (capacity : Nat)
  | wrote (id : BufferId) (data : List UInt8)
  | wroteAt (id : BufferId) (offset : Nat) (data : List UInt8)
  | cleared (id : BufferId)
  | released (id : BufferId)
deriving DecidableEq

/-- The buffer that an event is about. -/
def DeviceEvent.buffer : DeviceEvent → BufferId
  | .allocated id _ | .wrote id _ | .wroteAt id _ _ | .cleared id | .released id => id

/-- The event of a call and its result; failed and reading calls have none. -/
def event : DeviceOp × DeviceResult → Option DeviceEvent
  | (.allocateBuffer capacity, .allocated (.ok id)) => some (.allocated id capacity)
  | (.writeBuffer id data, .done (.ok ())) => some (.wrote id data)
  | (.writeBufferAt id offset data, .done (.ok ())) => some (.wroteAt id offset data)
  | (.clearBuffer id, .done (.ok ())) => some (.cleared id)
  | (.releaseBuffer id, .released (.ok _)) => some (.released id)
  | _ => none

/-- The events of a history, in order. -/
def events (t : List (DeviceOp × DeviceResult)) : List DeviceEvent := t.filterMap event

theorem events_snoc (t : List (DeviceOp × DeviceResult)) (op : DeviceOp) (r : DeviceResult) :
    events (t ++ [(op, r)]) = events t ++ (event (op, r)).toList := by
  cases h : event (op, r) <;> simp [events, h]

namespace GpuDevice

/-- Everything one operation can do to the table. -/
inductive Effect : GpuDevice → Option DeviceEvent → GpuDevice → Prop where
  | idle (device : GpuDevice) : Effect device none device
  | allocated {device : GpuDevice} {capacity : Nat} (nonzero : capacity ≠ 0)
      (room : device.nextId.toNat + 1 < UInt32.size) :
      Effect device (some (.allocated ⟨device.nextId⟩ capacity))
        { nextId := device.nextId + 1,
          buffers := device.buffers.insert ⟨device.nextId⟩ (freshBuffer ⟨device.nextId⟩ capacity) }
  | wrote {device : GpuDevice} {id : BufferId} {data : List UInt8} {buffer : GpuBuffer}
      (found : device.buffers[id]? = some buffer) (fits : data.length ≤ buffer.capacity) :
      Effect device (some (.wrote id data)) (device.put id
        { buffer with storage := splice buffer.storage 0 data, used := data.length })
  | wroteAt {device : GpuDevice} {id : BufferId} {offset : Nat} {data : List UInt8} {buffer : GpuBuffer}
      (found : device.buffers[id]? = some buffer) (word : offset + data.length ≤ usizeMax)
      (fits : offset + data.length ≤ buffer.capacity) :
      Effect device (some (.wroteAt id offset data)) (device.put id
        { buffer with
          storage := splice buffer.storage offset data
          used := max buffer.used (offset + data.length) })
  | cleared {device : GpuDevice} {id : BufferId} {buffer : GpuBuffer}
      (found : device.buffers[id]? = some buffer) :
      Effect device (some (.cleared id)) (device.put id { buffer with used := 0 })
  | released {device : GpuDevice} {id : BufferId} {buffer : GpuBuffer}
      (found : device.buffers[id]? = some buffer) :
      Effect device (some (.released id)) { device with buffers := device.buffers.erase id }

section Cases

variable (device : GpuDevice)

theorem allocateBuffer_effect (capacity : Nat) :
    Effect device (event (.allocateBuffer capacity, .allocated (device.allocateBuffer capacity).1))
      (device.allocateBuffer capacity).2 := by
  by_cases zero : capacity = 0
  · subst zero
    exact .idle device
  · by_cases room : device.nextId.toNat + 1 < UInt32.size
    · rw [allocateBuffer_eq zero room]
      exact .allocated zero room
    · rw [allocateBuffer_exhausted zero room]
      exact .idle device

/-- A whole write returns; it fails without a trace or stores the data. -/
theorem writeBuffer_effect (id : BufferId) (data : List UInt8) :
    ∃ r device', device.writeBuffer id data = .ret (r, device') ∧
      Effect device (event (.writeBuffer id data, .done r)) device' := by
  cases found : device.buffers[id]? with
  | none => exact ⟨_, _, (unknown_buffer found).writeBuffer data, .idle device⟩
  | some buffer =>
    by_cases fits : data.length ≤ buffer.capacity
    · exact ⟨_, _, writeBuffer_eq found fits, .wrote found fits⟩
    · exact ⟨_, _, writeBuffer_tooLarge found (by omega), .idle device⟩

/-- An offset write returns; it fails without a trace or stores the data. -/
theorem writeBufferAt_effect (id : BufferId) (offset : Nat) (data : List UInt8) :
    ∃ r device', device.writeBufferAt id offset data = .ret (r, device') ∧
      Effect device (event (.writeBufferAt id offset data, .done r)) device' := by
  cases found : device.buffers[id]? with
  | none => exact ⟨_, _, (unknown_buffer found).writeBufferAt offset data, .idle device⟩
  | some buffer =>
    by_cases word : offset + data.length ≤ usizeMax
    · by_cases fits : offset + data.length ≤ buffer.capacity
      · exact ⟨_, _, writeBufferAt_eq found word fits, .wroteAt found word fits⟩
      · exact ⟨_, _, writeBufferAt_outOfBounds found word (by omega), .idle device⟩
    · exact ⟨_, _, writeBufferAt_overflow found (by omega), .idle device⟩

theorem clearBuffer_effect (id : BufferId) :
    Effect device (event (.clearBuffer id, .done (device.clearBuffer id).1)) (device.clearBuffer id).2 := by
  cases found : device.buffers[id]? with
  | none =>
    rw [(unknown_buffer found).clearBuffer]
    exact .idle device
  | some buffer =>
    rw [clearBuffer_eq found]
    exact .cleared found

theorem releaseBuffer_effect (id : BufferId) :
    Effect device (event (.releaseBuffer id, .released (device.releaseBuffer id).1))
      (device.releaseBuffer id).2 := by
  cases found : device.buffers[id]? with
  | none =>
    rw [(unknown_buffer found).releaseBuffer]
    exact .idle device
  | some buffer =>
    rw [releaseBuffer_eq found]
    exact .released found

end Cases

/-- **Step lemma.** Whatever an operation returns, its effect is that of its event. -/
theorem step_effect {device device' : GpuDevice} {op : DeviceOp} {r : DeviceResult}
    (h : deviceMachine.step device op = .ret (r, device')) : Effect device (event (op, r)) device' := by
  cases op with
  | allocateBuffer capacity =>
    cases h
    exact allocateBuffer_effect device capacity
  | writeBuffer id data =>
    obtain ⟨result, after, run, effect⟩ := writeBuffer_effect device id data
    simp only [deviceMachine, run, Exec.ret_bind] at h
    cases h
    exact effect
  | writeBufferAt id offset data =>
    obtain ⟨result, after, run, effect⟩ := writeBufferAt_effect device id offset data
    simp only [deviceMachine, run, Exec.ret_bind] at h
    cases h
    exact effect
  | clearBuffer id =>
    cases h
    exact clearBuffer_effect device id
  | releaseBuffer id =>
    cases h
    exact releaseBuffer_effect device id
  | initializedLen id | bufferCount =>
    cases h
    exact .idle device
  | readBuffer id | readBufferRange id offset length =>
    obtain ⟨result, _, h⟩ := Exec.bind_eq_ret.mp h
    cases h
    exact .idle device

/-- Where a buffer that is live after an effect comes from; `before` is what its id held. -/
inductive BufferEffect (k : BufferId) (before : Option GpuBuffer) : Option DeviceEvent → GpuBuffer → Prop where
  | kept {e : Option DeviceEvent} {buffer : GpuBuffer} (same : before = some buffer)
      (elsewhere : ∀ event, e = some event → event.buffer ≠ k) : BufferEffect k before e buffer
  | allocated (capacity : Nat) (nonzero : capacity ≠ 0) :
      BufferEffect k before (some (.allocated k capacity)) (freshBuffer k capacity)
  | wrote {old : GpuBuffer} {data : List UInt8} (found : before = some old) (fits : data.length ≤ old.capacity) :
      BufferEffect k before (some (.wrote k data))
        { old with storage := splice old.storage 0 data, used := data.length }
  | wroteAt {old : GpuBuffer} {offset : Nat} {data : List UInt8} (found : before = some old)
      (fits : offset + data.length ≤ old.capacity) :
      BufferEffect k before (some (.wroteAt k offset data))
        { old with
          storage := splice old.storage offset data
          used := max old.used (offset + data.length) }
  | cleared {old : GpuBuffer} (found : before = some old) :
      BufferEffect k before (some (.cleared k)) { old with used := 0 }

/-- The effect on one buffer. -/
theorem Effect.buffer {device device' : GpuDevice} {e : Option DeviceEvent} {k : BufferId} {buffer : GpuBuffer}
    (effect : Effect device e device') (found : device'.buffers[k]? = some buffer) :
    BufferEffect k device.buffers[k]? e buffer := by
  have other : ∀ {event : DeviceEvent}, event.buffer ≠ k →
      ∀ event', some event = some event' → event'.buffer ≠ k := by
    rintro event differ _ same
    cases same
    exact differ
  cases effect with
  | idle => exact .kept found nofun
  | allocated nonzero room =>
    rw [buffers_insert] at found
    split at found
    · rename_i here
      subst here
      cases found
      exact .allocated _ nonzero
    · rename_i differ
      exact .kept found (other differ)
  | wrote old fits =>
    rw [buffers_put] at found
    split at found
    · rename_i here
      subst here
      cases found
      exact .wrote old fits
    · rename_i differ
      exact .kept found (other differ)
  | wroteAt old word fits =>
    rw [buffers_put] at found
    split at found
    · rename_i here
      subst here
      cases found
      exact .wroteAt old fits
    · rename_i differ
      exact .kept found (other differ)
  | cleared old =>
    rw [buffers_put] at found
    split at found
    · rename_i here
      subst here
      cases found
      exact .cleared old
    · rename_i differ
      exact .kept found (other differ)
  | released old =>
    rw [buffers_erase] at found
    split at found
    · cases found
    · rename_i differ
      exact .kept found (other differ)

/-- A stored buffer: under its own id, which has been handed out, with room for
what it calls valid. -/
structure Stored (device : GpuDevice) (id : BufferId) (buffer : GpuBuffer) : Prop where
  own : buffer.id = id
  issued : id.raw.toNat < device.nextId.toNat
  nonempty : 0 < buffer.capacity
  valid : buffer.used ≤ buffer.capacity

/-- The invariant of the buffer table. -/
def WellFormed (device : GpuDevice) : Prop :=
  ∀ id buffer, device.buffers[id]? = some buffer → device.Stored id buffer

theorem default_buffers (id : BufferId) : GpuDevice.default.buffers[id]? = none := by
  simp [GpuDevice.default]

theorem default_wellFormed : GpuDevice.default.WellFormed := by
  intro id buffer found
  rw [default_buffers] at found
  cases found

/-- The next id is not live, so an allocation replaces nothing. -/
theorem WellFormed.next_fresh {device : GpuDevice} (wf : device.WellFormed) :
    device.buffers[(⟨device.nextId⟩ : BufferId)]? = none := by
  apply not_live_iff.mp
  rintro ⟨buffer, found⟩
  have below := (wf _ _ found).issued
  exact Nat.lt_irrefl _ below

theorem toNat_succ {n : UInt32} (room : n.toNat + 1 < UInt32.size) : (n + 1).toNat = n.toNat + 1 := by
  rw [UInt32.toNat_add]
  exact Nat.mod_eq_of_lt room

/-- The counter never goes back. -/
theorem Effect.nextId_le {device device' : GpuDevice} {e : Option DeviceEvent}
    (effect : Effect device e device') : device.nextId.toNat ≤ device'.nextId.toNat := by
  cases effect with
  | allocated nonzero room =>
    rw [toNat_succ room]
    exact Nat.le_succ _
  | idle | wrote | wroteAt | cleared | released => exact Nat.le_refl _

/-- The counter passes every id it hands out. -/
theorem Effect.issued {device device' : GpuDevice} {id : BufferId} {capacity : Nat}
    (effect : Effect device (some (.allocated id capacity)) device') : id.raw.toNat < device'.nextId.toNat := by
  cases effect with
  | allocated nonzero room =>
    rw [toNat_succ room]
    exact Nat.lt_succ_self _

/-- Every operation keeps the invariant. -/
theorem Effect.wellFormed {device device' : GpuDevice} {e : Option DeviceEvent}
    (effect : Effect device e device') (wf : device.WellFormed) : device'.WellFormed := by
  intro k b found
  have grows := effect.nextId_le
  cases effect.buffer found with
  | kept same elsewhere =>
    have before := wf k b same
    exact ⟨before.own, Nat.lt_of_lt_of_le before.issued grows, before.nonempty, before.valid⟩
  | allocated capacity nonzero =>
    have room : (freshBuffer k capacity).capacity = capacity := List.length_replicate
    exact ⟨rfl, effect.issued, by rw [room]; exact Nat.pos_of_ne_zero nonzero, Nat.zero_le _⟩
  | wrote old fits =>
    have before := wf k _ old
    have size := length_splice (GpuBuffer.front_fits _ fits)
    exact ⟨before.own, Nat.lt_of_lt_of_le before.issued grows, by rw [GpuBuffer.capacity, size]; exact before.nonempty,
      by rw [GpuBuffer.capacity, size]; exact fits⟩
  | wroteAt old fits =>
    have before := wf k _ old
    have size := length_splice fits
    exact ⟨before.own, Nat.lt_of_lt_of_le before.issued grows, by rw [GpuBuffer.capacity, size]; exact before.nonempty,
      by rw [GpuBuffer.capacity, size]; exact Nat.max_le.mpr ⟨before.valid, fits⟩⟩
  | cleared old =>
    have before := wf k _ old
    exact ⟨before.own, Nat.lt_of_lt_of_le before.issued grows, before.nonempty, Nat.zero_le _⟩

/-- A live buffer stays live, with its capacity, until it is released. -/
theorem Effect.keeps {device device' : GpuDevice} {e : Option DeviceEvent} {k : BufferId} {buffer : GpuBuffer}
    (effect : Effect device e device') (wf : device.WellFormed) (kept : e ≠ some (.released k))
    (found : device.buffers[k]? = some buffer) :
    ∃ after, device'.buffers[k]? = some after ∧ after.capacity = buffer.capacity := by
  have same : ∀ {id : BufferId} {old new : GpuBuffer}, device.buffers[id]? = some old →
      new.capacity = old.capacity →
      ∃ after, (device.put id new).buffers[k]? = some after ∧ after.capacity = buffer.capacity := by
    intro id old new old_found capacity
    rw [buffers_put]
    split
    · rename_i here
      subst here
      cases old_found.symm.trans found
      exact ⟨new, rfl, capacity⟩
    · exact ⟨buffer, found, rfl⟩
  cases effect with
  | idle => exact ⟨buffer, found, rfl⟩
  | allocated nonzero room =>
    refine ⟨buffer, ?_, rfl⟩
    have fresh := wf.next_fresh
    rw [buffers_insert]
    split
    · rename_i here
      subst here
      rw [fresh] at found
      cases found
    · exact found
  | wrote old fits => exact same old (length_splice (GpuBuffer.front_fits _ fits))
  | wroteAt old word fits => exact same old (length_splice fits)
  | cleared old => exact same old rfl
  | released old =>
    refine ⟨buffer, ?_, rfl⟩
    rw [buffers_erase]
    split
    · rename_i here
      subst here
      exact (kept rfl).elim
    · exact found

/-- No operation panics on a well-formed table. -/
theorem WellFormed.step_returns {device : GpuDevice} (wf : device.WellFormed) (op : DeviceOp) :
    ∃ r device', deviceMachine.step device op = .ret (r, device') := by
  cases op with
  | allocateBuffer capacity => exact ⟨_, _, rfl⟩
  | clearBuffer id => exact ⟨_, _, rfl⟩
  | releaseBuffer id => exact ⟨_, _, rfl⟩
  | initializedLen id => exact ⟨_, _, rfl⟩
  | bufferCount => exact ⟨_, _, rfl⟩
  | writeBuffer id data =>
    obtain ⟨r, after, run, -⟩ := writeBuffer_effect device id data
    exact ⟨.done r, after, by simp [deviceMachine, run]⟩
  | writeBufferAt id offset data =>
    obtain ⟨r, after, run, -⟩ := writeBufferAt_effect device id offset data
    exact ⟨.done r, after, by simp [deviceMachine, run]⟩
  | readBuffer id =>
    cases found : device.buffers[id]? with
    | none => exact ⟨_, device, by simp only [deviceMachine, (unknown_buffer found).readBuffer]; rfl⟩
    | some buffer => exact ⟨_, device, by simp only [deviceMachine, readBuffer_eq found (wf _ _ found).valid]; rfl⟩
  | readBufferRange id offset length =>
    cases found : device.buffers[id]? with
    | none => exact ⟨_, device, by simp only [deviceMachine, (unknown_buffer found).readBufferRange]; rfl⟩
    | some buffer =>
      by_cases word : offset + length ≤ usizeMax
      · by_cases inside : offset + length ≤ buffer.used
        · have run := readBufferRange_eq found (wf _ _ found).valid word inside
          exact ⟨_, device, by simp only [deviceMachine, run]; rfl⟩
        · have run := readBufferRange_outOfBounds found word (Nat.lt_of_not_le inside)
          exact ⟨_, device, by simp only [deviceMachine, run]; rfl⟩
      · have run := readBufferRange_overflow found (Nat.lt_of_not_le word)
        exact ⟨_, device, by simp only [deviceMachine, run]; rfl⟩

/-- A history of the device, from the empty table. -/
abbrev History (t : List (DeviceOp × DeviceResult)) (device : GpuDevice) : Prop :=
  deviceMachine.Trace GpuDevice.default t device

theorem History.wellFormed {t : List (DeviceOp × DeviceResult)} {device : GpuDevice}
    (h : History t device) : device.WellFormed :=
  h.invariant default_wellFormed fun _ _ _ _ wf step => (step_effect step).wellFormed wf

/-- Every list of operations has a history. -/
theorem run_device_returns (ops : List DeviceOp) :
    ∃ rs device, deviceMachine.run GpuDevice.default ops = .ret (rs, device) ∧ device.WellFormed := by
  apply Machine.run_returns _ default_wellFormed
  intro device op wf
  obtain ⟨r, after, step⟩ := wf.step_returns op
  exact ⟨r, after, step, (step_effect step).wellFormed wf⟩

end GpuDevice

end GpuDriverLab
