import GpuDriverLab.ChunkedUpload
import GpuDriverLab.Machine.Unwinding

/-!
# Clients that share a device

Clients with ids of their own share one table and one counter of ids. What a
client is told, and what becomes of its buffers, is decided by its own calls and
by everyone's allocations: all other calls can be removed from the run.
-/

namespace GpuDriverLab
set_option autoImplicit false
open Rust

/-- A call on an id of the client, or one that moves the counter. -/
def DeviceOp.concerns (own : BufferId → Bool) : DeviceOp → Bool
  | .allocateBuffer _ => true
  | .writeBuffer id _ | .writeBufferAt id _ _ | .readBuffer id | .readBufferRange id _ _ | .clearBuffer id
  | .initializedLen id | .releaseBuffer id => own id
  | .bufferCount => false

namespace GpuDevice

/-- The same counter, and the same buffers of the client. -/
structure AgreeFor (own : BufferId → Bool) (a b : GpuDevice) : Prop where
  nextId : a.nextId = b.nextId
  buffers : ∀ id, own id = true → a.buffers[id]? = b.buffers[id]?

variable {own : BufferId → Bool} {a b : GpuDevice}

theorem AgreeFor.insert (agree : AgreeFor own a b) (nextId : UInt32) (id : BufferId) (buffer : GpuBuffer) :
    AgreeFor own { nextId, buffers := a.buffers.insert id buffer } { nextId, buffers := b.buffers.insert id buffer } := by
  constructor
  · rfl
  · intro k mine
    rw [buffers_insert, buffers_insert, agree.buffers k mine]

theorem AgreeFor.put (agree : AgreeFor own a b) (id : BufferId) (buffer : GpuBuffer) :
    AgreeFor own (a.put id buffer) (b.put id buffer) := by
  constructor
  · exact agree.nextId
  · intro k mine
    rw [buffers_put, buffers_put, agree.buffers k mine]

theorem AgreeFor.erase (agree : AgreeFor own a b) (id : BufferId) :
    AgreeFor own { a with buffers := a.buffers.erase id } { b with buffers := b.buffers.erase id } := by
  constructor
  · exact agree.nextId
  · intro k mine
    rw [buffers_erase, buffers_erase, agree.buffers k mine]

/-- The calls that concern the client end alike where its part of the table is the same. -/
theorem AgreeFor.step (agree : AgreeFor own a b) {op : DeviceOp} (mine : op.concerns own = true) :
    (deviceMachine.step a op).Rel (fun p q => p.1 = q.1 ∧ AgreeFor own p.2 q.2) (deviceMachine.step b op) := by
  cases op with
  | bufferCount => cases mine
  | allocateBuffer capacity =>
    simp only [deviceMachine, allocateBuffer, agree.nextId]
    split
    · exact ⟨rfl, agree⟩
    · cases checkedAddU32 b.nextId 1 with
      | none => exact ⟨rfl, agree⟩
      | some nextId => exact ⟨rfl, agree.insert nextId _ _⟩
  | writeBuffer id data =>
    simp only [deviceMachine, writeBuffer, agree.buffers id mine]
    cases b.buffers[id]? with
    | none => exact ⟨rfl, agree⟩
    | some buffer =>
      dsimp only
      split
      · exact ⟨rfl, agree⟩
      · cases copyFromSlice buffer.storage 0 data.length data with
        | panic why => trivial
        | ret storage => exact ⟨rfl, agree.put id _⟩
  | writeBufferAt id offset data =>
    simp only [deviceMachine, writeBufferAt, agree.buffers id mine]
    cases b.buffers[id]? with
    | none => exact ⟨rfl, agree⟩
    | some buffer =>
      dsimp only
      cases checkedEnd offset data.length with
      | error e => exact ⟨rfl, agree⟩
      | ok requested =>
        dsimp only
        split
        · exact ⟨rfl, agree⟩
        · cases copyFromSlice buffer.storage offset requested data with
          | panic why => trivial
          | ret storage => exact ⟨rfl, agree.put id _⟩
  | clearBuffer id =>
    simp only [deviceMachine, clearBuffer, agree.buffers id mine]
    cases b.buffers[id]? with
    | none => exact ⟨rfl, agree⟩
    | some buffer => exact ⟨rfl, agree.put id _⟩
  | readBuffer id =>
    simp only [deviceMachine, readBuffer, agree.buffers id mine]
    cases b.buffers[id]? with
    | none => exact ⟨rfl, agree⟩
    | some buffer =>
      dsimp only
      cases buffer.data with
      | panic why => trivial
      | ret bytes => exact ⟨rfl, agree⟩
  | readBufferRange id offset length =>
    simp only [deviceMachine, readBufferRange, agree.buffers id mine]
    cases b.buffers[id]? with
    | none => exact ⟨rfl, agree⟩
    | some buffer =>
      dsimp only
      cases checkedEnd offset length with
      | error e => exact ⟨rfl, agree⟩
      | ok end_ =>
        dsimp only
        split
        · exact ⟨rfl, agree⟩
        · cases slice buffer.storage offset end_ with
          | panic why => trivial
          | ret bytes => exact ⟨rfl, agree⟩
  | initializedLen id =>
    simp only [deviceMachine, initializedLen, agree.buffers id mine]
    exact ⟨rfl, agree⟩
  | releaseBuffer id =>
    simp only [deviceMachine, releaseBuffer, agree.buffers id mine]
    cases b.buffers[id]? with
    | none => exact ⟨rfl, agree⟩
    | some buffer => exact ⟨rfl, agree.erase id⟩

/-- The event of a call that does not concern the client is about a buffer of another. -/
theorem foreign_event {op : DeviceOp} (foreign : op.concerns own = false) {r : DeviceResult} {e : DeviceEvent}
    (happened : event (op, r) = some e) : own e.buffer = false ∧ ∀ id capacity, e ≠ .allocated id capacity := by
  unfold event at happened
  split at happened
  case h_6 => cases happened
  case h_1 call =>
    cases call
    cases foreign
  all_goals
    rename_i call
    cases happened
    cases call
    exact ⟨foreign, nofun⟩

theorem AgreeFor.put_left (agree : AgreeFor own a b) {id : BufferId} (theirs : own id = false) (buffer : GpuBuffer) :
    AgreeFor own (a.put id buffer) b := by
  constructor
  · exact agree.nextId
  · intro k mine
    have apart : id ≠ k := by
      rintro rfl
      rw [theirs] at mine
      cases mine
    rw [buffers_put_of_ne apart]
    exact agree.buffers k mine

/-- The other calls return, and leave the client's part of the table. -/
theorem AgreeFor.step_foreign (agree : AgreeFor own a b) (wf : a.WellFormed) {op : DeviceOp}
    (foreign : op.concerns own = false) :
    ∃ r after, deviceMachine.step a op = .ret (r, after) ∧ AgreeFor own after b ∧ after.WellFormed := by
  obtain ⟨r, after, step⟩ := wf.step_returns op
  have effect := step_effect step
  refine ⟨r, after, step, ?_, effect.wellFormed wf⟩
  have theirs : ∀ e, event (op, r) = some e → own e.buffer = false ∧ ∀ id capacity, e ≠ .allocated id capacity :=
    fun e happened => foreign_event foreign happened
  generalize event (op, r) = e at effect theirs
  cases effect with
  | idle => exact agree
  | allocated => exact ((theirs _ rfl).2 _ _ rfl).elim
  | wrote | wroteAt | cleared => exact agree.put_left (theirs _ rfl).1 _
  | @released id buffer found =>
    constructor
    · exact agree.nextId
    · intro k mine
      have apart : id ≠ k := by
        rintro rfl
        rw [show own id = false from (theirs _ rfl).1] at mine
        cases mine
      rw [buffers_erase, if_neg apart]
      exact agree.buffers k mine

/-- **Owners do not interfere.** From any reachable table, a client's results and buffers are
those of the run in which the others only allocate. -/
theorem owners_apart (own : BufferId → Bool) (t : List (DeviceOp × DeviceResult)) (device : GpuDevice)
    (history : History t device) (ops : List DeviceOp) : ∃ rs after alone,
    deviceMachine.run device ops = .ret (rs, after) ∧
    deviceMachine.run device (ops.filter (DeviceOp.concerns own)) =
      .ret (Machine.keptResults (DeviceOp.concerns own) ops rs, alone) ∧
    AgreeFor own after alone := by
  have apart : (deviceMachine.run device ops).Rel
      (fun p q => Machine.keptResults (DeviceOp.concerns own) ops p.1 = q.1 ∧ AgreeFor own p.2 q.2 ∧ p.2.WellFormed)
      (deviceMachine.run device (ops.filter (DeviceOp.concerns own))) := by
    refine Machine.run_purge (S := fun a b => AgreeFor own a b ∧ a.WellFormed) ?_ ?_
      ⟨⟨rfl, fun _ _ => rfl⟩, history.wellFormed⟩ ops
    · rintro a b op mine ⟨agree, wf⟩
      obtain ⟨r, after, step⟩ := wf.step_returns op
      have alike := agree.step mine
      rw [step] at alike ⊢
      obtain ⟨⟨r', after'⟩, step', same, agree'⟩ := alike.ret_left
      rw [step']
      exact ⟨same, agree', (step_effect step).wellFormed wf⟩
    · rintro a b op foreign ⟨agree, wf⟩
      exact agree.step_foreign wf foreign
  have total : ∀ (device : GpuDevice) (op : DeviceOp), device.WellFormed →
      ∃ r after, deviceMachine.step device op = .ret (r, after) ∧ after.WellFormed := by
    intro device op wf
    obtain ⟨r, after, step⟩ := wf.step_returns op
    exact ⟨r, after, step, (step_effect step).wellFormed wf⟩
  obtain ⟨rs, after, run, -⟩ := Machine.run_returns total history.wellFormed ops
  rw [run] at apart
  obtain ⟨⟨_, alone⟩, part, rfl, agree, -⟩ := apart.ret_left
  exact ⟨rs, after, alone, run, part, agree⟩

theorem owners_apart_even :
    History [] .default ∧ ∀ ops, ∃ rs after alone,
      deviceMachine.run .default ops = .ret (rs, after) ∧
      deviceMachine.run .default (ops.filter (DeviceOp.concerns fun id => id.raw % 2 == 0)) =
        .ret (Machine.keptResults (DeviceOp.concerns fun id => id.raw % 2 == 0) ops rs, alone) ∧
      AgreeFor (fun id => id.raw % 2 == 0) after alone :=
  ⟨.nil, owners_apart (fun id => id.raw % 2 == 0) [] .default .nil⟩

end GpuDevice

end GpuDriverLab
