import GpuDriverLab.BufferOwners
import GpuDriverLab.DriverSpec
import GpuDriverLab.Machine.Reordering

/-!
# Calls that commute

On the device, calls on different ids commute, and so do queries. On a driver,
the calls that work on buffers commute with those that work on the queue, a
producer with a consumer, and a submission with a write to another buffer. The
order of such calls does not matter: every schedule gives each call the result
it has in every other, and ends in the same state.
-/

namespace GpuDriverLab
set_option autoImplicit false
open Rust

/-- A call that only looks. -/
inductive DeviceOp.IsQuery : DeviceOp → Prop where
  | readBuffer (id : BufferId) : IsQuery (.readBuffer id)
  | readBufferRange (id : BufferId) (offset length : Nat) : IsQuery (.readBufferRange id offset length)
  | initializedLen (id : BufferId) : IsQuery (.initializedLen id)
  | bufferCount : IsQuery .bufferCount

/-- Calls whose order does not matter on any table. -/
inductive DeviceOp.Independent : DeviceOp → DeviceOp → Prop where
  | apart {op op' : DeviceOp} (id id' : BufferId) (names : op.target = some id) (names' : op'.target = some id')
      (apart : id ≠ id') : Independent op op'
  | queries {op op' : DeviceOp} (query : op.IsQuery) (query' : op'.IsQuery) : Independent op op'

theorem DeviceOp.Independent.symm {op op' : DeviceOp} (independent : op.Independent op') : op'.Independent op := by
  cases independent with
  | apart id id' names names' apart => exact .apart id' id names' names apart.symm
  | queries query query' => exact .queries query' query

/-- Only calls that name an id of the client concern it, allocations apart. -/
theorem DeviceOp.concerns_of_target {own : BufferId → Bool} {op : DeviceOp} {id : BufferId}
    (names : op.target = some id) : op.concerns own = own id := by
  cases op <;> cases names <;> rfl

namespace GpuDevice

theorem query_idle {device after : GpuDevice} {op : DeviceOp} {r : DeviceResult} (query : op.IsQuery)
    (step : deviceMachine.step device op = .ret (r, after)) : after = device := by
  cases query with
  | initializedLen | bufferCount =>
    cases step
    rfl
  | readBuffer | readBufferRange =>
    obtain ⟨result, -, step⟩ := Exec.bind_eq_ret.mp step
    cases step
    rfl

/-- A call on another id leaves the client's part of the table. -/
theorem agree_of_foreign {own : BufferId → Bool} {device after : GpuDevice} {op : DeviceOp} {r : DeviceResult}
    (wf : device.WellFormed) (foreign : op.concerns own = false)
    (step : deviceMachine.step device op = .ret (r, after)) : AgreeFor own after device := by
  have same : AgreeFor own device device := ⟨rfl, fun _ _ => rfl⟩
  obtain ⟨r', after', step', agree, -⟩ := same.step_foreign wf foreign
  rw [step] at step'
  cases step'
  exact agree

/-- The same call from tables that agree for its id. -/
theorem step_of_agree {own : BufferId → Bool} {a b after : GpuDevice} {op : DeviceOp} {r : DeviceResult}
    (agree : AgreeFor own a b) (mine : op.concerns own = true)
    (step : deviceMachine.step a op = .ret (r, after)) :
    ∃ after', deviceMachine.step b op = .ret (r, after') ∧ AgreeFor own after after' := by
  have alike := agree.step mine
  rw [step] at alike
  obtain ⟨⟨r', after'⟩, step', rfl, agree'⟩ := alike.ret_left
  exact ⟨after', step', agree'⟩

theorem AgreeFor.symm {own : BufferId → Bool} {a b : GpuDevice} (agree : AgreeFor own a b) : AgreeFor own b a :=
  ⟨agree.nextId.symm, fun id mine => (agree.buffers id mine).symm⟩

theorem commute_apart {device : GpuDevice} (wf : device.WellFormed) {op op' : DeviceOp} {id id' : BufferId}
    (names : op.target = some id) (names' : op'.target = some id') (apart : id ≠ id') :
    deviceMachine.Commute device op op' := by
  intro r a r' b first second
  have wfA := (step_effect first).wellFormed wf
  -- the client of `k` alone, and which of the two calls are foreign to it
  have foreign : ∀ k, k ≠ id → op.concerns (· == k) = false := by
    intro k other
    rw [DeviceOp.concerns_of_target names]
    exact beq_false_of_ne other.symm
  have foreign' : ∀ k, k ≠ id' → op'.concerns (· == k) = false := by
    intro k other
    rw [DeviceOp.concerns_of_target names']
    exact beq_false_of_ne other.symm
  have mine : op.concerns (· == id) = true := by
    rw [DeviceOp.concerns_of_target names]
    exact beq_self_eq_true id
  have mine' : op'.concerns (· == id') = true := by
    rw [DeviceOp.concerns_of_target names']
    exact beq_self_eq_true id'
  have untouched : ∀ k, k ≠ id → AgreeFor (· == k) a device := fun k other => agree_of_foreign wf (foreign k other) first
  obtain ⟨a', first', sameB⟩ := step_of_agree (untouched id' apart.symm) mine' second
  have untouched' : ∀ k, k ≠ id' → AgreeFor (· == k) a' device :=
    fun k other => agree_of_foreign wf (foreign' k other) first'
  have wfA' := (step_effect first').wellFormed wf
  obtain ⟨b', second', sameA⟩ := step_of_agree (untouched' id apart).symm mine first
  have keptA : ∀ k, k ≠ id' → AgreeFor (· == k) b a := fun k other => agree_of_foreign wfA (foreign' k other) second
  have keptB : ∀ k, k ≠ id → AgreeFor (· == k) b' a' := fun k other => agree_of_foreign wfA' (foreign k other) second'
  have same : b' = b := by
    apply ext_buffers
    · exact sameA.nextId.symm.trans (keptA id apart).nextId.symm
    · intro k
      have own : (k == k) = true := beq_self_eq_true k
      by_cases here : k = id
      · subst here
        exact (sameA.buffers k own).symm.trans ((keptA k apart).buffers k own).symm
      · rw [(keptB k here).buffers k own]
        by_cases there : k = id'
        · subst there
          exact (sameB.buffers k own).symm
        · rw [(keptA k there).buffers k own, (untouched k here).buffers k own, (untouched' k there).buffers k own]
  rw [same] at second'
  exact ⟨a', first', second'⟩

theorem commute_queries {device : GpuDevice} {op op' : DeviceOp} (query : op.IsQuery) (query' : op'.IsQuery) :
    deviceMachine.Commute device op op' := by
  intro r a r' b first second
  cases query_idle query first
  cases query_idle query' second
  exact ⟨_, second, first⟩

theorem commute_independent {device : GpuDevice} (wf : device.WellFormed) {op op' : DeviceOp}
    (independent : op.Independent op') : deviceMachine.Commute device op op' := by
  cases independent with
  | apart id id' names names' apart => exact commute_apart wf names names' apart
  | queries query query' => exact commute_queries query query'

theorem wellFormed_kept (device : GpuDevice) (op : DeviceOp) (r : DeviceResult) (after : GpuDevice)
    (wf : device.WellFormed) (step : deviceMachine.step device op = .ret (r, after)) : after.WellFormed :=
  (step_effect step).wellFormed wf

end GpuDevice

/-- Two writes through the device's own method. -/
theorem GpuDevice.writeBuffer_commute {device d e : GpuDevice} (wf : device.WellFormed) {id id' : BufferId}
    (apart : id ≠ id') {data data' : List UInt8} {x x' : Except DriverError Unit}
    (first : device.writeBuffer id data = .ret (x, d)) (second : d.writeBuffer id' data' = .ret (x', e)) :
    ∃ d', device.writeBuffer id' data' = .ret (x', d') ∧ d'.writeBuffer id data = .ret (x, e) := by
  have step : deviceMachine.step device (.writeBuffer id data) = .ret (.done x, d) := by
    simp only [deviceMachine, first, Exec.ret_bind]
  have step' : deviceMachine.step d (.writeBuffer id' data') = .ret (.done x', e) := by
    simp only [deviceMachine, second, Exec.ret_bind]
  obtain ⟨d', other, last⟩ := commute_apart wf rfl rfl apart _ _ _ _ step step'
  obtain ⟨p, run, back⟩ := Exec.bind_eq_ret.mp other
  obtain ⟨p', run', back'⟩ := Exec.bind_eq_ret.mp last
  cases back
  cases back'
  exact ⟨_, run, run'⟩

section Driver

/-- A call that works on the buffers only. -/
inductive GenericOp.OnBuffers : GenericOp → Prop where
  | allocateBuffer (capacity : Nat) : OnBuffers (.common (.allocateBuffer capacity))
  | writeBuffer (id : BufferId) (data : List UInt8) : OnBuffers (.common (.writeBuffer id data))

/-- A call that works on the queue only. -/
inductive GenericOp.OnQueue : GenericOp → Prop where
  | nextSubmission : OnQueue (.common .nextSubmission)
  | peekSubmission : OnQueue .peekSubmission
  | queuedLen : OnQueue (.common .queuedLen)
  | isQueueEmpty : OnQueue .isQueueEmpty
  | isQueueFull : OnQueue (.common .isQueueFull)

/-- Calls whose order does not matter on any driver. -/
inductive GenericOp.Independent : GenericOp → GenericOp → Prop where
  | produce {op op' : GenericOp} (buffers : op.OnBuffers) (queue : op'.OnQueue) : Independent op op'
  | consume {op op' : GenericOp} (queue : op.OnQueue) (buffers : op'.OnBuffers) : Independent op op'
  | writes (id id' : BufferId) (data data' : List UInt8) (apart : id ≠ id') :
      Independent (.common (.writeBuffer id data)) (.common (.writeBuffer id' data'))
  | submitted (bufferId id : BufferId) (command : RawCommand) (data : List UInt8) (apart : bufferId ≠ id) :
      Independent (.common (.submit bufferId command)) (.common (.writeBuffer id data))
  | written (bufferId id : BufferId) (command : RawCommand) (data : List UInt8) (apart : bufferId ≠ id) :
      Independent (.common (.writeBuffer id data)) (.common (.submit bufferId command))

theorem GenericOp.Independent.symm {op op' : GenericOp} (independent : op.Independent op') : op'.Independent op := by
  cases independent with
  | produce buffers queue => exact .consume queue buffers
  | consume queue buffers => exact .produce buffers queue
  | writes id id' data data' apart => exact .writes id' id data' data apart.symm
  | submitted bufferId id command data apart => exact .written bufferId id command data apart
  | written bufferId id command data apart => exact .submitted bufferId id command data apart

namespace GenericGpuDriver

variable {Q : Type} [SubmissionQueue Q] {driver a : GenericGpuDriver Q} {op op' : GenericOp}
  {r : DriverResult (Error Q)}

/-- A call on the buffers changes the device at most. -/
theorem onBuffers_keeps (buffers : op.OnBuffers) (step : (genericMachine Q).step driver op = .ret (r, a)) :
    a = { driver with device := a.device } := by
  cases buffers with
  | allocateBuffer capacity =>
    simp only [genericMachine, GenericGpuDriver.allocateBuffer] at step
    cases ready : driver.controller.ensureReady with
    | error e =>
      rw [ready] at step
      cases step
      rfl
    | ok info =>
      rw [ready] at step
      cases step
      rfl
  | writeBuffer id data =>
    obtain ⟨⟨result, after⟩, run, back⟩ := Exec.bind_eq_ret.mp step
    cases back
    unfold GenericGpuDriver.writeBuffer at run
    cases ready : driver.controller.ensureReady with
    | error e =>
      rw [ready] at run
      cases run
      rfl
    | ok info =>
      rw [ready] at run
      obtain ⟨⟨result, device⟩, -, run⟩ := Exec.bind_eq_ret.mp run
      cases run
      rfl

/-- It runs over another queue as it does over this one. -/
theorem onBuffers_frame (buffers : op.OnBuffers) (driver : GenericGpuDriver Q) (queue : Q) :
    (genericMachine Q).step { driver with queue } op =
      ((genericMachine Q).step driver op).bind fun p => .ret (p.1, { p.2 with queue }) := by
  cases buffers with
  | allocateBuffer capacity =>
    simp only [genericMachine, GenericGpuDriver.allocateBuffer]
    cases driver.controller.ensureReady <;> rfl
  | writeBuffer id data =>
    simp only [genericMachine, GenericGpuDriver.writeBuffer]
    cases driver.controller.ensureReady with
    | error e => rfl
    | ok info => cases driver.device.writeBuffer id data <;> rfl

/-- A call on the queue changes the queue at most. -/
theorem onQueue_keeps (queue : op.OnQueue) (step : (genericMachine Q).step driver op = .ret (r, a)) :
    a = { driver with queue := a.queue } := by
  cases queue with
  | nextSubmission =>
    obtain ⟨⟨taken, after⟩, run, back⟩ := Exec.bind_eq_ret.mp step
    cases back
    obtain ⟨⟨taken, queue⟩, -, run⟩ := Exec.bind_eq_ret.mp run
    cases run
    rfl
  | peekSubmission | queuedLen | isQueueEmpty | isQueueFull =>
    obtain ⟨shown, -, back⟩ := Exec.bind_eq_ret.mp step
    cases back
    rfl

/-- It runs over another device as it does over this one. -/
theorem onQueue_frame (queue : op.OnQueue) (driver : GenericGpuDriver Q) (device : GpuDevice) :
    (genericMachine Q).step { driver with device } op =
      ((genericMachine Q).step driver op).bind fun p => .ret (p.1, { p.2 with device }) := by
  cases queue with
  | nextSubmission =>
    simp only [genericMachine, GenericGpuDriver.nextSubmission, Exec.bind_def, Exec.bind_bind, Exec.ret_bind, Exec.pure_def]
  | peekSubmission => simp only [genericMachine, GenericGpuDriver.peekSubmission, Exec.bind_bind, Exec.ret_bind]
  | queuedLen => simp only [genericMachine, GenericGpuDriver.queuedLen, Exec.bind_bind, Exec.ret_bind]
  | isQueueEmpty => simp only [genericMachine, GenericGpuDriver.isQueueEmpty, Exec.bind_bind, Exec.ret_bind]
  | isQueueFull => simp only [genericMachine, GenericGpuDriver.isQueueFull, Exec.bind_bind, Exec.ret_bind]

theorem submit_keeps {bufferId : BufferId} {command : RawCommand}
    (step : (genericMachine Q).step driver (.common (.submit bufferId command)) = .ret (r, a)) :
    a = { driver with queue := a.queue } := by
  obtain ⟨⟨result, after⟩, run, back⟩ := Exec.bind_eq_ret.mp step
  cases back
  unfold GenericGpuDriver.submit at run
  cases ready : driver.controller.ensureReady with
  | error e =>
    rw [ready] at run
    cases run
    rfl
  | ok info =>
    rw [ready] at run
    obtain ⟨checked, -, run⟩ := Exec.bind_eq_ret.mp run
    cases checked with
    | error e =>
      cases run
      rfl
    | ok submission =>
      obtain ⟨⟨result, queue⟩, -, run⟩ := Exec.bind_eq_ret.mp run
      cases run
      rfl

/-- A submission runs over another device with the same verdict as it does over this one. -/
theorem submit_frame {bufferId : BufferId} {command : RawCommand} (driver : GenericGpuDriver Q) {device : GpuDevice}
    (verdict : validateSubmission device { bufferId, command } = validateSubmission driver.device { bufferId, command }) :
    (genericMachine Q).step { driver with device } (.common (.submit bufferId command)) =
      ((genericMachine Q).step driver (.common (.submit bufferId command))).bind fun p => .ret (p.1, { p.2 with device }) := by
  simp only [genericMachine, GenericGpuDriver.submit, verdict]
  cases driver.controller.ensureReady with
  | error e => rfl
  | ok info =>
    simp only [Exec.bind_def, Exec.bind_bind]
    cases validateSubmission driver.device { bufferId, command } with
    | panic why => rfl
    | ret checked =>
      cases checked with
      | error e => rfl
      | ok submission => simp only [Exec.ret_bind, Exec.bind_bind, Exec.pure_def]

/-- A call on the buffers commutes with one that changes the queue at most and does not
see what the first did. -/
theorem commute_of_frame (buffers : op.OnBuffers)
    (keeps : ∀ r b, (genericMachine Q).step driver op' = .ret (r, b) → b = { driver with queue := b.queue })
    (frame : ∀ r a, (genericMachine Q).step driver op = .ret (r, a) →
      (genericMachine Q).step { driver with device := a.device } op' =
        ((genericMachine Q).step driver op').bind fun p => .ret (p.1, { p.2 with device := a.device })) :
    (genericMachine Q).Commute driver op op' ∧ (genericMachine Q).Commute driver op' op := by
  have sides : ∀ r a r' b, (genericMachine Q).step driver op = .ret (r, a) →
      (genericMachine Q).step driver op' = .ret (r', b) →
      (genericMachine Q).step a op' = .ret (r', { driver with device := a.device, queue := b.queue }) ∧
      (genericMachine Q).step b op = .ret (r, { driver with device := a.device, queue := b.queue }) := by
    intro r a r' b first first'
    have shapeA := onBuffers_keeps buffers first
    have shapeB := keeps r' b first'
    constructor
    · rw [shapeA, frame r a first, first', Exec.ret_bind, shapeB]
    · rw [shapeB, onBuffers_frame buffers, first, Exec.ret_bind, shapeA]
  constructor
  · intro r a r' c first second
    have shapeA := onBuffers_keeps buffers first
    rw [shapeA, frame r a first] at second
    obtain ⟨⟨r', b⟩, first', back⟩ := Exec.bind_eq_ret.mp second
    cases back
    have shapeB := keeps r' b first'
    refine ⟨b, first', ?_⟩
    rw [(sides r a r' b first first').2, shapeB]
  · intro r' b r c first' second
    have shapeB := keeps r' b first'
    rw [shapeB, onBuffers_frame buffers] at second
    obtain ⟨⟨r, a⟩, first, back⟩ := Exec.bind_eq_ret.mp second
    cases back
    have shapeA := onBuffers_keeps buffers first
    refine ⟨a, first, ?_⟩
    rw [(sides r a r' b first first').1, shapeA]

theorem commute_sides (buffers : op.OnBuffers) (queue : op'.OnQueue) :
    (genericMachine Q).Commute driver op op' ∧ (genericMachine Q).Commute driver op' op :=
  commute_of_frame buffers (fun _ _ step => onQueue_keeps queue step) fun _ a _ => onQueue_frame queue driver a.device

/-- A write to another buffer does not change a verdict. -/
theorem verdict_of_write (wf : driver.device.WellFormed) {bufferId id : BufferId} (command : RawCommand)
    {data : List UInt8} (apart : bufferId ≠ id)
    (step : (genericMachine Q).step driver (.common (.writeBuffer id data)) = .ret (r, a)) :
    validateSubmission a.device { bufferId, command } = validateSubmission driver.device { bufferId, command } := by
  obtain ⟨⟨result, after⟩, run, back⟩ := Exec.bind_eq_ret.mp step
  cases back
  unfold GenericGpuDriver.writeBuffer at run
  cases ready : driver.controller.ensureReady with
  | error e =>
    rw [ready] at run
    cases run
    rfl
  | ok info =>
    rw [ready] at run
    obtain ⟨⟨result, device⟩, part, run⟩ := Exec.bind_eq_ret.mp run
    cases run
    have call : deviceMachine.step driver.device (.writeBuffer id data) = .ret (.done result, device) := by
      simp only [deviceMachine, part, Exec.ret_bind]
    have foreign : (DeviceOp.writeBuffer id data).concerns (· == bufferId) = false := beq_false_of_ne apart.symm
    have agree := GpuDevice.agree_of_foreign wf foreign call
    apply validateSubmission_congr
    show device.initializedLen bufferId = driver.device.initializedLen bufferId
    rw [GpuDevice.initializedLen, GpuDevice.initializedLen, agree.buffers bufferId (beq_self_eq_true bufferId)]

theorem commute_submit (wf : driver.device.WellFormed) {bufferId id : BufferId} (command : RawCommand)
    (data : List UInt8) (apart : bufferId ≠ id) :
    (genericMachine Q).Commute driver (.common (.writeBuffer id data)) (.common (.submit bufferId command)) ∧
    (genericMachine Q).Commute driver (.common (.submit bufferId command)) (.common (.writeBuffer id data)) :=
  commute_of_frame (.writeBuffer id data) (fun _ _ step => submit_keeps step)
    fun _ _ step => submit_frame driver (verdict_of_write wf command apart step)

theorem commute_writes (wf : driver.device.WellFormed) {id id' : BufferId} (apart : id ≠ id') (data data' : List UInt8) :
    (genericMachine Q).Commute driver (.common (.writeBuffer id data)) (.common (.writeBuffer id' data')) := by
  intro r a r' b first second
  simp only [genericMachine, GenericGpuDriver.writeBuffer] at first second ⊢
  cases ready : driver.controller.ensureReady with
  | error e =>
    rw [ready] at first
    cases first
    rw [ready] at second
    cases second
    exact ⟨driver, rfl, by rw [ready]; rfl⟩
  | ok info =>
    rw [ready] at first
    obtain ⟨⟨result, _⟩, run, back⟩ := Exec.bind_eq_ret.mp first
    cases back
    obtain ⟨⟨x, d⟩, part, run⟩ := Exec.bind_eq_ret.mp run
    cases run
    dsimp only at second
    rw [ready] at second
    obtain ⟨⟨result, _⟩, run, back⟩ := Exec.bind_eq_ret.mp second
    cases back
    obtain ⟨⟨x', e⟩, part', run⟩ := Exec.bind_eq_ret.mp run
    cases run
    obtain ⟨d', other, last⟩ := GpuDevice.writeBuffer_commute wf apart part part'
    refine ⟨{ driver with device := d' }, ?_, ?_⟩
    · simp only [other, Exec.bind_def, Exec.ret_bind, Exec.pure_def]
    · simp only [ready, last, Exec.bind_def, Exec.ret_bind, Exec.pure_def]

theorem commute_independent (wf : driver.device.WellFormed) (independent : op.Independent op') :
    (genericMachine Q).Commute driver op op' := by
  cases independent with
  | produce buffers queue => exact (commute_sides buffers queue).1
  | consume queue buffers => exact (commute_sides buffers queue).2
  | writes id id' data data' apart => exact commute_writes wf apart data data'
  | submitted bufferId id command data apart => exact (commute_submit wf command data apart).2
  | written bufferId id command data apart => exact (commute_submit wf command data apart).1

/-- Every call keeps the table well formed. -/
theorem wellFormed_kept (driver : GenericGpuDriver Q) (op : GenericOp) (r : DriverResult (Error Q))
    (after : GenericGpuDriver Q) (wf : driver.device.WellFormed)
    (step : (genericMachine Q).step driver op = .ret (r, after)) : after.device.WellFormed := by
  have onQueue : op.OnQueue → after.device.WellFormed := by
    intro queue
    rw [onQueue_keeps queue step]
    exact wf
  cases op with
  | peekSubmission => exact onQueue .peekSubmission
  | isQueueEmpty => exact onQueue .isQueueEmpty
  | common op =>
    cases op with
    | nextSubmission => exact onQueue .nextSubmission
    | queuedLen => exact onQueue .queuedLen
    | isQueueFull => exact onQueue .isQueueFull
    | submit bufferId command =>
      rw [submit_keeps step]
      exact wf
    | state | start =>
      cases step
      exact wf
    | loadFirmware image =>
      obtain ⟨⟨result, loaded⟩, run, same⟩ := Exec.bind_eq_ret.mp step
      cases same
      obtain ⟨⟨result, controller⟩, part, same⟩ := Exec.bind_eq_ret.mp run
      cases same
      exact wf
    | allocateBuffer capacity =>
      simp only [genericMachine, GenericGpuDriver.allocateBuffer] at step
      cases ready : driver.controller.ensureReady with
      | error e =>
        rw [ready] at step
        cases step
        exact wf
      | ok info =>
        rw [ready] at step
        cases step
        exact (GpuDevice.allocateBuffer_effect driver.device capacity).wellFormed wf
    | writeBuffer id data =>
      obtain ⟨⟨result, written⟩, run, same⟩ := Exec.bind_eq_ret.mp step
      cases same
      unfold GenericGpuDriver.writeBuffer at run
      cases ready : driver.controller.ensureReady with
      | error e =>
        rw [ready] at run
        cases run
        exact wf
      | ok info =>
        rw [ready] at run
        obtain ⟨⟨result, device⟩, part, run⟩ := Exec.bind_eq_ret.mp run
        cases run
        obtain ⟨result', device', part', effect⟩ := driver.device.writeBuffer_effect id data
        rw [part] at part'
        cases part'
        exact effect.wellFormed wf

end GenericGpuDriver

end Driver

/-- What the order of independent calls can change: nothing but their places. -/
structure OrderFree {State Op Result : Type} (M : Machine State Op Result) (I : Op → Op → Prop) (start : State) :
    Prop where
  reordered : ∀ ops ops' rs last, M.run start ops = .ret (rs, last) → Reordered I ops ops' →
    ∃ rs', M.run start ops' = .ret (rs', last) ∧ Reordered (fun c d => I c.1 d.1) (ops.zip rs) (ops'.zip rs')
  schedules : ∀ xs ys zs zs' rs last, (∀ a ∈ xs, ∀ b ∈ ys, I a b) → Schedule xs ys zs → Schedule xs ys zs' →
    M.run start zs = .ret (rs, last) →
    ∃ rs', M.run start zs' = .ret (rs', last) ∧ Reordered (fun c d => I c.1 d.1) (zs.zip rs) (zs'.zip rs')

/-- The device from any reachable table, and a new driver over any queue. -/
structure IndependentCallsReorder : Prop where
  device : ∀ t device, GpuDevice.History t device → OrderFree deviceMachine DeviceOp.Independent device
  driver : ∀ (Q : Type) [SubmissionQueue Q] (queue : Q),
    OrderFree (genericMachine Q) GenericOp.Independent (GenericGpuDriver.new queue)

/-- **The order of independent calls does not matter.** -/
theorem independent_calls_reorder : IndependentCallsReorder where
  device _ _ history :=
    { reordered := fun _ _ _ _ run reordered => Machine.run_reordered GpuDevice.wellFormed_kept
        (fun _ _ _ wf independent => GpuDevice.commute_independent wf independent) history.wellFormed run reordered
      schedules := fun _ _ _ _ _ _ independent first second run => Machine.run_schedule GpuDevice.wellFormed_kept
        (fun _ _ _ wf independent => GpuDevice.commute_independent wf independent) (fun _ _ independent => independent.symm)
        history.wellFormed independent first second run }
  driver _ _ _ :=
    { reordered := fun _ _ _ _ run reordered => Machine.run_reordered (J := fun driver => driver.device.WellFormed)
        GenericGpuDriver.wellFormed_kept (fun _ _ _ wf independent => GenericGpuDriver.commute_independent wf independent)
        GpuDevice.default_wellFormed run reordered
      schedules := fun _ _ _ _ _ _ independent first second run => Machine.run_schedule
        (J := fun driver => driver.device.WellFormed) GenericGpuDriver.wellFormed_kept
        (fun _ _ _ wf independent => GenericGpuDriver.commute_independent wf independent)
        (fun _ _ independent => independent.symm) GpuDevice.default_wellFormed independent first second run }

end GpuDriverLab
