import GpuDriverLab.QueuedWork

/-!
# What `submit` decides

`documentedDecision` goes through the documented conditions in their order and
reports the first that fails. The bytes a buffer may be used for are read off
the calls: they are those of the latest successful write to it. What is read off
the driver is fixed by the calls too (`Recorded`): the state by the load and the
start, the live buffers by the allocations, what waits by the accepted requests
without the returned ones. In every reachable state `submit` returns exactly
this decision.
-/

namespace GpuDriverLab
set_option autoImplicit false
open Rust

/-- The length of the latest successful write to a buffer, `0` before the first. -/
def lastWritten (id : BufferId) (es : List DriverEvent) : Nat :=
  es.foldl (fun n e =>
    match e with
    | .wrote k data => if k = id then data.length else n
    | _ => n) 0

theorem lastWritten_snoc (id : BufferId) (es : List DriverEvent) (e : DriverEvent) :
    lastWritten id (es ++ [e]) =
      match e with
      | .wrote k data => if k = id then data.length else lastWritten id es
      | _ => lastWritten id es := by
  simp only [lastWritten, List.foldl_append, List.foldl_cons, List.foldl_nil]

/-- A buffer holds the bytes of its latest write; an id without a buffer has none. -/
def HoldsLastWrite (es : List DriverEvent) (v : DriverView) : Prop :=
  ∀ id, ((v.device.buffers[id]?).map GpuBuffer.used).getD 0 = lastWritten id es

namespace HoldsLastWrite

variable {es : List DriverEvent} {v : DriverView}

/-- **Step lemma.** The driver changes a buffer by whole writes only. -/
theorem step (h : HoldsLastWrite es v) (wf : v.device.WellFormed) {v' : DriverView} {e : Option DriverEvent}
    (effect : DriverEffect v e v') : HoldsLastWrite (es ++ e.toList) v' := by
  intro id
  cases effect with
  | idle =>
    rw [Option.toList_none, List.append_nil]
    exact h id
  | loaded | started | submitted | returned =>
    rw [Option.toList_some, lastWritten_snoc]
    exact h id
  | allocated ready effect =>
    rw [Option.toList_some, lastWritten_snoc, ← h id]
    cases effect with
    | allocated nonzero room =>
      by_cases here : (⟨v.device.nextId⟩ : BufferId) = id
      · -- a fresh id has not been written to
        rw [GpuDevice.buffers_insert, if_pos here, ← here, wf.next_fresh]
        rfl
      · rw [GpuDevice.buffers_insert, if_neg here]
  | @wrote k data device ready effect =>
    rw [Option.toList_some, lastWritten_snoc]
    dsimp only
    cases effect with
    | wrote found fits =>
      by_cases here : k = id
      · rw [if_pos here, here, GpuDevice.buffers_put_self]
        rfl
      · rw [if_neg here, GpuDevice.buffers_put_of_ne here]
        exact h id

end HoldsLastWrite

theorem DriverHistory.holdsLastWrite {es : List DriverEvent} {v : DriverView} {capacity : Nat}
    (h : DriverHistory (.fresh capacity) es v) : HoldsLastWrite es v := by
  induction h with
  | start =>
    intro id
    rw [DriverView.fresh, GpuDevice.default_buffers]
    rfl
  | next before effect ih => exact ih.step before.conserves.wf effect

/-- What the calls so far say about a driver: how far it is up, which buffers it has, what waits. -/
structure Recorded (es : List DriverEvent) (controller : DeviceController) (device : GpuDevice)
    (pending : List ValidatedSubmission) : Prop where
  ready : controller.state.kind = .ready ↔ .started ∈ es
  offline : controller.state.kind = .offline ↔ ∀ image, .loaded image ∉ es
  sound : controller.state.kind ≠ .faulted
  live : ∀ id, device.Live id ↔ ∃ capacity, .allocated id capacity ∈ es
  pending : pending.map ValidatedSubmission.request =
    (acceptedRequests es).drop (returnedSubmissions es).length

/-- The requests that were accepted and not yet returned. -/
theorem Conserves.pending {es : List DriverEvent} {v : DriverView} (h : Conserves es v) :
    v.work.items.map ValidatedSubmission.request = (acceptedRequests es).drop (returnedSubmissions es).length := by
  rw [h.accounted, List.map_append, List.drop_left' (List.length_map _)]

/-- A call makes a buffer live only by allocating it, and releases none. -/
theorem DriverEffect.live {v v' : DriverView} {e : Option DriverEvent} (effect : DriverEffect v e v') (id : BufferId) :
    v'.device.Live id ↔ v.device.Live id ∨ ∃ capacity, e = some (.allocated id capacity) := by
  cases effect with
  | idle | loaded | started | submitted | returned => simp
  | @allocated k capacity device ready effect =>
    cases effect with
    | allocated nonzero room =>
      unfold GpuDevice.Live
      rw [GpuDevice.buffers_insert]
      by_cases here : (⟨v.device.nextId⟩ : BufferId) = id
      · rw [if_pos here]
        exact iff_of_true ⟨_, rfl⟩ (Or.inr ⟨capacity, by rw [here]⟩)
      · rw [if_neg here]
        simp [here]
  | @wrote k data device ready effect =>
    cases effect with
    | wrote found fits =>
      simp only [Option.some.injEq, reduceCtorEq, exists_false, or_false]
      unfold GpuDevice.Live
      rw [GpuDevice.buffers_put]
      by_cases here : k = id
      · rw [if_pos here, ← here]
        exact iff_of_true ⟨_, rfl⟩ ⟨_, found⟩
      · rw [if_neg here]

/-- A load leaves the offline state, a start the loaded one, and no other call moves the state. -/
theorem DriverEffect.lifecycle {v v' : DriverView} {e : Option DriverEvent} (effect : DriverEffect v e v') :
    (∃ image, e = some (.loaded image) ∧ v.controller.state.kind = .offline ∧
        v'.controller.state.kind = .firmwareLoaded) ∨
    (e = some .started ∧ v.controller.state.kind = .firmwareLoaded ∧ v'.controller.state.kind = .ready) ∨
    ((∀ image, .loaded image ∉ e.toList) ∧ .started ∉ e.toList ∧ v'.controller = v.controller) := by
  cases effect with
  | loaded offline => exact Or.inl ⟨_, rfl, by rw [offline]; rfl, rfl⟩
  | started loaded => exact Or.inr (Or.inl ⟨rfl, by rw [loaded]; rfl, rfl⟩)
  | idle | allocated | wrote | submitted | returned => exact Or.inr (Or.inr ⟨by simp, by simp, rfl⟩)

/-- **Run lemma.** -/
theorem DriverHistory.recorded {es : List DriverEvent} {v : DriverView} {capacity : Nat}
    (h : DriverHistory (.fresh capacity) es v) : Recorded es v.controller v.device v.work.items := by
  induction h with
  | start =>
    refine ⟨iff_of_false nofun nofun, iff_of_true rfl fun _ => List.not_mem_nil, nofun, ?_, rfl⟩
    intro id
    refine iff_of_false ?_ fun ⟨_, none_⟩ => List.not_mem_nil none_
    exact GpuDevice.not_live_iff.mpr (GpuDevice.default_buffers id)
  | @next es v v' e before effect ih =>
    have live : ∀ id, v'.device.Live id ↔ ∃ capacity, .allocated id capacity ∈ es ++ e.toList := by
      intro id
      rw [effect.live id, ih.live id]
      simp [exists_or]
    obtain ⟨ready, offline, sound, -, -⟩ := ih
    obtain ⟨image, rfl, left, moved⟩ | ⟨rfl, left, moved⟩ | ⟨unloaded, unstarted, same⟩ := effect.lifecycle
    · -- a driver that is offline has not been started
      have never : DriverEvent.started ∉ es := ready.not.mp (by rw [left]; nofun)
      refine ⟨?_, ?_, by rw [moved]; nofun, live, (before.next effect).conserves.pending⟩
      · rw [moved]
        simpa using never
      · rw [moved]
        exact iff_of_false nofun fun unloaded => unloaded image (by simp)
    · have loaded := offline.not.mp (by rw [left]; nofun)
      refine ⟨?_, ?_, by rw [moved]; nofun, live, (before.next effect).conserves.pending⟩
      · rw [moved]
        simp
      · rw [moved]
        simpa using loaded
    · refine ⟨?_, ?_, by rw [same]; exact sound, live, (before.next effect).conserves.pending⟩
      · rw [same, ready, List.mem_append]
        exact ⟨Or.inl, fun h => h.resolve_right unstarted⟩
      · rw [same, offline]
        simp [unloaded]

/-- The first documented check that a raw command fails. -/
def commandDefect (command : RawCommand) : Option CommandError :=
  if command.id = 0 then some .zeroCommandId
  else if command.offset % 4 ≠ 0 then some (.misalignedOffset command.offset 4)
  else if command.length = 0 then some .zeroLength
  else if usizeMax < command.offset + command.length then some (.rangeOverflow command.offset command.length)
  else if 3 < command.priority then some (.invalidPriority command.priority 0 3)
  else none

section Defects

variable {offset length : Nat}

theorem new_misaligned (misaligned : offset % 4 ≠ 0) :
    CommandRange.new offset length = .error (.misalignedOffset offset 4) := dif_pos misaligned

theorem new_empty (aligned : ¬ offset % 4 ≠ 0) (empty : length = 0) :
    CommandRange.new offset length = .error .zeroLength := (dif_neg aligned).trans (dif_pos empty)

theorem new_overflow (aligned : ¬ offset % 4 ≠ 0) (nonempty : ¬ length = 0)
    (overflow : usizeMax < offset + length) :
    CommandRange.new offset length = .error (.rangeOverflow offset length) := by
  refine (dif_neg aligned).trans ((dif_neg nonempty).trans ?_)
  split
  · rfl
  · rename_i sum
    exact absurd (checkedAdd_eq_some.mp sum).2 (Nat.not_le.mpr overflow)

theorem new_range (aligned : ¬ offset % 4 ≠ 0) (nonempty : ¬ length = 0) (fits : ¬ usizeMax < offset + length) :
    CommandRange.new offset length = .ok ⟨offset, length, not_not.mp aligned, nonempty, Nat.not_lt.mp fits⟩ :=
  CommandRange.new_eq_ok.mpr ⟨rfl, rfl⟩

end Defects

/-- Validation reports that check, or succeeds when there is none. -/
theorem tryFrom_decides (command : RawCommand) :
    match ValidatedCommand.tryFrom command with
    | .error e => commandDefect command = some e
    | .ok _ => commandDefect command = none := by
  obtain ⟨id, offset, length, priority⟩ := command
  unfold ValidatedCommand.tryFrom commandDefect
  dsimp only
  by_cases zero : id = 0
  · have refused : CommandId.new id = .error .zeroCommandId := dif_pos zero
    rw [refused, if_pos zero]
    rfl
  obtain ⟨commandId, accepted⟩ : ∃ x, CommandId.new id = .ok x := ⟨_, dif_neg zero⟩
  rw [accepted, if_neg zero]
  by_cases misaligned : offset % 4 ≠ 0
  · rw [new_misaligned misaligned, if_pos misaligned]
    rfl
  rw [if_neg misaligned]
  by_cases empty : length = 0
  · rw [new_empty misaligned empty, if_pos empty]
    rfl
  rw [if_neg empty]
  by_cases overflow : usizeMax < offset + length
  · rw [new_overflow misaligned empty overflow, if_pos overflow]
    rfl
  rw [new_range misaligned empty overflow, if_neg overflow]
  by_cases beyond : 3 < priority
  · have refused : Priority.tryFrom priority = .error (.invalidPriority priority 0 3) :=
      dif_neg (fun inside => absurd inside.2 (UInt8.not_le.mpr beyond))
    rw [refused, if_pos beyond]
    rfl
  · have within : Priority.tryFrom priority = .ok ⟨priority, UInt8.zero_le, UInt8.not_lt.mp beyond⟩ :=
      dif_pos _
    rw [within, if_neg beyond]
    rfl

theorem commandDefect_eq_none {command : RawCommand} : commandDefect command = none ↔
    command.id ≠ 0 ∧ command.offset % 4 = 0 ∧ 0 < command.length ∧
      command.offset + command.length ≤ usizeMax ∧ command.priority ≤ 3 := by
  unfold commandDefect
  split_ifs <;> simp_all [Nat.pos_iff_ne_zero]

/-- The first documented check that a request fails against the buffers; `written` is the
number of bytes that the buffer's latest write left initialized. -/
def requestDefect (device : GpuDevice) (written : Nat) (request : SubmissionRequest) : Option SubmissionError :=
  match commandDefect request.command with
  | some defect => some (.command defect)
  | none =>
    if request.bufferId ∉ device.buffers then some (.buffer (.unknownBuffer request.bufferId))
    else if written < request.command.offset + request.command.length then
      some (.rangeExceedsInitialized (request.command.offset + request.command.length) written)
    else none

theorem requestDefect_eq_none {device : GpuDevice} {written : Nat} {request : SubmissionRequest} :
    requestDefect device written request = none ↔ commandDefect request.command = none ∧
      device.Live request.bufferId ∧ request.command.offset + request.command.length ≤ written := by
  unfold requestDefect
  rw [GpuDevice.live_iff_mem]
  cases commandDefect request.command with
  | some defect => simp
  | none =>
    dsimp only
    split_ifs <;> simp_all

/-- Validation reports that check, or accepts the request as it is. -/
theorem validateSubmission_decides {device : GpuDevice} {written : Nat} {request : SubmissionRequest}
    (holds : ∀ buffer, device.buffers[request.bufferId]? = some buffer → buffer.used = written) :
    ∃ checked, validateSubmission device request = .ret checked ∧
      match checked with
      | .error e => requestDefect device written request = some e
      | .ok submission => requestDefect device written request = none ∧ submission.request = request := by
  have checked := tryFrom_decides request.command
  unfold requestDefect validateSubmission
  cases sound : ValidatedCommand.tryFrom request.command with
  | error defect =>
    rw [sound] at checked
    rw [checked]
    exact ⟨_, rfl, rfl⟩
  | ok cmd =>
    rw [sound] at checked
    rw [checked]
    dsimp only
    by_cases gone : request.bufferId ∉ device.buffers
    · have unknown : BufferInfo.initializedLen device request.bufferId = .error (.unknownBuffer request.bufferId) :=
        (GpuDevice.unknown_buffer (GpuDevice.not_live_iff.mp (GpuDevice.live_iff_mem.not.mpr gone))).initializedLen
      rw [unknown, if_pos gone]
      exact ⟨_, rfl, rfl⟩
    · obtain ⟨buffer, found⟩ := GpuDevice.live_iff_mem.mpr (not_not.mp gone)
      have len : BufferInfo.initializedLen device request.bufferId = .ok written := by
        rw [← holds buffer found]
        exact GpuDevice.initializedLen_eq found
      have raw := ValidatedCommand.tryFrom_eq_ok.mp sound
      have end_ : cmd.range.end_ = .ret (request.command.offset + request.command.length) := by
        rw [CommandRange.end_eq, ← raw]
        rfl
      rw [len, if_neg gone]
      simp only [end_, Exec.bind_def, Exec.ret_bind, Exec.pure_def]
      by_cases beyond : written < request.command.offset + request.command.length
      · rw [if_pos beyond, if_pos beyond]
        exact ⟨_, rfl, rfl⟩
      · rw [if_neg beyond, if_neg beyond]
        exact ⟨_, rfl, rfl, by rw [ValidatedSubmission.request, raw]⟩

namespace SimulatedGpuDriver

/-- The documented decision on a submission: the first condition that fails, or acceptance. -/
def documentedDecision (driver : SimulatedGpuDriver) (capacity written : Nat) (bufferId : BufferId)
    (command : RawCommand) : Except DriverApiError Unit :=
  if driver.state.kind ≠ .ready then .error (.state (.invalidState "ensure_ready" driver.state.kind))
  else
    match requestDefect driver.device written { bufferId, command } with
    | some defect => .error (.submission defect)
    | none =>
      match driver.queue.pending.find? (fun queued => queued.commandId.get == command.id) with
      | some queued => .error (.queue (.duplicateCommandId queued.commandId))
      | none =>
        if driver.queue.pending.length < capacity then .ok () else .error (.queue (.queueFull capacity))

/-- The ten conditions of an accepted submission. -/
structure Acceptable (driver : SimulatedGpuDriver) (capacity written : Nat) (bufferId : BufferId)
    (command : RawCommand) : Prop where
  ready : driver.controller.IsReady
  id : command.id ≠ 0
  aligned : command.offset % 4 = 0
  nonempty : 0 < command.length
  fits : command.offset + command.length ≤ usizeMax
  priority : command.priority ≤ 3
  live : driver.device.Live bufferId
  initialized : command.offset + command.length ≤ written
  fresh : ∀ queued ∈ driver.queue.pending, queued.commandId.get ≠ command.id
  room : driver.queue.pending.length < capacity

variable {driver : SimulatedGpuDriver} {capacity written : Nat} {bufferId : BufferId} {command : RawCommand}

/-- No condition fails exactly when all ten hold. -/
theorem documentedDecision_eq_ok : driver.documentedDecision capacity written bufferId command = .ok () ↔
    driver.Acceptable capacity written bufferId command := by
  constructor
  · intro h
    unfold documentedDecision at h
    split at h
    · cases h
    rename_i ready
    split at h
    · cases h
    rename_i sound
    obtain ⟨defectless, live, inside⟩ := requestDefect_eq_none.mp sound
    obtain ⟨id, aligned, nonempty, fits, priority⟩ := commandDefect_eq_none.mp defectless
    split at h
    · cases h
    rename_i fresh
    split at h
    · rename_i room
      refine ⟨not_not.mp ready, id, aligned, nonempty, fits, priority, live, inside, ?_, room⟩
      intro queued member
      have other := List.find?_eq_none.mp fresh queued member
      simpa using other
    · cases h
  · intro h
    have ready : ¬ driver.state.kind ≠ .ready := not_not.mpr h.ready
    have sound : requestDefect driver.device written { bufferId, command } = none :=
      requestDefect_eq_none.mpr ⟨commandDefect_eq_none.mpr ⟨h.id, h.aligned, h.nonempty, h.fits, h.priority⟩,
        h.live, h.initialized⟩
    have fresh : driver.queue.pending.find? (fun queued => queued.commandId.get == command.id) = none := by
      rw [List.find?_eq_none]
      intro queued member
      simpa using h.fresh queued member
    unfold documentedDecision
    rw [if_neg ready, sound]
    dsimp only
    rw [fresh]
    exact if_pos h.room

theorem ensureReady_refused (busy : driver.state.kind ≠ .ready) :
    driver.controller.ensureReady = .error (.invalidState "ensure_ready" driver.state.kind) := by
  unfold state at busy ⊢
  unfold DeviceController.ensureReady
  cases at_ : driver.controller.state with
  | offline => rfl
  | firmwareLoaded info => rfl
  | ready info =>
    rw [at_] at busy
    exact (busy rfl).elim
  | faulted => rfl

/-- What the queue says to a submission, in terms of what is pending. -/
theorem enqueue_decides {v : DriverView} (shows_ : driver.Shows v) (submission : ValidatedSubmission) :
    (driver.queue.enqueue submission).1 =
      match driver.queue.pending.find? (fun queued => queued.commandId.get == submission.commandId.get) with
      | some queued => .error (.duplicateCommandId queued.commandId)
      | none => if driver.queue.pending.length < v.work.capacity then .ok () else .error (.queueFull v.work.capacity) := by
  have rep : driver.queue.Represents v.work := shows_.queue
  rw [(rep.enqueue submission).1, rep.pending]
  cases found : v.work.items.find? (fun queued => queued.commandId.get == submission.commandId.get) with
  | some queued =>
    have same : queued.commandId = submission.commandId := by
      have equal := List.find?_some found
      rwa [beq_iff_eq, CommandId.get_injective] at equal
    have taken : submission.commandId ∈ v.work.items.map ValidatedSubmission.commandId := by
      rw [← same]
      exact List.mem_map_of_mem (List.mem_of_find?_eq_some found)
    rw [KeyedFifo.enqueue_taken taken, ← same]
    rfl
  | none =>
    have fresh : submission.commandId ∉ v.work.items.map ValidatedSubmission.commandId := by
      rw [List.mem_map]
      rintro ⟨queued, member, same⟩
      have other := List.find?_eq_none.mp found queued member
      rw [same] at other
      exact other BEq.rfl
    have bounded := v.work.bounded
    dsimp only
    by_cases full : v.work.items.length = v.work.capacity
    · rw [KeyedFifo.enqueue_full fresh full, if_neg (by omega)]
      rfl
    · rw [(KeyedFifo.enqueue_accepted fresh full).1, if_pos (by omega)]
      rfl

/-- **The decision.** In a driver whose queue is represented, and whose buffer holds what was
last written to it, `submit` returns the documented decision. -/
theorem Shows.submit_decides {v : DriverView} (shows_ : driver.Shows v) (bound : v.work.capacity = capacity)
    (holds : ∀ buffer, driver.device.buffers[bufferId]? = some buffer → buffer.used = written) :
    ∃ after, driver.submit bufferId command =
      .ret (driver.documentedDecision capacity written bufferId command, after) := by
  unfold documentedDecision
  by_cases busy : driver.state.kind ≠ .ready
  · rw [if_pos busy]
    exact ⟨driver, by simp only [submit, ensureReady_refused busy]⟩
  obtain ⟨info, ready⟩ := DeviceController.isReady_iff.mp (not_not.mp busy)
  rw [if_neg busy]
  obtain ⟨checked, valid, decided⟩ : ∃ checked, validateSubmission driver.device { bufferId, command } = .ret checked ∧
      match checked with
      | .error e => requestDefect driver.device written { bufferId, command } = some e
      | .ok submission => requestDefect driver.device written { bufferId, command } = none ∧
        submission.request = { bufferId, command } := validateSubmission_decides holds
  cases checked with
  | error e =>
    rw [decided]
    exact ⟨driver, by simp only [submit, ready, valid, Exec.bind_def, Exec.ret_bind, Exec.pure_def]⟩
  | ok submission =>
    obtain ⟨sound, same⟩ := decided
    have id : submission.commandId.get = command.id := congrArg (fun request => request.command.id) same
    have queued := enqueue_decides shows_ submission
    rw [id, bound] at queued
    rw [sound]
    dsimp only
    refine ⟨{ driver with queue := (driver.queue.enqueue submission).2 }, ?_⟩
    simp only [submit, ready, valid, queued, Exec.bind_def, Exec.ret_bind, Exec.pure_def]
    refine congrArg Exec.ret (Prod.ext ?_ rfl)
    dsimp only
    split
    · rfl
    · split <;> rfl

/-- What a submission meets with after a history of calls. What the decision reads off
the driver is what the history says. -/
structure SubmitDecides (capacity : Nat) (t : List (DriverOp × DriverResult DriverApiError))
    (driver : SimulatedGpuDriver) (bufferId : BufferId) (command : RawCommand) : Prop where
  recorded : Recorded (driverEvents t) driver.controller driver.device driver.queue.pending
  decision : ∃ after, driver.submit bufferId command = .ret
    (driver.documentedDecision capacity (lastWritten bufferId (driverEvents t)) bufferId command, after)
  accepts : (∃ after, driver.submit bufferId command = .ret (.ok (), after)) ↔
    driver.Acceptable capacity (lastWritten bufferId (driverEvents t)) bufferId command

/-- **`submit` decides as documented**, in every reachable state. -/
theorem submit_decides_as_documented (c : Nat) (positive : 0 < c) :
    ∃ driver, SimulatedGpuDriver.new c = .ok driver ∧
      ∀ ops, ∃ rs driver', simulatedMachine.run driver ops = .ret (rs, driver') ∧
        ∀ bufferId command, SubmitDecides c (ops.zip rs) driver' bufferId command := by
  obtain ⟨driver, new, shows_⟩ := new_shows positive
  refine ⟨driver, new, ?_⟩
  intro ops
  obtain ⟨rs, driver', v, run, shown, history⟩ := shows_.run ops
  refine ⟨rs, driver', run, ?_⟩
  intro bufferId command
  have device : driver'.device = v.device := shown.device
  have holds : ∀ buffer, driver'.device.buffers[bufferId]? = some buffer →
      buffer.used = lastWritten bufferId (driverEvents (ops.zip rs)) := by
    intro buffer found
    rw [← history.holdsLastWrite bufferId, ← device, found]
    rfl
  have capacity : v.work.capacity = c := history.capacity
  obtain ⟨after, decided⟩ : ∃ after, driver'.submit bufferId command = .ret
      (driver'.documentedDecision c (lastWritten bufferId (driverEvents (ops.zip rs))) bufferId command, after) :=
    shown.submit_decides capacity holds
  have recorded := history.recorded
  rw [← shown.controller, ← shown.device, ← shown.pending] at recorded
  refine ⟨recorded, ⟨after, decided⟩, ?_⟩
  rw [← documentedDecision_eq_ok, decided]
  constructor
  · rintro ⟨after', same⟩
    exact (Prod.mk.inj (Exec.ret.inj same)).1
  · intro accepted
    exact ⟨after, by rw [accepted]⟩

theorem submit_decides_as_documented_one : 0 < 1 ∧ ∃ driver, SimulatedGpuDriver.new 1 = .ok driver ∧
    ∀ ops, ∃ rs driver', simulatedMachine.run driver ops = .ret (rs, driver') ∧
      ∀ bufferId command, SubmitDecides 1 (ops.zip rs) driver' bufferId command :=
  ⟨by decide, submit_decides_as_documented 1 (by decide)⟩

end SimulatedGpuDriver

end GpuDriverLab
