import GpuDriverLab.Backpressure
import GpuDriverLab.Machine.Observation
import GpuDriverLab.StackSpec

/-!
# What a client can tell of a driver

The abstract driver is no more than what shows: over bounded queues of equal
capacity, two drivers that some calls led to answer all further calls alike
exactly when they keep the same account. The backends may differ, and so may
the pasts; stored bytes, the layout of a ring and the table of ids never show.
-/

namespace GpuDriverLab
set_option autoImplicit false
open Rust

/-- Sizes, offsets and the lengths of slices are `usize` values. -/
def GenericOp.FitsWord : GenericOp → Prop
  | .common (.loadFirmware image) => image.length ≤ usizeMax
  | .common (.allocateBuffer capacity) => capacity ≤ usizeMax
  | .common (.writeBuffer _ data) => data.length ≤ usizeMax
  | .common (.submit _ command) => command.offset ≤ usizeMax ∧ command.length ≤ usizeMax
  | _ => True

/-- The abstract driver over the abstract queue, under the calls of a driver. -/
def accountMachine : Machine (DriverSpec SubmissionFifo) GenericOp
    (DriverResult (GenericGpuDriver.Error SubmissionFifo)) where
  step s op := (specMachine SubmissionFifo).step s op.spec

/-- One result under two error types, whatever the queue refused for. -/
abbrev SameButRefusals {E₁ E₂ : Type} : DriverResult (GenericDriverError E₁) → DriverResult (GenericDriverError E₂) → Prop :=
  SameDriverResult (SameGenericError fun _ _ => True)

theorem Phase.state_injective : Function.Injective Phase.state := by
  intro a b same
  cases a <;> cases b <;> cases same <;> rfl

namespace DriverSpec

/-- What holds of an account that calls led to. -/
structure Sound (capacity : Nat) (s : DriverSpec SubmissionFifo) : Prop where
  unready : (∀ info, s.phase ≠ .ready info) → s.extents = []
  words : ∀ extent ∈ s.extents, extent.capacity ≤ usizeMax
  capacity : s.queue.capacity = capacity

variable {capacity : Nat} {s s' : DriverSpec SubmissionFifo}

theorem ensureReady_cases (s : DriverSpec SubmissionFifo) :
    (∃ info, s.phase = .ready info ∧ s.ensureReady = .ok info) ∨
      (∀ info, s.phase ≠ .ready info) ∧ ∃ e, s.ensureReady = .error e := by
  unfold ensureReady
  cases s.phase with
  | ready info => exact Or.inl ⟨info, rfl, rfl⟩
  | offline | loaded => exact Or.inr ⟨nofun, _, rfl⟩

theorem new_sound (f : SubmissionFifo) : (new f).Sound f.capacity :=
  ⟨fun _ => rfl, by simp [new], rfl⟩

/-- Another queue of the same capacity. -/
theorem Sound.requeue (sound : s.Sound capacity) {queue : SubmissionFifo} (same : queue.capacity = capacity) :
    { s with queue }.Sound capacity := ⟨sound.unready, sound.words, same⟩

theorem Sound.load (sound : s.Sound capacity) (verdict : Except StateError FirmwareInfo) :
    (s.load verdict).2.Sound capacity := by
  unfold DriverSpec.load
  cases phase : s.phase with
  | offline =>
    have none_ : s.extents = [] := sound.unready (by rw [phase]; exact nofun)
    cases verdict with
    | error e => exact sound
    | ok info => exact ⟨fun _ => none_, sound.words, sound.capacity⟩
  | loaded info | ready info => exact sound

theorem Sound.start (sound : s.Sound capacity) : s.start.2.Sound capacity := by
  unfold DriverSpec.start
  cases s.phase with
  | loaded info => exact ⟨fun unready => (unready info rfl).elim, sound.words, sound.capacity⟩
  | offline | ready info => exact sound

theorem Sound.allocate (sound : s.Sound capacity) {info : FirmwareInfo} (ready : s.phase = .ready info) {n : Nat}
    (word : n ≤ usizeMax) : (s.allocate n).2.Sound capacity := by
  unfold DriverSpec.allocate
  split_ifs
  · exact sound
  · refine ⟨fun unready => (unready info ready).elim, ?_, sound.capacity⟩
    intro extent member
    obtain old | new := List.mem_append.mp member
    · exact sound.words extent old
    · rw [List.mem_singleton.mp new]
      exact word
  · exact sound

theorem Sound.write (sound : s.Sound capacity) {info : FirmwareInfo} (ready : s.phase = .ready info) (id : BufferId)
    (length : Nat) : (s.write id length).2.Sound capacity := by
  unfold DriverSpec.write
  cases found : s.extent id with
  | none => exact sound
  | some extent =>
    dsimp only
    split_ifs
    · refine ⟨fun unready => (unready info ready).elim, ?_, sound.capacity⟩
      intro extent' member
      obtain old | rfl := List.mem_or_eq_of_mem_set member
      · exact sound.words extent' old
      · exact sound.words extent (List.mem_of_getElem? found)
    · exact sound

/-- **Step lemma.** -/
theorem Sound.step (sound : s.Sound capacity) {op : GenericOp} (word : op.FitsWord)
    {r : DriverResult (GenericGpuDriver.Error SubmissionFifo)} (step : accountMachine.step s op = .ret (r, s')) :
    s'.Sound capacity := by
  cases op with
  | common op =>
    cases op with
    | loadFirmware image =>
      cases step
      exact sound.load _
    | start =>
      cases step
      exact sound.start
    | allocateBuffer n =>
      simp only [accountMachine, specMachine, GenericOp.spec] at step
      obtain ⟨info, ready, ensured⟩ | ⟨-, e, refused⟩ := s.ensureReady_cases
      · rw [ensured] at step
        cases step
        exact sound.allocate ready word
      · rw [refused] at step
        cases step
        exact sound
    | writeBuffer id data =>
      simp only [accountMachine, specMachine, GenericOp.spec] at step
      obtain ⟨info, ready, ensured⟩ | ⟨-, e, refused⟩ := s.ensureReady_cases
      · rw [ensured] at step
        cases step
        exact sound.write ready id data.length
      · rw [refused] at step
        cases step
        exact sound
    | submit bufferId command =>
      simp only [accountMachine, specMachine, GenericOp.spec] at step
      obtain ⟨info, -, ensured⟩ | ⟨-, e, refused⟩ := s.ensureReady_cases
      · obtain ⟨checked, check⟩ : (validateSubmission s { bufferId, command }).Returns := validateSubmission_returns
        rw [ensured, check] at step
        cases checked with
        | error e =>
          cases step
          exact sound
        | ok submission =>
          cases step
          apply sound.requeue
          obtain ⟨why, refused⟩ | ⟨queue, accepted, same, -⟩ := s.queue.enqueue_cases submission
          · exact (congrArg (fun p => p.2.capacity) refused).trans sound.capacity
          · exact ((congrArg (fun p => p.2.capacity) accepted).trans same).trans sound.capacity
      · rw [refused] at step
        cases step
        exact sound
    | nextSubmission =>
      cases step
      exact sound.requeue (s.queue.dequeue_items.2.1.trans sound.capacity)
    | queuedLen | isQueueFull | state =>
      cases step
      exact sound
  | peekSubmission | isQueueEmpty =>
    cases step
    exact sound

end DriverSpec

/-- Accounts that no calls tell apart. -/
abbrev AccountsAlike (s s' : DriverSpec SubmissionFifo) : Prop :=
  Machine.AnswersAlike GenericOp.FitsWord accountMachine accountMachine SameButRefusals s s'

section Results

theorem SameDriverResult.flip {E₁ E₂ : Type} {E : E₁ → E₂ → Prop} {r₁ : DriverResult E₁} {r₂ : DriverResult E₂}
    (same : SameDriverResult E r₁ r₂) : SameDriverResult (fun e₂ e₁ => E e₁ e₂) r₂ r₁ := by
  cases same with
  | done outcome =>
    cases outcome with
    | ok a => exact .done (.ok a)
    | error related => exact .done (.error related)
  | allocated outcome =>
    cases outcome with
    | ok a => exact .allocated (.ok a)
    | error related => exact .allocated (.error related)
  | submission r => exact .submission r
  | len n => exact .len n
  | flag b => exact .flag b
  | state s => exact .state s

/-- Results that correspond through a third, with errors that do. -/
theorem SameDriverResult.through {E₁ E₂ E₃ : Type} {E : E₁ → E₂ → Prop} {F : E₂ → E₃ → Prop} {G : E₁ → E₃ → Prop}
    {r₁ : DriverResult (GenericDriverError E₁)} {r₂ : DriverResult (GenericDriverError E₂)}
    {r₃ : DriverResult (GenericDriverError E₃)} (errors : ∀ e₁ e₂ e₃, E e₁ e₂ → F e₂ e₃ → G e₁ e₃)
    (left : SameDriverResult (SameGenericError E) r₁ r₂) (right : SameDriverResult (SameGenericError F) r₂ r₃) :
    SameDriverResult (SameGenericError G) r₁ r₃ := by
  apply (left.comp right).mono
  rintro e₁ e₃ ⟨e₂, first, second⟩
  cases first with
  | state e =>
    cases second
    exact .state e
  | buffer e =>
    cases second
    exact .buffer e
  | submission e =>
    cases second
    exact .submission e
  | queue related =>
    cases second with
    | queue related' => exact .queue (errors _ _ _ related related')

variable {E₁ E₂ : Type}

theorem SameGenericError.flip {E : E₁ → E₂ → Prop} {e₁ : GenericDriverError E₁} {e₂ : GenericDriverError E₂}
    (same : SameGenericError E e₁ e₂) : SameGenericError (fun e₂ e₁ => E e₁ e₂) e₂ e₁ := by
  cases same with
  | state e => exact .state e
  | buffer e => exact .buffer e
  | submission e => exact .submission e
  | queue related => exact .queue related

theorem SameButRefusals.state_eq {a b : DeviceState}
    (same : SameButRefusals (.state a : DriverResult (GenericDriverError E₁)) (.state b : DriverResult (GenericDriverError E₂))) :
    a = b := by
  cases same
  rfl

theorem SameButRefusals.submission_eq {a b : Option ValidatedSubmission}
    (same : SameButRefusals (.submission a : DriverResult (GenericDriverError E₁))
      (.submission b : DriverResult (GenericDriverError E₂))) : a = b := by
  cases same
  rfl

theorem SameButRefusals.done_ok {r₁ : Except (GenericDriverError E₁) Unit} {r₂ : Except (GenericDriverError E₂) Unit}
    (same : SameButRefusals (.done r₁) (.done r₂)) : r₁ = .ok () ↔ r₂ = .ok () := by
  cases same with
  | done outcome => cases outcome <;> simp

/-- The request did not pass validation. -/
def Invalid {E : Type} (r : DriverResult (GenericDriverError E)) : Prop := ∃ e, r = .done (.error (.submission e))

theorem SameButRefusals.invalid {r₁ : DriverResult (GenericDriverError E₁)} {r₂ : DriverResult (GenericDriverError E₂)}
    (same : SameButRefusals r₁ r₂) : Invalid r₁ ↔ Invalid r₂ := by
  unfold Invalid
  cases same with
  | done outcome =>
    cases outcome with
    | ok a => simp
    | error related => cases related <;> simp
  | allocated | submission | len | flag | state => simp

end Results

namespace DriverSpec

variable {capacity : Nat} {s s' : DriverSpec SubmissionFifo} {info info' : FirmwareInfo}

theorem phase_eq (alike : AccountsAlike s s') : s.phase = s'.phase := by
  have shown := alike.step (show GenericOp.FitsWord (.common .state) from trivial)
  exact Phase.state_injective (SameButRefusals.state_eq shown.1)

/-- What waits comes out. -/
theorem items_eq (alike : AccountsAlike s s') : s.queue.items = s'.queue.items := by
  have next : ∀ {a a' : DriverSpec SubmissionFifo}, AccountsAlike a a' → a.queue.items.head? = a'.queue.items.head? ∧
      AccountsAlike { a with queue := a.queue.dequeue.2 } { a' with queue := a'.queue.dequeue.2 } := by
    intro a a' same
    obtain ⟨taken, later⟩ := same.step (show GenericOp.FitsWord (.common .nextSubmission) from trivial)
    rw [← a.queue.dequeue_items.1, ← a'.queue.dequeue_items.1]
    exact ⟨SameButRefusals.submission_eq taken, later⟩
  generalize waiting : s.queue.items = items
  induction items generalizing s s' with
  | nil =>
    have first := (next alike).1
    rw [waiting] at first
    exact (List.head?_eq_none_iff.mp first.symm).symm
  | cons item items ih =>
    obtain ⟨first, later⟩ := next alike
    have rest := ih later (by rw [s.queue.dequeue_items.2.2, waiting]; rfl)
    rw [waiting] at first
    rw [rest]
    show item :: s'.queue.dequeue.2.items = _
    rw [s'.queue.dequeue_items.2.2]
    exact List.cons_head?_tail first.symm

/-- A write of `n` bytes fits. -/
theorem write_ok (s : DriverSpec SubmissionFifo) (id : BufferId) (n : Nat) :
    (s.write id n).1 = .ok () ↔ ∃ extent, s.extent id = some extent ∧ n ≤ extent.capacity := by
  unfold DriverSpec.write
  cases s.extent id with
  | none => simp
  | some extent =>
    dsimp only
    split_ifs with fits
    · simp [fits]
    · simp [fits]

/-- Writes show which buffers there are, and how large. -/
theorem room_iff (alike : AccountsAlike s s') (ready : s.phase = .ready info) (ready' : s'.phase = .ready info')
    (id : BufferId) {n : Nat} (word : n ≤ usizeMax) : (∃ extent, s.extent id = some extent ∧ n ≤ extent.capacity) ↔
      ∃ extent, s'.extent id = some extent ∧ n ≤ extent.capacity := by
  have told : ∀ {a : DriverSpec SubmissionFifo} {i : FirmwareInfo}, a.phase = .ready i →
      ∃ after, accountMachine.step a (.common (.writeBuffer id (List.replicate n 0))) =
        .ret (.done ((a.write id n).1.mapError .buffer), after) := by
    intro a i here
    simp only [accountMachine, specMachine, GenericOp.spec, DriverSpec.ensureReady, here, List.length_replicate]
    exact ⟨_, rfl⟩
  obtain ⟨after, step⟩ := told ready
  obtain ⟨after', step'⟩ := told ready'
  have fits : GenericOp.FitsWord (.common (.writeBuffer id (List.replicate n 0))) := by
    show (List.replicate n (0 : UInt8)).length ≤ usizeMax
    rw [List.length_replicate]
    exact word
  have same := alike.step fits
  rw [step, step'] at same
  have ok := SameButRefusals.done_ok same.1
  rw [← s.write_ok, ← s'.write_ok]
  cases h : (s.write id n).1 <;> cases h' : (s'.write id n).1 <;> simp [h, h', Except.mapError] at ok ⊢

theorem one_nonzero : (1 : UInt64) ≠ 0 := by decide

theorem zero_valid : Priority.min ≤ 0 ∧ 0 ≤ Priority.max := by decide

theorem zero_aligned : 0 % CommandRange.alignment = 0 := rfl

theorem prefix_fits {length : Nat} (word : length ≤ usizeMax) : 0 + length ≤ usizeMax := by
  rwa [Nat.zero_add]

/-- The first `length` bytes of a buffer. -/
def prefixOf (id : BufferId) (length : Nat) (nonempty : length ≠ 0) (word : length ≤ usizeMax) : ValidatedSubmission where
  bufferId := id
  command :=
    { id := ⟨1, one_nonzero⟩
      range := { offset := 0, length, aligned := zero_aligned, nonempty, fits := prefix_fits word }
      priority := ⟨0, zero_valid⟩ }

/-- A submission is invalid exactly if it reaches beyond the initialized bytes. -/
theorem submit_invalid (ready : s.phase = .ready info) (submission : ValidatedSubmission) : ∃ r after,
    accountMachine.step s (.common (.submit submission.bufferId submission.command.toRaw)) = .ret (r, after) ∧
      (¬ Invalid r ↔ ∃ extent, s.extent submission.bufferId = some extent ∧ submission.rangeEnd ≤ extent.initialized) := by
  have known : ∀ n, BufferInfo.initializedLen s submission.bufferId = .ok n ↔
      ∃ extent, s.extent submission.bufferId = some extent ∧ extent.initialized = n := by
    intro n
    simp only [BufferInfo.initializedLen]
    cases s.extent submission.bufferId <;> simp
  obtain ⟨checked, check⟩ : (validateSubmission s submission.request).Returns := validateSubmission_returns
  have whole : submission.request = { bufferId := submission.bufferId, command := submission.command.toRaw } := rfl
  rw [whole] at check
  simp only [accountMachine, specMachine, GenericOp.spec, DriverSpec.ensureReady, ready, check, Exec.ret_bind]
  cases checked with
  | error e =>
    refine ⟨_, _, rfl, iff_of_false (not_not.mpr ⟨e, rfl⟩) ?_⟩
    rintro ⟨extent, found, inside⟩
    have valid : validateSubmission s submission.request = .ret (.ok submission) :=
      validateSubmission_eq_ok.mpr ⟨rfl, _, (known _).mpr ⟨extent, found, rfl⟩, inside⟩
    rw [whole, check] at valid
    cases valid
  | ok accepted =>
    obtain ⟨same, n, reported, inside⟩ := validateSubmission_eq_ok.mp check
    obtain ⟨extent, found, rfl⟩ := (known n).mp reported
    have range : accepted.rangeEnd = submission.rangeEnd :=
      congrArg (fun request : SubmissionRequest => request.command.offset + request.command.length) same
    refine ⟨.done ((s.queue.enqueue accepted).1.mapError .queue), _, rfl, iff_of_true ?_ ⟨extent, found, range ▸ inside⟩⟩
    rintro ⟨e, failed⟩
    cases result : (s.queue.enqueue accepted).1 <;> rw [result] at failed <;> cases failed

/-- Submissions show how much is initialized. -/
theorem initialized_iff (alike : AccountsAlike s s') (ready : s.phase = .ready info) (ready' : s'.phase = .ready info')
    (submission : ValidatedSubmission) :
    (∃ extent, s.extent submission.bufferId = some extent ∧ submission.rangeEnd ≤ extent.initialized) ↔
      ∃ extent, s'.extent submission.bufferId = some extent ∧ submission.rangeEnd ≤ extent.initialized := by
  obtain ⟨r, after, step, told⟩ := submit_invalid ready submission
  obtain ⟨r', after', step', told'⟩ := submit_invalid ready' submission
  have range := submission.command.range.fits
  have fits : GenericOp.FitsWord (.common (.submit submission.bufferId submission.command.toRaw)) :=
    ⟨Nat.le_trans (Nat.le_add_right _ _) range, Nat.le_trans (Nat.le_add_left _ _) range⟩
  have same := alike.step fits
  rw [step, step'] at same
  rw [← told, ← told', SameButRefusals.invalid same.1]

/-- Calls that reach the buffers bound one account by the other. -/
theorem extent_le (alike : AccountsAlike s s') (ready : s.phase = .ready info) (ready' : s'.phase = .ready info')
    (sound : s.Sound capacity) {id : BufferId} {extent : Extent} (found : s.extent id = some extent) :
    ∃ extent', s'.extent id = some extent' ∧ extent.capacity ≤ extent'.capacity ∧
      extent.initialized ≤ extent'.initialized := by
  have bound : extent.capacity ≤ usizeMax := sound.words extent (List.mem_of_getElem? found)
  obtain ⟨extent', found', room⟩ := (room_iff alike ready ready' id bound).mp ⟨extent, found, Nat.le_refl _⟩
  refine ⟨extent', found', room, ?_⟩
  by_cases nonempty : extent.initialized = 0
  · rw [nonempty]
    exact Nat.zero_le _
  · have word : extent.initialized ≤ usizeMax := Nat.le_trans extent.fits bound
    have all : (prefixOf id extent.initialized nonempty word).rangeEnd = extent.initialized := Nat.zero_add _
    obtain ⟨same, again, inside⟩ := (initialized_iff alike ready ready' (prefixOf id extent.initialized nonempty word)).mp
      ⟨extent, found, all.le⟩
    have one : some same = some extent' := again.symm.trans found'
    cases one
    exact all.symm.le.trans inside

theorem extent_eq (alike : AccountsAlike s s') (ready : s.phase = .ready info) (ready' : s'.phase = .ready info')
    (sound : s.Sound capacity) (sound' : s'.Sound capacity) (id : BufferId) : s.extent id = s'.extent id := by
  have back : AccountsAlike s' s := alike.flip.mono fun _ _ same => same.flip.mono fun _ _ error => error.flip
  cases found : s.extent id with
  | none =>
    cases found' : s'.extent id with
    | none => rfl
    | some extent' =>
      obtain ⟨extent, again, -⟩ := extent_le back ready' ready sound' found'
      rw [found] at again
      cases again
  | some extent =>
    obtain ⟨extent', found', capacity, initialized⟩ := extent_le alike ready ready' sound found
    obtain ⟨same, again, capacity', initialized'⟩ := extent_le back ready' ready sound' found'
    rw [found] at again
    cases again
    rw [found']
    cases extent
    cases extent'
    cases Nat.le_antisymm capacity capacity'
    cases Nat.le_antisymm initialized initialized'
    rfl

/-- **The account shows.** -/
theorem eq_of_alike (alike : AccountsAlike s s') (sound : s.Sound capacity) (sound' : s'.Sound capacity) : s = s' := by
  have phase := phase_eq alike
  have queue : s.queue = s'.queue := KeyedFifo.ext (sound.capacity.trans sound'.capacity.symm) (items_eq alike)
  have extents : s.extents = s'.extents := by
    obtain ⟨info, ready, -⟩ | ⟨unready, -⟩ := s.ensureReady_cases
    · apply List.ext_getElem?
      intro i
      by_cases issued : i < UInt32.size
      · have extent := extent_eq alike ready (phase ▸ ready) sound sound' ⟨.ofNat i⟩
        unfold DriverSpec.extent at extent
        rwa [UInt32.toNat_ofNat_of_lt' issued] at extent
      · have short := s.issuable
        have short' := s'.issuable
        rw [List.getElem?_eq_none (by omega), List.getElem?_eq_none (by omega)]
    · rw [sound.unready unready, sound'.unready (by rwa [phase] at unready)]
  cases s
  cases s'
  cases phase
  cases queue
  cases extents
  rfl

end DriverSpec

namespace GenericGpuDriver

section OneDriver

variable {Q : Type} [SubmissionQueue Q] {backend : FifoBackend Q} {driver : GenericGpuDriver Q}
  {s : DriverSpec SubmissionFifo} {capacity : Nat}

/-- The account of a driver over a backend. -/
structure Keeps (backend : FifoBackend Q) (driver : GenericGpuDriver Q) (s : DriverSpec SubmissionFifo) : Prop where
  phase : driver.controller.state = s.phase.state
  table : driver.device.AccountedBy s
  queue : backend.Rep driver.queue s.queue

/-- **Step lemma.** -/
theorem Keeps.step (keeps : Keeps backend driver s) (op : GenericOp) : ((genericMachine Q).step driver op).Rel
    (fun p q => SameDriverResult (SameGenericError backend.Names) p.1 q.1 ∧ Keeps backend p.2 q.2)
    (accountMachine.step s op) := by
  -- the same driver over the abstract queue is between the two
  let middle : GenericGpuDriver SubmissionFifo :=
    { controller := driver.controller, device := driver.device, queue := s.queue }
  have refines : middle.Refines s := ⟨keeps.phase, keeps.table, rfl⟩
  have down := backend.refines.driver_step driver middle op ⟨rfl, rfl, keeps.queue⟩
  apply (down.comp (refines.step op)).mono
  rintro ⟨r, after⟩ ⟨r'', last⟩ ⟨⟨r', between⟩, ⟨same, drivers⟩, rfl, account⟩
  refine ⟨same, ?_, ?_, ?_⟩
  · rw [drivers.controller]
    exact account.phase
  · rw [drivers.device]
    exact account.table
  · rw [← account.queue]
    exact drivers.queue

theorem Keeps.answers (keeps : Keeps backend driver s) (P : GenericOp → Prop) :
    Machine.AnswersAlike P (genericMachine Q) accountMachine (SameDriverResult (SameGenericError backend.Names)) driver s :=
  .of_step (fun _ _ op here => Keeps.step here op) keeps

/-- **Run lemma.** -/
theorem Keeps.run (keeps : Keeps backend driver s) (sound : s.Sound capacity) (ops : List GenericOp)
    (words : ∀ op ∈ ops, op.FitsWord) : ∃ rs after s', (genericMachine Q).run driver ops = .ret (rs, after) ∧
      Keeps backend after s' ∧ s'.Sound capacity := by
  induction ops generalizing driver s with
  | nil => exact ⟨[], driver, s, rfl, keeps, sound⟩
  | cons op ops ih =>
    obtain ⟨r', middle', specified⟩ := s.step_returns op.spec
    have alike := keeps.step op
    rw [show accountMachine.step s op = .ret (r', middle') from specified] at alike
    obtain ⟨⟨r, middle⟩, step, -, kept⟩ := alike.ret_right
    have sound' : middle'.Sound capacity := sound.step (words op (List.mem_cons_self ..)) specified
    obtain ⟨rs, after, s', run, last, sound''⟩ := ih kept sound' fun later member => words later (List.mem_cons_of_mem _ member)
    exact ⟨r :: rs, after, s', by rw [Machine.run, step, Exec.ret_bind, run]; rfl, last, sound''⟩

/-- The account that the run of the abstract driver ends with. -/
theorem Keeps.run_account (keeps : Keeps backend driver s) {ops : List GenericOp} {rs : List (DriverResult (Error Q))}
    {rs' : List (DriverResult (GenericGpuDriver.Error SubmissionFifo))} {after : GenericGpuDriver Q}
    {s' : DriverSpec SubmissionFifo} (run : (genericMachine Q).run driver ops = .ret (rs, after))
    (account : accountMachine.run s ops = .ret (rs', s')) : Keeps backend after s' := by
  have alike := Machine.run_rel (S := Keeps backend) (fun _ _ op here => Keeps.step here op) keeps ops
  rw [run, account] at alike
  exact alike.2

end OneDriver

section TwoDrivers

variable {Q₁ Q₂ : Type} [SubmissionQueue Q₁] [SubmissionQueue Q₂] {b₁ : FifoBackend Q₁} {b₂ : FifoBackend Q₂}
  {d₁ : GenericGpuDriver Q₁} {d₂ : GenericGpuDriver Q₂}

/-- The drivers differ in stored bytes and in how their queues are laid out, at most. -/
structure SameAccount (b₁ : FifoBackend Q₁) (b₂ : FifoBackend Q₂) (d₁ : GenericGpuDriver Q₁) (d₂ : GenericGpuDriver Q₂) :
    Prop where
  controller : d₁.controller = d₂.controller
  nextId : d₁.device.nextId = d₂.device.nextId
  buffers : ∀ id : BufferId, Option.Rel (fun a b : GpuBuffer => a.capacity = b.capacity ∧ a.used = b.used)
    d₁.device.buffers[id]? d₂.device.buffers[id]?
  queue : ∃ f, b₁.Rep d₁.queue f ∧ b₂.Rep d₂.queue f

/-- The two backends' names for one refusal. -/
def SameRefusal (b₁ : FifoBackend Q₁) (b₂ : FifoBackend Q₂) (e₁ : SubmissionQueue.Error Q₁)
    (e₂ : SubmissionQueue.Error Q₂) : Prop := ∃ why, b₁.Names e₁ why ∧ b₂.Names e₂ why

/-- No calls that satisfy `P` tell the drivers apart. -/
def Indistinguishable (P : GenericOp → Prop) (b₁ : FifoBackend Q₁) (b₂ : FifoBackend Q₂) (d₁ : GenericGpuDriver Q₁)
    (d₂ : GenericGpuDriver Q₂) : Prop :=
  Machine.AnswersAlike P (genericMachine Q₁) (genericMachine Q₂)
    (SameDriverResult (SameGenericError (SameRefusal b₁ b₂))) d₁ d₂

theorem Keeps.sameAccount {s : DriverSpec SubmissionFifo} (left : Keeps b₁ d₁ s) (right : Keeps b₂ d₂ s) :
    SameAccount b₁ b₂ d₁ d₂ where
  controller := DeviceController.eq_of_state (left.phase.trans right.phase.symm)
  nextId := UInt32.toNat_inj.mp (left.table.issued.trans right.table.issued.symm)
  buffers := by
    intro id
    have one := left.table.extents id
    have other := right.table.extents id
    generalize d₁.device.buffers[id]? = found₁ at one ⊢
    generalize d₂.device.buffers[id]? = found₂ at other ⊢
    generalize s.extent id = known at one other
    cases one with
    | none =>
      cases other
      exact .none
    | some has =>
      cases other with
      | some has' => exact .some ⟨has.1.trans has'.1.symm, has.2.trans has'.2.symm⟩
  queue := ⟨s.queue, left.queue, right.queue⟩

/-- A driver of the same account keeps what the other keeps. -/
theorem SameAccount.keeps (same : SameAccount b₁ b₂ d₁ d₂) {s : DriverSpec SubmissionFifo} (left : Keeps b₁ d₁ s) :
    ∃ s', Keeps b₁ d₁ s' ∧ Keeps b₂ d₂ s' := by
  obtain ⟨f, rep₁, rep₂⟩ := same.queue
  refine ⟨{ s with queue := f }, ⟨left.phase, ⟨left.table.issued, left.table.extents⟩, rep₁⟩, ?_, ⟨?_, ?_⟩, rep₂⟩
  · rw [← same.controller]
    exact left.phase
  · rw [← same.nextId]
    exact left.table.issued
  · intro id
    have one := left.table.extents id
    have both := same.buffers id
    show Option.Rel HasExtent d₂.device.buffers[id]? (s.extent id)
    generalize d₁.device.buffers[id]? = found₁ at one both
    generalize d₂.device.buffers[id]? = found₂ at both ⊢
    generalize s.extent id = known at one ⊢
    cases both with
    | none =>
      cases one
      exact .none
    | some alike =>
      cases one with
      | some has => exact .some ⟨alike.1.symm.trans has.1, alike.2.symm.trans has.2⟩

/-- Drivers of one account answer whatever calls alike. -/
theorem SameAccount.indistinguishable (same : SameAccount b₁ b₂ d₁ d₂) {s : DriverSpec SubmissionFifo}
    (keeps : Keeps b₁ d₁ s) (P : GenericOp → Prop) : Indistinguishable P b₁ b₂ d₁ d₂ := by
  obtain ⟨s', left, right⟩ := same.keeps keeps
  apply ((left.answers P).trans (right.answers P).flip).mono
  rintro r r' ⟨known, first, second⟩
  exact first.through (fun _ why _ named named' => ⟨why, named, named'⟩) (second.flip.mono fun _ _ error => error.flip)

/-- **Full abstraction.** Over queues of equal capacity, what some calls led to answers all further
calls alike exactly if it is the same account. -/
theorem account_is_what_shows (b₁ : FifoBackend Q₁) (b₂ : FifoBackend Q₂) {queue₁ : Q₁} {queue₂ : Q₂}
    {f₁ f₂ : SubmissionFifo} (rep₁ : b₁.Rep queue₁ f₁) (rep₂ : b₂.Rep queue₂ f₂) (same : f₁.capacity = f₂.capacity)
    (ops₁ ops₂ : List GenericOp) (words₁ : ∀ op ∈ ops₁, op.FitsWord) (words₂ : ∀ op ∈ ops₂, op.FitsWord) :
    ∃ rs₁ d₁ rs₂ d₂, (genericMachine Q₁).run (.new queue₁) ops₁ = .ret (rs₁, d₁) ∧
      (genericMachine Q₂).run (.new queue₂) ops₂ = .ret (rs₂, d₂) ∧
      (Indistinguishable GenericOp.FitsWord b₁ b₂ d₁ d₂ ↔ SameAccount b₁ b₂ d₁ d₂) ∧
      (Indistinguishable (fun _ => True) b₁ b₂ d₁ d₂ ↔ SameAccount b₁ b₂ d₁ d₂) := by
  have new₁ : Keeps b₁ (new queue₁) (.new f₁) := ⟨rfl, (new_refines f₁).table, rep₁⟩
  have new₂ : Keeps b₂ (new queue₂) (.new f₂) := ⟨rfl, (new_refines f₂).table, rep₂⟩
  obtain ⟨rs₁, d₁, s₁, run₁, keeps₁, sound₁⟩ := new₁.run (DriverSpec.new_sound f₁) ops₁ words₁
  obtain ⟨rs₂, d₂, s₂, run₂, keeps₂, sound₂⟩ := new₂.run (DriverSpec.new_sound f₂) ops₂ words₂
  have account : Indistinguishable GenericOp.FitsWord b₁ b₂ d₁ d₂ → SameAccount b₁ b₂ d₁ d₂ := by
    intro alike
    have accounts : AccountsAlike s₁ s₂ := by
      apply ((keeps₁.answers _).flip.trans (alike.trans (keeps₂.answers _))).mono
      rintro r r'' ⟨r₁, first, r₂, second, third⟩
      have left := first.flip.mono fun _ _ error => error.flip
      exact left.through (fun _ _ _ _ _ => trivial) (second.through (F := b₂.Names) (fun _ _ _ _ _ => trivial) third)
    rw [DriverSpec.eq_of_alike accounts sound₁ (same ▸ sound₂)] at keeps₁
    exact keeps₁.sameAccount keeps₂
  refine ⟨rs₁, d₁, rs₂, d₂, run₁, run₂, ?_, ?_⟩
  · exact ⟨account, fun shared => shared.indistinguishable keeps₁ _⟩
  · exact ⟨fun alike => account (alike.restrict fun _ _ => trivial), fun shared => shared.indistinguishable keeps₁ _⟩

/-- Other bytes in the buffer, and a submission that came and went before the two that wait. -/
def twoSubmittedLater : List GenericOp :=
  oneWritten (List.replicate 8 9) ++
    [.common (.submit ⟨0⟩ { id := 3, offset := 0, length := 8, priority := 1 }), .common .nextSubmission,
      .common (.submit firstHalf.bufferId firstHalf.command), .common (.submit secondHalf.bufferId secondHalf.command)]

/-- Two drivers that differ in their bytes and in where their queues stand, and in nothing that shows. -/
theorem account_is_what_shows_two : ∃ queue₁, CommandQueue.new 2 = .ok queue₁ ∧
    ∃ queue₂, StaticCommandQueue.new 2 = .ok queue₂ ∧
    ∃ rs₁ d₁ rs₂ d₂, (genericMachine CommandQueue).run (.new queue₁) twoSubmitted = .ret (rs₁, d₁) ∧
      (genericMachine (StaticCommandQueue 2)).run (.new queue₂) twoSubmittedLater = .ret (rs₂, d₂) ∧
      d₁.device.readBuffer ⟨0⟩ = .ret (.ok [1, 2, 3, 4, 5, 6, 7, 8]) ∧
      d₂.device.readBuffer ⟨0⟩ = .ret (.ok (List.replicate 8 9)) ∧ d₂.queue.head = 1 ∧
      Indistinguishable (fun _ => True) CommandQueue.backend (StaticCommandQueue.backend (by decide)) d₁ d₂ := by
  obtain ⟨queue₁, new₁, rep₁⟩ := CommandQueue.new_represents (show 2 ≠ 0 by decide)
  obtain ⟨queue₂, new₂, rep₂⟩ := StaticCommandQueue.new_represents (show 2 ≠ 0 by decide)
  obtain ⟨rs₁, d₁, rs₂, d₂, run₁, run₂, -, shows_⟩ := account_is_what_shows CommandQueue.backend
    (StaticCommandQueue.backend (by decide)) rep₁ rep₂ rfl twoSubmitted twoSubmittedLater
    (by simp [twoSubmitted, oneWritten, firstHalf, secondHalf, GenericOp.FitsWord, usizeMax, DeviceController.magic])
    (by simp [twoSubmittedLater, oneWritten, firstHalf, secondHalf, GenericOp.FitsWord, usizeMax, DeviceController.magic])
  refine ⟨queue₁, new₁, queue₂, new₂, rs₁, d₁, rs₂, d₂, run₁, run₂, ?_⟩
  -- both keep the account that the abstract driver ends with
  have keeps₁ : Keeps CommandQueue.backend (new queue₁) (.new (.empty _ 2)) := ⟨rfl, (new_refines _).table, rep₁⟩
  have keeps₂ : Keeps (StaticCommandQueue.backend (by decide)) (new queue₂) (.new (.empty _ 2)) :=
    ⟨rfl, (new_refines _).table, rep₂⟩
  have same := (keeps₁.run_account run₁ rfl).sameAccount (keeps₂.run_account run₂ rfl)
  cases new₁
  cases new₂
  cases run₁
  cases run₂
  exact ⟨rfl, rfl, rfl, shows_.mpr same⟩

end TwoDrivers

end GenericGpuDriver

end GpuDriverLab
