import GpuDriverLab.DriverSpec
import GpuDriverLab.QueuedWork
import GpuDriverLab.TypedRun

/-!
# Every stack is the abstract driver

The abstract bounded queue is itself a queue behind the trait, without a
representation and without panics. Each backend is related to it, so each
driver stack comes down to one machine: the abstract driver over the abstract
queue. What a stack answers depends on nothing else.
-/

namespace GpuDriverLab
set_option autoImplicit false
open Rust

/-- The abstract queue behind the trait. -/
instance : SubmissionQueue SubmissionFifo where
  Error := Refusal CommandId
  enqueue f submission := .ret (f.enqueue submission)
  dequeue f := .ret f.dequeue
  peek f := .ret f.peek
  len f := .ret f.items.length
  isEmpty f := .ret f.items.isEmpty
  isFull f := .ret (f.items.length == f.capacity)

namespace FifoBackend

variable {Q : Type} [SubmissionQueue Q]

/-- The backend's name for a refusal. -/
def Names (backend : FifoBackend Q) (e : SubmissionQueue.Error Q) (why : Refusal CommandId) : Prop :=
  e = backend.refused why

/-- A backend and the queue it represents. -/
theorem refines (backend : FifoBackend Q) :
    QueueBisimulation Q SubmissionFifo backend.Rep backend.Names where
  enqueue q f submission rep := by
    obtain ⟨q', run, after⟩ := backend.enqueue q f rep submission
    rw [run]
    refine ⟨?_, after⟩
    cases (f.enqueue submission).1 with
    | ok a => exact .ok a
    | error why => exact .error rfl
  dequeue q f rep := by
    obtain ⟨q', run, after⟩ := backend.dequeue q f rep
    rw [run]
    exact ⟨rfl, after⟩
  peek q f rep := by rw [backend.peek q f rep]; rfl
  len q f rep := by rw [backend.len q f rep]; rfl
  isEmpty q f rep := by rw [backend.isEmpty q f rep]; rfl
  isFull q f rep := by rw [backend.isFull q f rep]; rfl

/-- The driver over a backend answers as the abstract driver over the queue it represents. -/
theorem run_spec (backend : FifoBackend Q) {queue : Q} {f : SubmissionFifo} (rep : backend.Rep queue f)
    (ops : List GenericOp) : ((genericMachine Q).run (.new queue) ops).Rel
      (fun p q => List.Forall₂ (SameDriverResult (SameGenericError backend.Names)) p.1 q.1)
      ((specMachine SubmissionFifo).run (.new f) (ops.map GenericOp.spec)) := by
  have drivers : QueueBisimulation.Drivers backend.Rep (GenericGpuDriver.new queue) (.new f) := ⟨rfl, rfl, rep⟩
  have down := Machine.run_rel backend.refines.driver_step drivers ops
  have spec := (GenericGpuDriver.new_refines f).run ops
  apply (down.comp spec).mono
  rintro ⟨rs, after⟩ ⟨rs', after'⟩ ⟨⟨middle, _⟩, ⟨alike, -⟩, rfl, -⟩
  exact alike

end FifoBackend

/-- The abstract driver never panics: its queue does not. -/
theorem DriverSpec.step_returns (s : DriverSpec SubmissionFifo) (op : SpecOp) :
    ∃ r s', (specMachine SubmissionFifo).step s op = .ret (r, s') := by
  cases op with
  | loadFirmware | start | nextSubmission | peekSubmission | queuedLen | isQueueEmpty | isQueueFull | state =>
    exact ⟨_, _, rfl⟩
  | allocateBuffer | writeBuffer =>
    simp only [specMachine]
    cases s.ensureReady <;> exact ⟨_, _, rfl⟩
  | submit bufferId command =>
    simp only [specMachine]
    cases s.ensureReady with
    | error e => exact ⟨_, _, rfl⟩
    | ok info =>
      obtain ⟨checked, check⟩ : (validateSubmission s { bufferId, command }).Returns := validateSubmission_returns
      rw [check]
      cases checked <;> exact ⟨_, _, rfl⟩

theorem DriverSpec.run_returns (s : DriverSpec SubmissionFifo) (ops : List SpecOp) :
    ∃ rs s', (specMachine SubmissionFifo).run s ops = .ret (rs, s') := by
  have total : ∀ (a : DriverSpec SubmissionFifo) (op : SpecOp), True →
      ∃ r b, (specMachine SubmissionFifo).step a op = .ret (r, b) ∧ True := by
    intro a op _
    obtain ⟨r, b, step⟩ := a.step_returns op
    exact ⟨r, b, step, trivial⟩
  obtain ⟨rs, s', run, -⟩ := Machine.run_returns total trivial ops
  exact ⟨rs, s', run⟩

/-- Results that pass through a third error type. -/
theorem SameOutcome.comp {E₁ E₂ E₃ α : Type} {E : E₁ → E₂ → Prop} {F : E₂ → E₃ → Prop} {r₁ : Except E₁ α}
    {r₂ : Except E₂ α} {r₃ : Except E₃ α} (left : SameOutcome E r₁ r₂) (right : SameOutcome F r₂ r₃) :
    SameOutcome (fun e₁ e₃ => ∃ e₂, E e₁ e₂ ∧ F e₂ e₃) r₁ r₃ := by
  cases left with
  | ok a =>
    cases right
    exact .ok a
  | error first =>
    cases right with
    | error second => exact .error ⟨_, first, second⟩

theorem SameDriverResult.comp {E₁ E₂ E₃ : Type} {E : E₁ → E₂ → Prop} {F : E₂ → E₃ → Prop} {r₁ : DriverResult E₁}
    {r₂ : DriverResult E₂} {r₃ : DriverResult E₃} (left : SameDriverResult E r₁ r₂) (right : SameDriverResult F r₂ r₃) :
    SameDriverResult (fun e₁ e₃ => ∃ e₂, E e₁ e₂ ∧ F e₂ e₃) r₁ r₃ := by
  cases left with
  | done same =>
    cases right with
    | done same' => exact .done (same.comp same')
  | allocated same =>
    cases right with
    | allocated same' => exact .allocated (same.comp same')
  | submission r =>
    cases right
    exact .submission r
  | len n =>
    cases right
    exact .len n
  | flag b =>
    cases right
    exact .flag b
  | state s =>
    cases right
    exact .state s

section AnyQueue

variable {Q : Type} [SubmissionQueue Q]

/-- What a client of the generic driver sees, directly or through the typed wrapper and its sessions. -/
structure MeetsSpec (queue : Q) : Prop where
  generic : ∀ ops, ((genericMachine Q).run (.new queue) ops).Rel (fun p q => p.1 = q.1 ∧ p.2.Refines q.2)
    ((specMachine Q).run (.new queue) (ops.map GenericOp.spec))
  /-- The calls so far, and any next one that the types admit, whether it returns or panics. -/
  typed : ∀ t h, TypedGenericTrace (.driver .offline (.new queue)) t h →
    ∃ s, (specMachine Q).run (.new queue) (t.map fun call => call.1.spec) = .ret (t.map Prod.snd, s) ∧
      h.inner.Refines s ∧
      ∀ op x, h.call op = some x →
        x.Rel (fun p q => p.1 = q.1 ∧ p.2.inner.Refines q.2) ((specMachine Q).step s op.spec)

/-- A typed call ends as the abstract driver's call does. -/
theorem GenericHandle.call_refines {h : GenericHandle Q} {s : DriverSpec Q} (refines : h.inner.Refines s)
    {op : GenericOp} {x : Exec (DriverResult (GenericGpuDriver.Error Q) × GenericHandle Q)}
    (call : h.call op = some x) :
    x.Rel (fun p q => p.1 = q.1 ∧ p.2.inner.Refines q.2) ((specMachine Q).step s op.spec) := by
  apply ((h.call_agrees op x call).comp (refines.step op)).mono
  rintro ⟨r, h'⟩ ⟨r', s'⟩ ⟨⟨_, _⟩, ⟨rfl, rfl⟩, same, after⟩
  exact ⟨same, after⟩

/-- **The driver over any queue is the abstract driver over it.** The queue may refuse, lose or
invent work, or panic, and its queries may answer anything; only, a query does not change it. -/
theorem generic_driver_meets_spec (queue : Q) : MeetsSpec queue where
  generic := (GenericGpuDriver.new_refines queue).run
  typed := by
    intro t h trace
    have run : (genericMachine Q).run (.new queue) (t.map Prod.fst) = .ret (t.map Prod.snd, h.inner) :=
      Machine.run_eq_ret.mpr ⟨t, trace.inner, rfl, rfl⟩
    have alike := (GenericGpuDriver.new_refines queue).run (t.map Prod.fst)
    rw [run, List.map_map] at alike
    obtain ⟨⟨rs, s⟩, spec, rfl, refines⟩ := alike.ret_left
    exact ⟨s, spec, refines, fun _ _ call => GenericHandle.call_refines refines call⟩

end AnyQueue

/-- The simulated driver's name for an error of the abstract one. -/
inductive SimulatedNames : DriverApiError → GenericDriverError (Refusal CommandId) → Prop where
  | state (e : StateError) : SimulatedNames (.state e) (.state e)
  | buffer (e : DriverError) : SimulatedNames (.buffer e) (.buffer e)
  | submission (e : SubmissionError) : SimulatedNames (.submission e) (.submission e)
  | queue (why : Refusal CommandId) : SimulatedNames (.queue (CommandQueue.refused why)) (.queue why)

theorem simulatedNames_of_generic {e₁ : DriverApiError} {e₃ : GenericDriverError (Refusal CommandId)}
    (through : ∃ e₂, SameApiError e₁ e₂ ∧ SameGenericError CommandQueue.backend.Names e₂ e₃) :
    SimulatedNames e₁ e₃ := by
  obtain ⟨e₂, first, second⟩ := through
  cases first with
  | state e =>
    cases second
    exact .state e
  | buffer e =>
    cases second
    exact .buffer e
  | submission e =>
    cases second
    exact .submission e
  | queue e =>
    cases second with
    | queue named =>
      cases named
      exact .queue _

theorem SameDriverResult.mono {E₁ E₂ : Type} {E F : E₁ → E₂ → Prop} (weaker : ∀ e₁ e₂, E e₁ e₂ → F e₁ e₂)
    {r₁ : DriverResult E₁} {r₂ : DriverResult E₂} (same : SameDriverResult E r₁ r₂) : SameDriverResult F r₁ r₂ := by
  cases same with
  | done outcome =>
    cases outcome with
    | ok a => exact .done (.ok a)
    | error related => exact .done (.error (weaker _ _ related))
  | allocated outcome =>
    cases outcome with
    | ok a => exact .allocated (.ok a)
    | error related => exact .allocated (.error (weaker _ _ related))
  | submission r => exact .submission r
  | len n => exact .len n
  | flag b => exact .flag b
  | state s => exact .state s

theorem simulatedNames_comp {rs₁ : List (DriverResult DriverApiError)}
    {rs₂ : List (DriverResult (GenericGpuDriver.Error CommandQueue))}
    {rs₃ : List (DriverResult (GenericDriverError (Refusal CommandId)))}
    (left : List.Forall₂ (SameDriverResult SameApiError) rs₁ rs₂)
    (right : List.Forall₂ (SameDriverResult (SameGenericError CommandQueue.backend.Names)) rs₂ rs₃) :
    List.Forall₂ (SameDriverResult SimulatedNames) rs₁ rs₃ := by
  induction left generalizing rs₃ with
  | nil =>
    cases right
    exact .nil
  | cons first _ ih =>
    cases right with
    | cons second rest => exact .cons ((first.comp second).mono fun _ _ => simulatedNames_of_generic) (ih rest)

/-- The stacks over a bounded queue, against the abstract driver over the abstract queue. -/
structure BoundedStacksMeetSpec : Prop where
  /-- Any backend, any queue of it that the client filled beforehand. -/
  backend : ∀ (Q : Type) [SubmissionQueue Q] (backend : FifoBackend Q) queue f, backend.Rep queue f → ∀ ops,
    ∃ rs driver rs' s, (genericMachine Q).run (.new queue) ops = .ret (rs, driver) ∧
      (specMachine SubmissionFifo).run (.new f) (ops.map GenericOp.spec) = .ret (rs', s) ∧
      List.Forall₂ (SameDriverResult (SameGenericError backend.Names)) rs rs'
  /-- The simulated driver. -/
  simulated : ∀ c, 0 < c → ∃ driver, SimulatedGpuDriver.new c = .ok driver ∧ ∀ ops, ∃ rs driver' rs' s,
    simulatedMachine.run driver ops = .ret (rs, driver') ∧
      (specMachine SubmissionFifo).run (.new (.empty _ c)) (ops.map fun op => (GenericOp.common op).spec) = .ret (rs', s) ∧
      List.Forall₂ (SameDriverResult SimulatedNames) rs rs'
  /-- The typed driver over the simulated one. -/
  typed : ∀ c typed, TypedDriver.new c = .ok typed → ∀ t h, TypedTrace ⟨.offline, typed⟩ t h → ∃ rs' s,
    (specMachine SubmissionFifo).run (.new (.empty _ c)) (t.map fun call => (GenericOp.common call.1).spec) =
        .ret (rs', s) ∧
      List.Forall₂ (SameDriverResult SimulatedNames) (t.map Prod.snd) rs'

/-- A simulated driver and the queue it was made with. -/
theorem SimulatedGpuDriver.new_queue {c : Nat} {driver : SimulatedGpuDriver} (made : SimulatedGpuDriver.new c = .ok driver) :
    driver.generic = .new driver.queue ∧ CommandQueue.Represents driver.queue (.empty _ c) := by
  unfold SimulatedGpuDriver.new at made
  cases new : CommandQueue.new c with
  | error e =>
    rw [new] at made
    cases made
  | ok queue =>
    rw [new] at made
    cases made
    exact ⟨rfl, CommandQueue.represents_of_new new⟩

theorem SimulatedGpuDriver.run_spec {c : Nat} {driver : SimulatedGpuDriver} (made : SimulatedGpuDriver.new c = .ok driver)
    (ops : List DriverOp) : (simulatedMachine.run driver ops).Rel
      (fun p q => List.Forall₂ (SameDriverResult SimulatedNames) p.1 q.1)
      ((specMachine SubmissionFifo).run (.new (.empty _ c)) (ops.map fun op => (GenericOp.common op).spec)) := by
  obtain ⟨same, rep⟩ := new_queue made
  have across := driver.run_generic ops
  have down := CommandQueue.backend.run_spec rep (ops.map .common)
  rw [commonMachine_run, same] at across
  rw [List.map_map] at down
  apply (across.comp down).mono
  rintro ⟨rs, after⟩ ⟨rs', after'⟩ ⟨⟨middle, _⟩, ⟨left, -⟩, right⟩
  exact simulatedNames_comp left right

/-- **Every stack over a bounded queue is one machine.** -/
theorem bounded_stacks_meet_spec : BoundedStacksMeetSpec where
  backend Q _ backend queue f rep ops := by
    obtain ⟨rs', s, spec⟩ := (DriverSpec.new f).run_returns (ops.map GenericOp.spec)
    have alike := backend.run_spec rep ops
    rw [spec] at alike
    obtain ⟨⟨rs, driver⟩, run, results⟩ := alike.ret_right
    exact ⟨rs, driver, rs', s, run, spec, results⟩
  simulated c positive := by
    obtain ⟨driver, made, -⟩ := SimulatedGpuDriver.new_shows positive
    refine ⟨driver, made, ?_⟩
    intro ops
    obtain ⟨rs', s, spec⟩ := (DriverSpec.new (.empty _ c)).run_returns (ops.map fun op => (GenericOp.common op).spec)
    have alike := SimulatedGpuDriver.run_spec made ops
    rw [spec] at alike
    obtain ⟨⟨rs, driver'⟩, run, results⟩ := alike.ret_right
    exact ⟨rs, driver', rs', s, run, spec, results⟩
  typed c typed made t h trace := by
    have inner : SimulatedGpuDriver.new c = .ok typed.inner := by
      unfold TypedDriver.new at made
      split at made
      · cases made
      · rename_i driver new
        cases made
        exact new
    have run : simulatedMachine.run typed.inner (t.map Prod.fst) = .ret (t.map Prod.snd, h.inner) :=
      Machine.run_eq_ret.mpr ⟨t, trace.inner, rfl, rfl⟩
    have alike := SimulatedGpuDriver.run_spec inner (t.map Prod.fst)
    rw [run, List.map_map] at alike
    obtain ⟨⟨rs', s⟩, spec, results⟩ := alike.ret_left
    exact ⟨rs', s, spec, results⟩

end GpuDriverLab
