import GpuDriverLab.QueuedWork
import GpuDriverLab.TypedRun

/-!
# The driver stacks agree

Four drivers offer the same calls: the simulated one, the generic one over any
queue, and a typed wrapper of each. Any two of them that a client can compare
answer a sequence of calls alike.
-/

namespace GpuDriverLab
set_option autoImplicit false
open Rust

/-- How the stacks correspond: one field for each pair of drivers. -/
structure DriverStacksAgree : Prop where
  /-- The simulated driver and the generic one over the growable queue. -/
  simulated : ∀ c, 0 < c → ∃ driver queue,
    SimulatedGpuDriver.new c = .ok driver ∧ CommandQueue.new c = .ok queue ∧
    ∀ ops, ∃ rs₁ driver' rs₂ generic',
      simulatedMachine.run driver ops = .ret (rs₁, driver') ∧
      (commonMachine CommandQueue).run (.new queue) ops = .ret (rs₂, generic') ∧
      List.Forall₂ (SameDriverResult SameApiError) rs₁ rs₂
  /-- Generic drivers over any two queues related by all six operations. -/
  backends : ∀ (Q₁ Q₂ : Type) [SubmissionQueue Q₁] [SubmissionQueue Q₂] (S : Q₁ → Q₂ → Prop)
    (E : SubmissionQueue.Error Q₁ → SubmissionQueue.Error Q₂ → Prop), QueueBisimulation Q₁ Q₂ S E →
    ∀ q₁ q₂, S q₁ q₂ → ∀ ops,
      ((genericMachine Q₁).run (.new q₁) ops).Rel
        (fun p₁ p₂ => List.Forall₂ (SameDriverResult (SameGenericError E)) p₁.1 p₂.1)
        ((genericMachine Q₂).run (.new q₂) ops)
  /-- The typed driver and the simulated one under it. -/
  typed : ∀ c driver, TypedDriver.new c = .ok driver →
    SimulatedGpuDriver.new c = .ok driver.inner ∧
    ∀ t h, TypedTrace ⟨.offline, driver⟩ t h →
      simulatedMachine.Trace driver.inner t h.inner ∧ ∀ op, h.CallAgrees op
  /-- The typed generic driver and the generic one under it, through any sessions. -/
  typedGeneric : ∀ (Q : Type) [SubmissionQueue Q] (queue : Q) t h,
    TypedGenericTrace (.driver .offline (.new queue)) t h →
      (genericMachine Q).Trace (.new queue) t h.inner ∧ ∀ op, h.CallAgrees op

/-- **The driver stacks agree.** -/
theorem driver_stacks_agree : DriverStacksAgree := by
  refine ⟨?_, ?_, ?_, ?_⟩
  · intro c positive
    obtain ⟨queue, newQueue, -⟩ := CommandQueue.new_represents (Nat.pos_iff_ne_zero.mp positive)
    obtain ⟨driver, new, shows_⟩ := SimulatedGpuDriver.new_shows positive
    refine ⟨driver, queue, new, newQueue, ?_⟩
    intro ops
    obtain ⟨rs₁, driver', -, run, -⟩ := shows_.run ops
    have alike := driver.run_generic ops
    have same : driver.generic = .new queue := by
      simp only [SimulatedGpuDriver.new, newQueue, Except.ok.injEq] at new
      rw [← new]
      rfl
    rw [run, same] at alike
    obtain ⟨⟨rs₂, generic'⟩, run₂, results, -⟩ := alike.ret_left
    exact ⟨rs₁, driver', rs₂, generic', run, run₂, results⟩
  · intro Q₁ Q₂ _ _ S E bisim q₁ q₂ related ops
    have start : QueueBisimulation.Drivers S (GenericGpuDriver.new q₁) (GenericGpuDriver.new q₂) :=
      ⟨rfl, rfl, related⟩
    exact (Machine.run_rel bisim.driver_step start ops).mono fun _ _ both => both.1
  · intro c driver new
    refine ⟨?_, ?_⟩
    · unfold TypedDriver.new at new
      split at new
      · cases new
      · rename_i inner made
        cases new
        exact made
    · intro t h trace
      exact ⟨trace.inner, h.call_agrees⟩
  · intro Q _ queue t h trace
    exact ⟨trace.inner, h.call_agrees⟩

end GpuDriverLab
