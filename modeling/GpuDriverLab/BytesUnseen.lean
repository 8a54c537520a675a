import GpuDriverLab.IndependentCalls
import GpuDriverLab.StackSpec

/-!
# Bytes a driver never looks at

Of an image a driver looks at the header, of data at the length. Two runs that
differ in the other bytes get the same answers, over any queue, and leave
drivers that differ in the stored bytes only: no sequence of calls carries a
byte from a buffer to an answer.
-/

namespace GpuDriverLab
set_option autoImplicit false
open Rust

/-- Two calls that differ in bytes a driver does not look at. -/
inductive AlikeButBytes : GenericOp → GenericOp → Prop where
  | same (op : GenericOp) : AlikeButBytes op op
  | image {image₁ image₂ : List UInt8} (header : image₁.take 6 = image₂.take 6) :
      AlikeButBytes (.common (.loadFirmware image₁)) (.common (.loadFirmware image₂))
  | data (id : BufferId) {data₁ data₂ : List UInt8} (length : data₁.length = data₂.length) :
      AlikeButBytes (.common (.writeBuffer id data₁)) (.common (.writeBuffer id data₂))

/-- The verdict on an image is the verdict on its first six bytes. -/
theorem imageVerdict_take (image : List UInt8) : imageVerdict (image.take 6) = imageVerdict image := by
  match image with
  | [] | [_] | [_, _] | [_, _, _] | [_, _, _, _] | [_, _, _, _, _] | _ :: _ :: _ :: _ :: _ :: _ :: _ => rfl

theorem AlikeButBytes.spec {op₁ op₂ : GenericOp} (alike : AlikeButBytes op₁ op₂) : op₁.spec = op₂.spec := by
  cases alike with
  | same => rfl
  | @image image₁ image₂ header =>
    show SpecOp.loadFirmware _ = SpecOp.loadFirmware _
    rw [← imageVerdict_take image₁, header, imageVerdict_take]
  | data id length =>
    show SpecOp.writeBuffer _ _ = SpecOp.writeBuffer _ _
    rw [length]

theorem spec_of_alike {ops₁ ops₂ : List GenericOp} (alike : List.Forall₂ AlikeButBytes ops₁ ops₂) :
    ops₁.map GenericOp.spec = ops₂.map GenericOp.spec := by
  induction alike with
  | nil => rfl
  | cons first _ ih => rw [List.map_cons, List.map_cons, first.spec, ih]

/-- Two buffers that differ in the stored bytes at most. -/
structure GpuBuffer.SameButBytes (x y : GpuBuffer) : Prop where
  id : x.id = y.id
  capacity : x.capacity = y.capacity
  used : x.used = y.used

/-- Two drivers that differ in the bytes of their buffers at most. -/
structure DifferInBytes {Q : Type} (a b : GenericGpuDriver Q) : Prop where
  controller : a.controller = b.controller
  nextId : a.device.nextId = b.device.nextId
  buffers : ∀ id : BufferId, Option.Rel GpuBuffer.SameButBytes a.device.buffers[id]? b.device.buffers[id]?
  queue : a.queue = b.queue

/-- Drivers with one account differ in bytes at most. -/
theorem GenericGpuDriver.Refines.differInBytes {Q : Type} {a b : GenericGpuDriver Q} {s : DriverSpec Q}
    (left : a.Refines s) (right : b.Refines s) (wf : a.device.WellFormed) (wf' : b.device.WellFormed) :
    DifferInBytes a b where
  controller := DeviceController.eq_of_state (left.phase.trans right.phase.symm)
  nextId := UInt32.toNat_inj.mp (left.table.issued.trans right.table.issued.symm)
  buffers := by
    intro id
    have mine := left.table.extents id
    have other := right.table.extents id
    -- the account holds both sizes; the id is the buffer's place in its table
    cases known : s.extent id with
    | none =>
      rw [known] at mine other
      generalize a.device.buffers[id]? = found at mine ⊢
      generalize b.device.buffers[id]? = found' at other ⊢
      cases mine
      cases other
      exact .none
    | some extent =>
      rw [known] at mine other
      cases found : a.device.buffers[id]? with
      | none =>
        rw [found] at mine
        cases mine
      | some x =>
        cases found' : b.device.buffers[id]? with
        | none =>
          rw [found'] at other
          cases other
        | some y =>
          rw [found] at mine
          rw [found'] at other
          cases mine with
          | some has =>
            cases other with
            | some has' =>
              exact .some ⟨(wf id x found).own.trans (wf' id y found').own.symm, has.1.trans has'.1.symm,
                has.2.trans has'.2.symm⟩
  queue := left.queue.trans right.queue.symm

/-- A driver that was run from new has a well-formed table. -/
theorem GenericGpuDriver.wellFormed_of_run {Q : Type} [SubmissionQueue Q] {queue : Q} {ops : List GenericOp}
    {rs : List (DriverResult (Error Q))} {after : GenericGpuDriver Q}
    (run : (genericMachine Q).run (.new queue) ops = .ret (rs, after)) : after.device.WellFormed :=
  (Machine.run_trace run).invariant (I := fun driver => driver.device.WellFormed) GpuDevice.default_wellFormed
    GenericGpuDriver.wellFormed_kept

/-- A result of the abstract driver has one name. -/
theorem simulatedNames_leftUnique : Relator.LeftUnique (SameDriverResult SimulatedNames) := by
  intro r₁ r₂ r left right
  have errors : ∀ {e₁ e₂ e}, SimulatedNames e₁ e → SimulatedNames e₂ e → e₁ = e₂ := by
    intro e₁ e₂ e first second
    cases first <;> cases second <;> rfl
  cases left with
  | done same =>
    cases right with
    | done same' =>
      cases same with
      | ok a =>
        cases same'
        rfl
      | error first =>
        cases same' with
        | error second => rw [errors first second]
  | allocated same =>
    cases right with
    | allocated same' =>
      cases same with
      | ok a =>
        cases same'
        rfl
      | error first =>
        cases same' with
        | error second => rw [errors first second]
  | submission | len | flag | state =>
    cases right
    rfl

/-- What two runs alike but for bytes have in common, for each driver. -/
structure BytesUnseen : Prop where
  generic : ∀ (Q : Type) [SubmissionQueue Q] (queue : Q) ops₁ ops₂, List.Forall₂ AlikeButBytes ops₁ ops₂ →
    ((genericMachine Q).run (.new queue) ops₁).Rel (fun p q => p.1 = q.1 ∧ DifferInBytes p.2 q.2)
      ((genericMachine Q).run (.new queue) ops₂)
  simulated : ∀ c driver, SimulatedGpuDriver.new c = .ok driver → ∀ ops₁ ops₂ : List DriverOp,
    List.Forall₂ AlikeButBytes (ops₁.map .common) (ops₂.map .common) →
    ∃ rs after₁ after₂, simulatedMachine.run driver ops₁ = .ret (rs, after₁) ∧
      simulatedMachine.run driver ops₂ = .ret (rs, after₂)

/-- **No driver looks at the bytes it stores.** -/
theorem bytes_unseen : BytesUnseen where
  generic Q _ queue ops₁ ops₂ alike := by
    have first := (GenericGpuDriver.new_refines queue).run ops₁
    have second := (GenericGpuDriver.new_refines queue).run ops₂
    rw [spec_of_alike alike] at first
    apply (first.comp second.flip).mono_of_ret
    rintro ⟨rs₁, after₁⟩ ⟨rs₂, after₂⟩ run₁ run₂ ⟨⟨rs, s⟩, ⟨rfl, left⟩, rfl, right⟩
    exact ⟨rfl, left.differInBytes right (GenericGpuDriver.wellFormed_of_run run₁)
      (GenericGpuDriver.wellFormed_of_run run₂)⟩
  simulated c driver made ops₁ ops₂ alike := by
    have told := spec_of_alike alike
    rw [List.map_map, List.map_map] at told
    obtain ⟨rs, s, spec⟩ := (DriverSpec.new (.empty _ c)).run_returns (ops₁.map fun op => (GenericOp.common op).spec)
    have first := SimulatedGpuDriver.run_spec made ops₁
    have second := SimulatedGpuDriver.run_spec made ops₂
    rw [spec] at first
    rw [show (ops₂.map fun op => (GenericOp.common op).spec) = ops₁.map fun op => (GenericOp.common op).spec from told.symm,
      spec] at second
    obtain ⟨⟨rs₁, after₁⟩, run₁, left⟩ := first.ret_right
    obtain ⟨⟨rs₂, after₂⟩, run₂, right⟩ := second.ret_right
    have same : rs₁ = rs₂ := List.left_unique_forall₂' simulatedNames_leftUnique left right
    exact ⟨rs₁, after₁, after₂, run₁, same ▸ run₂⟩

end GpuDriverLab
