import GpuDriverLab.Interrupts
import GpuDriverLab.Rust.Flags

/-!
# Event sets as sets of events

What `InterruptEvents` is for: a set of the four events. Its operators are the set
operations, every set of events is one of its values, and a snapshot is read as
the events whose bits its raw word has.
-/

namespace GpuDriverLab
set_option autoImplicit false
open Rust

inductive InterruptEvent where
  | commandComplete
  | queueFault
  | thermalWarning
  | firmwareFault
deriving DecidableEq

namespace InterruptEvent

instance : Fintype InterruptEvent where
  elems := {.commandComplete, .queueFault, .thermalWarning, .firmwareFault}
  complete event := by cases event <;> decide

/-- The constant of the event. -/
def single : InterruptEvent → InterruptEvents
  | .commandComplete => .commandComplete
  | .queueFault => .queueFault
  | .thermalWarning => .thermalWarning
  | .firmwareFault => .firmwareFault

def bit : InterruptEvent → Nat
  | .commandComplete => 0
  | .queueFault => 1
  | .thermalWarning => 2
  | .firmwareFault => 3

def flags : Flags InterruptEvent 32 where
  bit := bit
  inside event := by cases event <;> decide
  injective := by decide

theorem single_mask (event : InterruptEvent) : event.single.bits.toBitVec = flags.mask event := by
  cases event <;> rfl

theorem meets_iff (word : UInt32) (event : InterruptEvent) :
    word &&& event.single.bits ≠ 0 ↔ word.toBitVec.getLsbD (flags.bit event) = true := by
  rw [← flags.and_mask_ne, ← event.single_mask, ← UInt32.toBitVec_and, ne_eq, ne_eq, ← UInt32.toBitVec_inj]
  rfl

end InterruptEvent

namespace InterruptEvents

/-- The events that `contains` finds. -/
def toSet (events : InterruptEvents) : Finset InterruptEvent :=
  Finset.univ.filter fun event => events.contains event.single

theorem contains_iff (a b : InterruptEvents) :
    a.contains b = true ↔ a.bits.toBitVec &&& b.bits.toBitVec = b.bits.toBitVec := by
  rw [contains, beq_iff_eq, ← UInt32.toBitVec_inj, UInt32.toBitVec_and]

theorem toSet_eq (events : InterruptEvents) : events.toSet = InterruptEvent.flags.members events.bits.toBitVec := by
  apply Finset.filter_congr
  intro event _
  rw [contains_iff, event.single_mask]

/-- The valid mask covers the flags and nothing else. -/
theorem validInterruptMask_bit {i : Nat} (set : validInterruptMask.toBitVec.getLsbD i = true) :
    ∃ event, InterruptEvent.flags.bit event = i := by
  have below : i < 32 := BitVec.lt_of_getLsbD set
  have only : ∀ j : Fin 32, validInterruptMask.toBitVec.getLsbD j = true →
      ∃ event, InterruptEvent.flags.bit event = j := by decide
  exact only ⟨i, below⟩ set

theorem within (events : InterruptEvents) : InterruptEvent.flags.Within events.bits.toBitVec := by
  intro i set
  apply validInterruptMask_bit
  have below : i < 32 := BitVec.lt_of_getLsbD set
  have free := congrArg (fun v => v.toBitVec.getLsbD i) events.valid
  simpa [set, below] using free

theorem contains_iff_subset (a b : InterruptEvents) : a.contains b = true ↔ b.toSet ⊆ a.toSet := by
  rw [toSet_eq, toSet_eq, InterruptEvent.flags.members_subset b.within, contains_iff]

theorem toSet_injective : Function.Injective toSet := by
  intro a b same
  rw [toSet_eq, toSet_eq] at same
  have bits : a.bits = b.bits := UInt32.toBitVec_inj.mp (InterruptEvent.flags.members_inj a.within b.within same)
  cases a
  cases b
  cases bits
  rfl

theorem toSet_none : none.toSet = ∅ := by
  rw [toSet_eq]
  exact InterruptEvent.flags.members_zero

theorem toSet_single (event : InterruptEvent) : event.single.toSet = {event} := by
  rw [toSet_eq, event.single_mask, InterruptEvent.flags.members_mask]

theorem toSet_bitor (a b : InterruptEvents) : (a.bitor b).toSet = a.toSet ∪ b.toSet := by
  rw [toSet_eq, toSet_eq, toSet_eq, bitor, UInt32.toBitVec_or, InterruptEvent.flags.members_or]

/-- Every set of events is the `|` of its members. -/
theorem toSet_surjective : Function.Surjective toSet := by
  intro set
  induction set using Finset.induction_on with
  | empty => exact ⟨none, toSet_none⟩
  | insert event set _ ih =>
    obtain ⟨events, rfl⟩ := ih
    exact ⟨event.single.bitor events, by rw [toSet_bitor, toSet_single, Finset.insert_eq]⟩

/-- `|=` in a loop collects. -/
theorem mem_foldl_bitorAssign (event : InterruptEvent) (more : List InterruptEvents) (start : InterruptEvents) :
    event ∈ (more.foldl bitorAssign start).toSet ↔ event ∈ start.toSet ∨ ∃ events ∈ more, event ∈ events.toSet := by
  induction more generalizing start with
  | nil => simp
  | cons first rest ih =>
    have step : (start.bitorAssign first).toSet = start.toSet ∪ first.toSet := toSet_bitor start first
    rw [List.foldl_cons, ih, step, Finset.mem_union, List.exists_mem_cons_iff, or_assoc]

theorem isEmpty_iff (events : InterruptEvents) : events.isEmpty = true ↔ events.toSet = ∅ := by
  rw [← toSet_none, toSet_injective.eq_iff, isEmpty, beq_iff_eq]
  constructor
  · intro zero
    cases events
    cases zero
    rfl
  · rintro rfl
    rfl

end InterruptEvents

namespace InterruptSnapshot

/-- The events of a snapshot are those its raw word has a bit of. -/
theorem mem_events (raw : UInt32) (event : InterruptEvent) :
    event ∈ (fromRaw raw).events.toSet ↔ raw &&& event.single.bits ≠ 0 := by
  have known : validInterruptMask.toBitVec.getLsbD (InterruptEvent.flags.bit event) = true := by cases event <;> decide
  have masked : (fromRaw raw).events.bits.toBitVec = raw.toBitVec &&& validInterruptMask.toBitVec := UInt32.toBitVec_and ..
  rw [event.meets_iff, InterruptEvents.toSet_eq, InterruptEvent.flags.mem_members, masked, BitVec.getLsbD_and, known,
    Bool.and_true]

end InterruptSnapshot

/-- `InterruptEvents` and `InterruptSnapshot`, against finite sets of events. -/
structure EventSetsFaithful : Prop where
  bijective : Function.Bijective InterruptEvents.toSet
  none : InterruptEvents.none.toSet = ∅
  single : ∀ event : InterruptEvent, event.single.toSet = {event}
  bitor : ∀ a b : InterruptEvents, (a.bitor b).toSet = a.toSet ∪ b.toSet
  contains : ∀ a b : InterruptEvents, a.contains b = true ↔ b.toSet ⊆ a.toSet
  isEmpty : ∀ events : InterruptEvents, events.isEmpty = true ↔ events.toSet = ∅
  /-- However many sets are assigned with `|=`, in whatever order. -/
  collected : ∀ (more : List InterruptEvents) (start : InterruptEvents) (event : InterruptEvent),
    event ∈ (more.foldl InterruptEvents.bitorAssign start).toSet ↔
      event ∈ start.toSet ∨ ∃ events ∈ more, event ∈ events.toSet
  snapshot : ∀ (raw : UInt32) (event : InterruptEvent),
    event ∈ (InterruptSnapshot.fromRaw raw).events.toSet ↔ raw &&& event.single.bits ≠ 0
  has : ∀ (raw : UInt32) (events : InterruptEvents), (InterruptSnapshot.fromRaw raw).has events = true ↔
    ∀ event ∈ events.toSet, raw &&& event.single.bits ≠ 0
  /-- What `ack` writes reads back as the events it was given. -/
  reread : ∀ events : InterruptEvents, (InterruptSnapshot.fromRaw events.bits).events = events

/-- **An event set is a set of events**, and a snapshot is one whatever its raw word. -/
theorem event_sets_faithful : EventSetsFaithful where
  bijective := ⟨InterruptEvents.toSet_injective, InterruptEvents.toSet_surjective⟩
  none := InterruptEvents.toSet_none
  single := InterruptEvents.toSet_single
  bitor := InterruptEvents.toSet_bitor
  contains := InterruptEvents.contains_iff_subset
  isEmpty := InterruptEvents.isEmpty_iff
  collected more start event := InterruptEvents.mem_foldl_bitorAssign event more start
  snapshot := InterruptSnapshot.mem_events
  has raw events := by
    rw [InterruptSnapshot.has, InterruptEvents.contains_iff_subset, Finset.subset_iff]
    exact forall_congr' fun event => imp_congr_right fun _ => InterruptSnapshot.mem_events raw event
  reread events := by
    apply InterruptEvents.toSet_injective
    apply Finset.ext
    intro event
    rw [InterruptSnapshot.mem_events, event.meets_iff, InterruptEvents.toSet_eq, InterruptEvent.flags.mem_members]

end GpuDriverLab
