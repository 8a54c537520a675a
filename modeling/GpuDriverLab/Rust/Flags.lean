import Mathlib.Data.Fintype.Basic
import Mathlib.Tactic.Common

/-!
# Flags of a machine word

A word whose bits are flags is a set of their names: `|` is union, and
`a & b == b` is inclusion. A word with no other bit set is that set and nothing
more.
-/

namespace GpuDriverLab.Rust
set_option autoImplicit false

/-- Bits of a word of `w` bits, one for each name. -/
structure Flags (κ : Type) (w : Nat) where
  bit : κ → Nat
  inside : ∀ k, bit k < w
  injective : Function.Injective bit

namespace Flags

variable {κ : Type} {w : Nat} (F : Flags κ w)

def mask (k : κ) : BitVec w := BitVec.twoPow w (F.bit k)

theorem getLsbD_mask (k : κ) (i : Nat) : (F.mask k).getLsbD i = decide (F.bit k = i) := by
  rw [mask, BitVec.getLsbD_twoPow]
  by_cases here : F.bit k = i
  · subst here
    simp [F.inside k]
  · simp [here]

/-- A mask is in a word when its bit is. -/
theorem and_mask (word : BitVec w) (k : κ) : word &&& F.mask k = F.mask k ↔ word.getLsbD (F.bit k) = true := by
  constructor
  · intro inside
    have bit := congrArg (fun v => v.getLsbD (F.bit k)) inside
    simpa [F.getLsbD_mask] using bit
  · intro set
    apply BitVec.eq_of_getLsbD_eq
    intro i _
    rw [BitVec.getLsbD_and, F.getLsbD_mask]
    by_cases here : F.bit k = i
    · subst here
      simp [set]
    · simp [here]

/-- A mask meets a word when its bit is set. -/
theorem and_mask_ne (word : BitVec w) (k : κ) : word &&& F.mask k ≠ 0 ↔ word.getLsbD (F.bit k) = true := by
  constructor
  · intro meets
    by_contra clear
    apply meets
    apply BitVec.eq_of_getLsbD_eq
    intro i _
    rw [BitVec.getLsbD_and, F.getLsbD_mask]
    by_cases here : F.bit k = i
    · subst here
      simp [Bool.eq_false_iff.mpr clear]
    · simp [here]
  · intro set meets
    have bit := congrArg (fun v => v.getLsbD (F.bit k)) meets
    simp [F.getLsbD_mask, set] at bit

/-- Only flags are set. -/
def Within (word : BitVec w) : Prop := ∀ i, word.getLsbD i = true → ∃ k, F.bit k = i

section Members

variable [Fintype κ]

/-- The names whose flags are set. -/
def members (word : BitVec w) : Finset κ := Finset.univ.filter fun k => word &&& F.mask k = F.mask k

theorem mem_members {word : BitVec w} {k : κ} : k ∈ F.members word ↔ word.getLsbD (F.bit k) = true := by
  rw [members, Finset.mem_filter, F.and_mask]
  exact and_iff_right (Finset.mem_univ k)

theorem members_zero : F.members 0 = ∅ := by
  apply Finset.eq_empty_of_forall_notMem
  intro k member
  simp [F.mem_members] at member

theorem members_mask (k : κ) : F.members (F.mask k) = {k} := by
  apply Finset.ext
  intro l
  rw [F.mem_members, F.getLsbD_mask, Finset.mem_singleton, decide_eq_true_iff]
  exact ⟨fun same => (F.injective same).symm, fun same => congrArg F.bit same.symm⟩

theorem members_or [DecidableEq κ] (a b : BitVec w) : F.members (a ||| b) = F.members a ∪ F.members b := by
  apply Finset.ext
  intro k
  rw [Finset.mem_union, F.mem_members, F.mem_members, F.mem_members, BitVec.getLsbD_or, Bool.or_eq_true]

/-- Inclusion of sets, for a right side with no other bits. -/
theorem members_subset {a b : BitVec w} (within : F.Within b) : F.members b ⊆ F.members a ↔ a &&& b = b := by
  constructor
  · intro subset
    apply BitVec.eq_of_getLsbD_eq
    intro i _
    rw [BitVec.getLsbD_and]
    cases set : b.getLsbD i with
    | false => simp
    | true =>
      obtain ⟨k, rfl⟩ := within i set
      have member : k ∈ F.members a := subset (F.mem_members.mpr set)
      simp [F.mem_members.mp member]
  · intro inside k member
    rw [F.mem_members] at member ⊢
    have bit := congrArg (fun v => v.getLsbD (F.bit k)) inside
    simpa [member] using bit

/-- Words without other bits are their sets. -/
theorem members_inj {a b : BitVec w} (withinA : F.Within a) (withinB : F.Within b)
    (same : F.members a = F.members b) : a = b := by
  have left : a &&& b = b := (F.members_subset withinB).mp same.ge
  have right : b &&& a = a := (F.members_subset withinA).mp same.le
  rw [← left, BitVec.and_comm, right]

end Members

end Flags

end GpuDriverLab.Rust
