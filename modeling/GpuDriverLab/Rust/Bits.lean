import Mathlib.Data.List.Induction
import Mathlib.Tactic.Common

/-!
# Fields of a machine word

A word is cut into fields by masks that do not overlap. `merge` replaces one
field; `Layout.store` replaces one field after another. What a field holds
afterwards is what was stored into it last, and the bits under no mask never
change. Words of every width and any set of field names are covered.
-/

namespace GpuDriverLab.Rust
set_option autoImplicit false

section Merge

variable {w : Nat}

/-- `word` with the bits under `mask` replaced by those of `bits`. -/
def merge (mask word bits : BitVec w) : BitVec w := (word &&& ~~~mask) ||| (bits &&& mask)

theorem getLsbD_merge (mask word bits : BitVec w) (i : Nat) :
    (merge mask word bits).getLsbD i = if mask.getLsbD i then bits.getLsbD i else word.getLsbD i := by
  simp only [merge, BitVec.getLsbD_or, BitVec.getLsbD_and, BitVec.getLsbD_not]
  by_cases inside : i < w
  · cases mask.getLsbD i <;> simp [inside]
  · simp [BitVec.getLsbD_of_ge, Nat.le_of_not_lt inside]

/-- Setting all bits of a field. -/
theorem merge_self (mask word : BitVec w) : merge mask word mask = word ||| mask := by
  apply BitVec.eq_of_getLsbD_eq
  intro i _
  rw [getLsbD_merge, BitVec.getLsbD_or]
  cases mask.getLsbD i <;> simp

/-- Clearing all bits of a field. -/
theorem merge_zero (mask word : BitVec w) : merge mask word 0 = word &&& ~~~mask := by
  simp [merge]

/-- The merged field holds the new bits. -/
theorem merge_and_mask (mask word bits : BitVec w) : merge mask word bits &&& mask = bits &&& mask := by
  apply BitVec.eq_of_getLsbD_eq
  intro i _
  simp only [BitVec.getLsbD_and, getLsbD_merge]
  cases mask.getLsbD i <;> simp

/-- The bits under a mask that does not meet the field stay. -/
theorem merge_and_of_disjoint {mask other : BitVec w} (disjoint : mask &&& other = 0) (word bits : BitVec w) :
    merge mask word bits &&& other = word &&& other := by
  apply BitVec.eq_of_getLsbD_eq
  intro i _
  have apart : (mask.getLsbD i && other.getLsbD i) = false := by
    rw [← BitVec.getLsbD_and, disjoint]
    simp
  simp only [BitVec.getLsbD_and, getLsbD_merge]
  cases hm : mask.getLsbD i
  · simp
  · simp_all

end Merge

section LastSet

variable {κ V : Type} [DecidableEq κ]

/-- The value that the last update of `k` gave it. -/
def lastSet (k : κ) (updates : List (κ × V)) : Option V :=
  updates.foldl (fun seen u => if u.1 = k then some u.2 else seen) none

@[simp] theorem lastSet_nil (k : κ) : lastSet k ([] : List (κ × V)) = none := rfl

@[simp] theorem lastSet_snoc (k : κ) (updates : List (κ × V)) (u : κ × V) :
    lastSet k (updates ++ [u]) = if u.1 = k then some u.2 else lastSet k updates := by
  simp [lastSet, List.foldl_append]

end LastSet

/-- Masks that cut a word of `w` bits into fields named by `κ`. -/
structure Layout (κ : Type) (w : Nat) where
  mask : κ → BitVec w
  disjoint : ∀ k l, k ≠ l → mask k &&& mask l = 0

namespace Layout

variable {κ : Type} {w : Nat} (L : Layout κ w)

/-- Replace fields one after another. -/
def store (word : BitVec w) (updates : List (κ × BitVec w)) : BitVec w :=
  updates.foldl (fun word u => merge (L.mask u.1) word u.2) word

@[simp] theorem store_snoc (word : BitVec w) (updates : List (κ × BitVec w)) (u : κ × BitVec w) :
    L.store word (updates ++ [u]) = merge (L.mask u.1) (L.store word updates) u.2 := by
  simp [store, List.foldl_append]

/-- **Last write wins, field by field.** -/
theorem store_field [DecidableEq κ] (word : BitVec w) (updates : List (κ × BitVec w)) (k : κ) :
    L.store word updates &&& L.mask k = (lastSet k updates).getD word &&& L.mask k := by
  induction updates using List.reverseRecOn with
  | nil => rfl
  | append_singleton updates u ih =>
    rw [store_snoc, lastSet_snoc]
    by_cases here : u.1 = k
    · subst here
      rw [merge_and_mask]
      simp
    · rw [merge_and_of_disjoint (L.disjoint u.1 k here), ih]
      simp [here]

/-- **Reserved bits.** What no field covers is never changed. -/
theorem store_outside {reserved : BitVec w} (free : ∀ k, L.mask k &&& reserved = 0) (word : BitVec w)
    (updates : List (κ × BitVec w)) : L.store word updates &&& reserved = word &&& reserved := by
  induction updates using List.reverseRecOn with
  | nil => rfl
  | append_singleton updates u ih => rw [store_snoc, merge_and_of_disjoint (free u.1), ih]

/-- A word is its fields and its reserved bits. -/
theorem ext {x y : BitVec w} (fields : ∀ k, x &&& L.mask k = y &&& L.mask k)
    (rest : ∀ reserved, (∀ k, L.mask k &&& reserved = 0) → x &&& reserved = y &&& reserved) : x = y := by
  apply BitVec.eq_of_getLsbD_eq
  intro i inside
  by_cases covered : ∃ k, (L.mask k).getLsbD i = true
  · obtain ⟨k, here⟩ := covered
    have same := congrArg (fun v => v.getLsbD i) (fields k)
    simpa [here] using same
  · have free : ∀ k, L.mask k &&& BitVec.twoPow w i = 0 := by
      intro k
      apply BitVec.eq_of_getLsbD_eq
      intro j _
      rw [BitVec.getLsbD_and, BitVec.getLsbD_twoPow]
      by_cases here : i = j
      · subst here
        have uncovered : (L.mask k).getLsbD i = false := by
          rw [← Bool.not_eq_true]
          exact fun h => covered ⟨k, h⟩
        simp [uncovered]
      · simp [here]
    have same := congrArg (fun v => v.getLsbD i) (rest _ free)
    simpa [BitVec.getLsbD_twoPow, inside] using same

/-- Updates that leave the same last value in every field give the same word. -/
theorem store_congr [DecidableEq κ] (word : BitVec w) {updates updates' : List (κ × BitVec w)}
    (same : ∀ k, lastSet k updates = lastSet k updates') : L.store word updates = L.store word updates' := by
  apply L.ext
  · intro k
    rw [store_field, store_field, same k]
  · intro reserved free
    rw [L.store_outside free, L.store_outside free]

end Layout

end GpuDriverLab.Rust
