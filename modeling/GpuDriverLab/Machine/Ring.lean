import Mathlib.Data.List.Basic
import Mathlib.Data.Nat.ModEq

/-!
# Ring buffers

A ring of optional slots represents a list: the `k`-th item stands `k` places
after the head, modulo the number of slots, and the other slots are empty. An
item is appended at the first free slot and taken from the head.
-/

namespace GpuDriverLab
set_option autoImplicit false

universe u

/-- The ring of `slots` from `head` on holds `items`. -/
structure Ring {α : Type u} (slots : List (Option α)) (head : Nat) (items : List α) : Prop where
  head_lt : head < slots.length
  fits : items.length ≤ slots.length
  slot : ∀ k, k < slots.length → slots[(head + k) % slots.length]? = some items[k]?

namespace Ring

variable {α : Type u} {slots : List (Option α)} {head : Nat} {items : List α}

/-- Every place of the ring is some number of places after the head. -/
theorem place (h : head < slots.length) {i : Nat} (inside : i < slots.length) :
    ∃ k, k < slots.length ∧ (head + k) % slots.length = i := by
  by_cases before : i < head
  · refine ⟨i + slots.length - head, by omega, ?_⟩
    rw [show head + (i + slots.length - head) = i + slots.length by omega, Nat.add_mod_right]
    exact Nat.mod_eq_of_lt inside
  · refine ⟨i - head, by omega, ?_⟩
    rw [show head + (i - head) = i by omega]
    exact Nat.mod_eq_of_lt inside

/-- Distinct distances from the head are distinct places. -/
theorem place_injective {n j k : Nat} (hj : j < n) (hk : k < n) (same : (head + j) % n = (head + k) % n) :
    j = k := by
  have equal : j % n = k % n := Nat.ModEq.add_left_cancel' head same
  rwa [Nat.mod_eq_of_lt hj, Nat.mod_eq_of_lt hk] at equal

theorem empty {n : Nat} (positive : 0 < n) : Ring (List.replicate n (none : Option α)) 0 [] := by
  refine ⟨by simpa using positive, Nat.zero_le _, ?_⟩
  intro k below
  simp only [List.length_replicate] at below ⊢
  rw [Nat.zero_add, Nat.mod_eq_of_lt below, List.getElem?_replicate, if_pos below]
  rfl

/-- The occupied slots hold exactly the items. -/
theorem mem_iff (ring : Ring slots head items) {a : α} : some a ∈ slots ↔ a ∈ items := by
  constructor
  · intro member
    obtain ⟨i, found⟩ := List.mem_iff_getElem?.mp member
    obtain ⟨inside, -⟩ := List.getElem?_eq_some_iff.mp found
    obtain ⟨k, below, rfl⟩ := place ring.head_lt inside
    rw [ring.slot k below, Option.some.injEq] at found
    exact List.mem_iff_getElem?.mpr ⟨k, found⟩
  · intro member
    obtain ⟨k, found⟩ := List.mem_iff_getElem?.mp member
    obtain ⟨below, -⟩ := List.getElem?_eq_some_iff.mp found
    apply List.mem_iff_getElem?.mpr
    refine ⟨(head + k) % slots.length, ?_⟩
    rw [ring.slot k (Nat.lt_of_lt_of_le below ring.fits), found]

/-- Storing behind the last item appends. -/
theorem push (ring : Ring slots head items) (room : items.length < slots.length) (a : α) :
    Ring (slots.set ((head + items.length) % slots.length) (some a)) head (items ++ [a]) := by
  have positive : 0 < slots.length := Nat.lt_of_le_of_lt (Nat.zero_le _) ring.head_lt
  refine ⟨by rw [List.length_set]; exact ring.head_lt, by simp; omega, ?_⟩
  intro k below
  rw [List.length_set] at below ⊢
  by_cases last : k = items.length
  · subst last
    rw [List.getElem?_set_self (Nat.mod_lt _ positive), List.getElem?_append_right (Nat.le_refl _)]
    simp
  · have apart : (head + items.length) % slots.length ≠ (head + k) % slots.length := by
      intro same
      exact last (place_injective room below same).symm
    rw [List.getElem?_set_ne apart, ring.slot k below]
    by_cases old : k < items.length
    · rw [List.getElem?_append_left old]
    · rw [List.getElem?_eq_none (by omega), List.getElem?_eq_none (by simp; omega)]

theorem first (ring : Ring slots head items) : slots[head]? = some items.head? := by
  have positive : 0 < slots.length := Nat.lt_of_le_of_lt (Nat.zero_le _) ring.head_lt
  have at_head := ring.slot 0 positive
  rw [Nat.add_zero, Nat.mod_eq_of_lt ring.head_lt] at at_head
  rw [at_head, List.head?_eq_getElem?]

/-- Emptying the head slot and moving on takes the first item. -/
theorem pop {a : α} (ring : Ring slots head (a :: items)) :
    Ring (slots.set head none) ((head + 1) % slots.length) items := by
  have positive : 0 < slots.length := Nat.lt_of_le_of_lt (Nat.zero_le _) ring.head_lt
  have fits : items.length + 1 ≤ slots.length := ring.fits
  refine ⟨by rw [List.length_set]; exact Nat.mod_lt _ positive, by rw [List.length_set]; omega, ?_⟩
  intro k below
  rw [List.length_set] at below ⊢
  rw [Nat.mod_add_mod, Nat.add_assoc, Nat.add_comm 1 k]
  by_cases last : k + 1 = slots.length
  · -- the slot just emptied is now the last of the ring
    rw [last, Nat.add_mod_right, Nat.mod_eq_of_lt ring.head_lt, List.getElem?_set_self ring.head_lt,
      List.getElem?_eq_none (by omega)]
  · have inside : k + 1 < slots.length := by omega
    have apart : head ≠ (head + (k + 1)) % slots.length := by
      intro same
      have zero : (head + 0) % slots.length = (head + (k + 1)) % slots.length := by
        rw [← same, Nat.add_zero, Nat.mod_eq_of_lt ring.head_lt]
      exact Nat.succ_ne_zero k (place_injective positive inside zero).symm
    rw [List.getElem?_set_ne apart, ring.slot (k + 1) inside]
    rfl

end Ring

end GpuDriverLab
