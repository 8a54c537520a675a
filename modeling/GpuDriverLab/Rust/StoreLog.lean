import GpuDriverLab.Rust.Slice
import Mathlib.Data.List.Induction

/-!
# Logs of stores into a byte string

A log lists the stores `(offset, bytes)` made so far, latest last. `latest` is
what a reader of the log expects at a position; `Reflects` says that a storage
agrees with the log, on positions below a high-water mark.
-/

namespace GpuDriverLab.Rust
set_option autoImplicit false

variable {α : Type}

/-- The store wrote position `i`. -/
def Covers (w : Nat × List α) (i : Nat) : Prop := w.1 ≤ i ∧ i < w.1 + w.2.length

instance (w : Nat × List α) (i : Nat) : Decidable (Covers w i) := inferInstanceAs (Decidable (_ ∧ _))

/-- The element that the latest store covering `i` put there. -/
def latest (log : List (Nat × List α)) (i : Nat) : Option α :=
  log.foldl (fun seen w => if Covers w i then w.2[i - w.1]? else seen) none

@[simp] theorem latest_nil (i : Nat) : latest ([] : List (Nat × List α)) i = none := rfl

theorem latest_snoc (log : List (Nat × List α)) (w : Nat × List α) (i : Nat) :
    latest (log ++ [w]) i = if Covers w i then w.2[i - w.1]? else latest log i := by
  simp [latest, List.foldl_append]

/-- Positions that no store covers, and only they, have no latest element. -/
theorem latest_eq_none {log : List (Nat × List α)} {i : Nat} :
    latest log i = none ↔ ∀ w ∈ log, ¬ Covers w i := by
  induction log using List.reverseRecOn with
  | nil => simp
  | append_singleton log w ih =>
    rw [latest_snoc]
    by_cases here : Covers w i
    · have inside : i - w.1 < w.2.length := by have := here.1; have := here.2; omega
      rw [if_pos here, List.getElem?_eq_getElem inside]
      constructor
      · intro none
        cases none
      · intro uncovered
        exact (uncovered w (by simp) here).elim
    · simp only [here, if_false, ih, List.mem_append, List.mem_singleton]
      constructor
      · rintro old v (member | rfl)
        · exact old v member
        · exact here
      · intro all v member
        exact all v (Or.inl member)

/-- `xs` agrees with the log at every stored position, and all of them lie below `n`. -/
def Reflects (log : List (Nat × List α)) (xs : List α) (n : Nat) : Prop :=
  ∀ i a, latest log i = some a → i < n ∧ xs[i]? = some a

theorem reflects_nil (xs : List α) (n : Nat) : Reflects [] xs n := by
  intro i a stored
  cases stored

/-- One more store: splice it in and raise the mark. -/
theorem Reflects.splice {log : List (Nat × List α)} {xs src : List α} {off n : Nat}
    (h : Reflects log xs n) (fits : off + src.length ≤ xs.length) :
    Reflects (log ++ [(off, src)]) (splice xs off src) (max n (off + src.length)) := by
  intro i a stored
  rw [latest_snoc] at stored
  rw [getElem?_splice fits]
  by_cases here : Covers (off, src) i
  · rw [if_pos here] at stored
    have inside : off ≤ i ∧ i < off + src.length := here
    rw [if_pos inside]
    exact ⟨by omega, stored⟩
  · rw [if_neg here] at stored
    have outside : ¬ (off ≤ i ∧ i < off + src.length) := here
    obtain ⟨below, same⟩ := h i a stored
    rw [if_neg outside]
    exact ⟨by omega, same⟩

/-- A store at the front, with nothing before it in the log. -/
theorem reflects_restart {xs src : List α} (fits : src.length ≤ xs.length) :
    Reflects [(0, src)] (splice xs 0 src) src.length := by
  have one := (reflects_nil xs 0).splice (show 0 + src.length ≤ xs.length by omega)
  simpa using one

section StoredEnd

/-- One more than the greatest stored position, or `0` when nothing is stored. -/
def storedEnd (log : List (Nat × List α)) : Nat :=
  log.foldl (fun n w => if w.2 = [] then n else max n (w.1 + w.2.length)) 0

@[simp] theorem storedEnd_nil : storedEnd ([] : List (Nat × List α)) = 0 := rfl

theorem storedEnd_snoc (log : List (Nat × List α)) (w : Nat × List α) :
    storedEnd (log ++ [w]) = if w.2 = [] then storedEnd log else max (storedEnd log) (w.1 + w.2.length) := by
  simp only [storedEnd, List.foldl_append, List.foldl_cons, List.foldl_nil]

theorem storedEnd_front (src : List α) : storedEnd [(0, src)] = src.length := by
  rw [← List.nil_append [(0, src)], storedEnd_snoc]
  split
  · rename_i empty
    have none_ : src = [] := empty
    rw [none_]
    rfl
  · simp

/-- Some store of the log wrote position `i`. -/
def Stored (log : List (Nat × List α)) (i : Nat) : Prop := ∃ w ∈ log, Covers w i

theorem Stored.lt {log : List (Nat × List α)} {i : Nat} (stored : Stored log i) : i < storedEnd log := by
  induction log using List.reverseRecOn with
  | nil =>
    obtain ⟨w, member, -⟩ := stored
    cases member
  | append_singleton log last ih =>
    obtain ⟨w, member, lower, upper⟩ := stored
    rw [storedEnd_snoc]
    rcases List.mem_append.mp member with old | new
    · have below := ih ⟨w, old, lower, upper⟩
      split <;> omega
    · rw [List.mem_singleton] at new
      subst new
      have nonempty : w.2 ≠ [] := by
        intro empty
        rw [empty, List.length_nil] at upper
        omega
      rw [if_neg nonempty]
      omega

/-- The end is that of a stored position. -/
theorem stored_last {log : List (Nat × List α)} {i : Nat} (last : storedEnd log = i + 1) : Stored log i := by
  induction log using List.reverseRecOn with
  | nil => cases last
  | append_singleton log w ih =>
    have old : storedEnd log = i + 1 → Stored (log ++ [w]) i := by
      intro before
      obtain ⟨v, member, covers⟩ := ih before
      exact ⟨v, List.mem_append_left _ member, covers⟩
    rw [storedEnd_snoc] at last
    by_cases empty : w.2 = []
    · rw [if_pos empty] at last
      exact old last
    · rw [if_neg empty] at last
      have some_ := List.length_pos_iff.mpr empty
      by_cases covered : w.1 + w.2.length ≤ storedEnd log
      · rw [Nat.max_eq_left covered] at last
        exact old last
      · have upper : w.1 + w.2.length = i + 1 := by omega
        exact ⟨w, List.mem_append_right _ (List.mem_singleton_self w), by omega, by omega⟩

/-- `n` is `0` when nothing is stored, and else one more than the greatest stored position. -/
def IsStoredEnd (log : List (Nat × List α)) (n : Nat) : Prop :=
  (n = 0 ∧ ∀ i, ¬ Stored log i) ∨ ∃ i, n = i + 1 ∧ Stored log i ∧ ∀ j, Stored log j → j ≤ i

theorem isStoredEnd_iff {log : List (Nat × List α)} {n : Nat} : IsStoredEnd log n ↔ n = storedEnd log := by
  constructor
  · rintro (⟨rfl, nothing⟩ | ⟨i, rfl, stored, greatest⟩)
    · cases end_ : storedEnd log with
      | zero => rfl
      | succ i => exact (nothing i (stored_last end_)).elim
    · have below := stored.lt
      cases end_ : storedEnd log with
      | zero => omega
      | succ j =>
        have upper := greatest j (stored_last end_)
        omega
  · rintro rfl
    cases end_ : storedEnd log with
    | zero =>
      refine Or.inl ⟨rfl, ?_⟩
      intro i stored
      have below := stored.lt
      omega
    | succ i =>
      refine Or.inr ⟨i, rfl, stored_last end_, ?_⟩
      intro j stored
      have below := stored.lt
      omega

end StoredEnd

end GpuDriverLab.Rust
