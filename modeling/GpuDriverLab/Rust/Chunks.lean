import GpuDriverLab.Rust.StoreLog

/-!
# Stores made in chunks

A string cut into consecutive chunks, each stored at its own place. The chunks
do not overlap, so the order of the stores does not matter: together they make
the one store of the whole string, and reach as high.
-/

namespace GpuDriverLab.Rust
set_option autoImplicit false

variable {α : Type}

/-- Consecutive chunks, the first of them at `off`. -/
def placed (off : Nat) : List (List α) → List (Nat × List α)
  | [] => []
  | chunk :: chunks => (off, chunk) :: placed (off + chunk.length) chunks

section Placed

variable {chunks : List (List α)} {off i : Nat} {w : Nat × List α}

theorem placed_bounds (member : w ∈ placed off chunks) :
    off ≤ w.1 ∧ w.1 + w.2.length ≤ off + chunks.flatten.length := by
  induction chunks generalizing off with
  | nil => cases member
  | cons chunk chunks ih =>
    rw [List.flatten_cons, List.length_append]
    rcases List.mem_cons.mp member with rfl | later
    · exact ⟨Nat.le_refl _, by dsimp only; omega⟩
    · have bounds := ih later
      omega

/-- A chunk holds its part of the string. -/
theorem placed_agrees (member : w ∈ placed off chunks) (covers : Covers w i) :
    w.2[i - w.1]? = chunks.flatten[i - off]? := by
  obtain ⟨lower, upper⟩ := covers
  induction chunks generalizing off with
  | nil => cases member
  | cons chunk chunks ih =>
    rw [List.flatten_cons]
    rcases List.mem_cons.mp member with rfl | later
    · rw [List.getElem?_append_left (by dsimp only at lower upper; omega)]
    · have after := (placed_bounds later).1
      rw [ih later, List.getElem?_append_right (by omega)]
      congr 1
      omega

theorem placed_covers (lower : off ≤ i) (upper : i < off + chunks.flatten.length) :
    ∃ w ∈ placed off chunks, Covers w i := by
  induction chunks generalizing off with
  | nil =>
    rw [List.flatten_nil, List.length_nil] at upper
    omega
  | cons chunk chunks ih =>
    rw [List.flatten_cons, List.length_append] at upper
    by_cases here : i < off + chunk.length
    · exact ⟨(off, chunk), List.mem_cons_self, lower, here⟩
    · obtain ⟨w, member, covers⟩ := ih (Nat.le_of_not_lt here) (by omega)
      exact ⟨w, List.mem_cons_of_mem _ member, covers⟩

/-- The last chunk ends where the string ends. -/
theorem placed_last (some_ : chunks ≠ []) :
    ∃ w ∈ placed off chunks, w.1 + w.2.length = off + chunks.flatten.length := by
  induction chunks generalizing off with
  | nil => exact (some_ rfl).elim
  | cons chunk chunks ih =>
    rw [List.flatten_cons, List.length_append]
    by_cases last : chunks = []
    · subst last
      exact ⟨(off, chunk), List.mem_cons_self, by simp⟩
    · obtain ⟨w, member, ends⟩ := @ih (off + chunk.length) last
      exact ⟨w, List.mem_cons_of_mem _ member, by omega⟩

end Placed

/-- The stores that agree on a position store what they agree on. -/
theorem latest_of_agree {log : List (Nat × List α)} {i : Nat} {a : Option α}
    (agree : ∀ w ∈ log, Covers w i → w.2[i - w.1]? = a) (covered : ∃ w ∈ log, Covers w i) : latest log i = a := by
  induction log using List.reverseRecOn with
  | nil =>
    obtain ⟨w, member, -⟩ := covered
    cases member
  | append_singleton log last ih =>
    rw [latest_snoc]
    by_cases here : Covers last i
    · rw [if_pos here]
      exact agree last (List.mem_append_right _ (List.mem_singleton_self last)) here
    · rw [if_neg here]
      apply ih
      · intro w member
        exact agree w (List.mem_append_left _ member)
      · obtain ⟨w, member, covers⟩ := covered
        rcases List.mem_append.mp member with old | new
        · exact ⟨w, old, covers⟩
        · rw [List.mem_singleton] at new
          subst new
          exact (here covers).elim

/-- All stores of a log, one after the other. -/
def writeAll (xs : List α) (log : List (Nat × List α)) : List α := log.foldl (fun xs w => splice xs w.1 w.2) xs

theorem writeAll_snoc (xs : List α) (log : List (Nat × List α)) (w : Nat × List α) :
    writeAll xs (log ++ [w]) = splice (writeAll xs log) w.1 w.2 := by
  simp only [writeAll, List.foldl_append, List.foldl_cons, List.foldl_nil]

theorem length_writeAll {xs : List α} {log : List (Nat × List α)}
    (fits : ∀ w ∈ log, w.1 + w.2.length ≤ xs.length) : (writeAll xs log).length = xs.length := by
  induction log using List.reverseRecOn with
  | nil => rfl
  | append_singleton log w ih =>
    have before := ih fun v member => fits v (List.mem_append_left _ member)
    have last := fits w (List.mem_append_right _ (List.mem_singleton_self w))
    rw [writeAll_snoc, length_splice (by rw [before]; exact last), before]

/-- Each position ends with what was stored there last, or as it was. -/
theorem getElem?_writeAll {xs : List α} {log : List (Nat × List α)}
    (fits : ∀ w ∈ log, w.1 + w.2.length ≤ xs.length) (i : Nat) :
    (writeAll xs log)[i]? = (latest log i).or xs[i]? := by
  induction log using List.reverseRecOn with
  | nil => rfl
  | append_singleton log w ih =>
    have earlier : ∀ v ∈ log, v.1 + v.2.length ≤ xs.length :=
      fun v member => fits v (List.mem_append_left _ member)
    have last := fits w (List.mem_append_right _ (List.mem_singleton_self w))
    rw [writeAll_snoc, getElem?_splice (by rw [length_writeAll earlier]; exact last), latest_snoc]
    by_cases here : w.1 ≤ i ∧ i < w.1 + w.2.length
    · have covers : Covers w i := here
      have inside : i - w.1 < w.2.length := by omega
      rw [if_pos here, if_pos covers, List.getElem?_eq_getElem inside]
      rfl
    · have misses : ¬ Covers w i := here
      rw [if_neg here, if_neg misses, ih earlier]

/-- The end of the highest store, or `n`. -/
def highMark (n : Nat) (log : List (Nat × List α)) : Nat := log.foldl (fun n w => max n (w.1 + w.2.length)) n

theorem highMark_snoc (n : Nat) (log : List (Nat × List α)) (w : Nat × List α) :
    highMark n (log ++ [w]) = max (highMark n log) (w.1 + w.2.length) := by
  simp only [highMark, List.foldl_append, List.foldl_cons, List.foldl_nil]

theorem highMark_eq {n top : Nat} {log : List (Nat × List α)} (below : ∀ w ∈ log, w.1 + w.2.length ≤ top)
    (reached : ∃ w ∈ log, w.1 + w.2.length = top) : highMark n log = max n top := by
  -- the mark stays between `n` and `max n top`, and no store is above it
  have bounds : n ≤ highMark n log ∧ highMark n log ≤ max n top ∧
      ∀ w ∈ log, w.1 + w.2.length ≤ highMark n log := by
    clear reached
    induction log using List.reverseRecOn with
    | nil => exact ⟨Nat.le_refl n, Nat.le_max_left n top, nofun⟩
    | append_singleton log w ih =>
      obtain ⟨lower, upper, above⟩ := ih fun v member => below v (List.mem_append_left _ member)
      have last := below w (List.mem_append_right _ (List.mem_singleton_self w))
      rw [highMark_snoc]
      refine ⟨by omega, by omega, ?_⟩
      intro v member
      rcases List.mem_append.mp member with old | new
      · have old := above v old
        omega
      · rw [List.mem_singleton] at new
        subst new
        exact Nat.le_max_right _ _
  obtain ⟨w, member, rfl⟩ := reached
  have above := bounds.2.2 w member
  omega

section Reordered

variable {chunks : List (List α)} {off : Nat} {log : List (Nat × List α)}

/-- **Any order.** The chunks, stored in whatever order, make one store of the whole. -/
theorem writeAll_placed {xs : List α} (order : log.Perm (placed off chunks))
    (fits : off + chunks.flatten.length ≤ xs.length) : writeAll xs log = splice xs off chunks.flatten := by
  have bounds : ∀ w ∈ log, off ≤ w.1 ∧ w.1 + w.2.length ≤ off + chunks.flatten.length :=
    fun w member => placed_bounds (order.mem_iff.mp member)
  apply List.ext_getElem?
  intro i
  rw [getElem?_writeAll (fun w member => Nat.le_trans (bounds w member).2 fits), getElem?_splice fits]
  by_cases here : off ≤ i ∧ i < off + chunks.flatten.length
  · obtain ⟨w, member, covers⟩ := placed_covers here.1 here.2
    have stored : latest log i = chunks.flatten[i - off]? :=
      latest_of_agree (fun w member => placed_agrees (order.mem_iff.mp member))
        ⟨w, order.mem_iff.mpr member, covers⟩
    have inside : i - off < chunks.flatten.length := by omega
    rw [if_pos here, stored, List.getElem?_eq_getElem inside]
    rfl
  · have untouched : latest log i = none := by
      rw [latest_eq_none]
      intro w member covers
      have bound := bounds w member
      exact here ⟨by have := covers.1; omega, by have := covers.2; omega⟩
    rw [if_neg here, untouched]
    rfl

theorem highMark_placed (order : log.Perm (placed off chunks)) (some_ : chunks ≠ []) (n : Nat) :
    highMark n log = max n (off + chunks.flatten.length) := by
  apply highMark_eq
  · intro w member
    exact (placed_bounds (order.mem_iff.mp member)).2
  · obtain ⟨w, member, ends⟩ := (placed_last some_ : ∃ w ∈ placed off chunks, w.1 + w.2.length = _)
    exact ⟨w, order.mem_iff.mpr member, ends⟩

end Reordered

end GpuDriverLab.Rust
