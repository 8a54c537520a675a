import GpuDriverLab.Rust.Exec
import Mathlib.Data.List.Basic

/-!
# Machine words and slices

`usize` values are natural numbers here; the operations carry the bound. The
operators `+`, `-` and `%` panic where the language does, `checked_add` returns
`None`, and a slice expression checks its two ends in the order of the standard
library. `splice` is the value a successful `copy_from_slice` leaves behind.
-/

namespace GpuDriverLab.Rust
set_option autoImplicit false

/-- `usize::MAX` on a 64-bit target. -/
def usizeMax : Nat := UInt64.size - 1

/-- `a.checked_add(b)` on `usize`. -/
def checkedAdd (a b : Nat) : Option Nat :=
  if a + b ≤ usizeMax then some (a + b) else none

/-- `a.checked_add(b)` on `u32`. -/
def checkedAddU32 (a b : UInt32) : Option UInt32 :=
  if a.toNat + b.toNat < UInt32.size then some (a + b) else none

/-- `a + b` on `usize`. -/
def add (a b : Nat) : Exec Nat :=
  if a + b ≤ usizeMax then .ret (a + b) else .panic .addOverflow

/-- `a - b` on `usize`. -/
def sub (a b : Nat) : Exec Nat :=
  if b ≤ a then .ret (a - b) else .panic .subOverflow

/-- `a % b` on `usize`. -/
def rem (a b : Nat) : Exec Nat :=
  if b = 0 then .panic .divisionByZero else .ret (a % b)

theorem checkedAdd_eq_some {a b c : Nat} : checkedAdd a b = some c ↔ c = a + b ∧ a + b ≤ usizeMax := by
  unfold checkedAdd
  split <;> simp_all [eq_comm]

theorem checkedAdd_eq_none {a b : Nat} : checkedAdd a b = none ↔ usizeMax < a + b := by
  unfold checkedAdd
  split <;> simp_all

theorem checkedAddU32_one_eq_some {a c : UInt32} :
    checkedAddU32 a 1 = some c ↔ a.toNat + 1 < UInt32.size ∧ c = a + 1 := by
  have one : (1 : UInt32).toNat = 1 := rfl
  unfold checkedAddU32
  rw [one]
  by_cases room : a.toNat + 1 < UInt32.size <;> simp [room, eq_comm]

theorem add_eq {a b : Nat} (fits : a + b ≤ usizeMax) : add a b = .ret (a + b) := if_pos fits

theorem sub_eq {a b : Nat} (le : b ≤ a) : sub a b = .ret (a - b) := if_pos le

theorem rem_eq {a b : Nat} (pos : 0 < b) : rem a b = .ret (a % b) := if_neg (by omega)

section Slice

variable {α : Type}

/-- `xs[i]`. -/
def index (xs : List α) (i : Nat) : Exec α :=
  match xs[i]? with
  | some a => .ret a
  | none => .panic .indexOutOfBounds

/-- `&xs[lo..hi]`. -/
def slice (xs : List α) (lo hi : Nat) : Exec (List α) :=
  if hi < lo then .panic .sliceInverted
  else if xs.length < hi then .panic .sliceOutOfRange
  else .ret ((xs.take hi).drop lo)

/-- `xs[lo..hi].copy_from_slice(src)`, returning the new contents of `xs`. -/
def copyFromSlice (xs : List α) (lo hi : Nat) (src : List α) : Exec (List α) :=
  if hi < lo then .panic .sliceInverted
  else if xs.length < hi then .panic .sliceOutOfRange
  else if src.length ≠ hi - lo then .panic .copyLengthMismatch
  else .ret (xs.take lo ++ src ++ xs.drop hi)

/-- `xs` with `src` stored from position `off` on. -/
def splice (xs : List α) (off : Nat) (src : List α) : List α :=
  xs.take off ++ src ++ xs.drop (off + src.length)

theorem index_eq {xs : List α} {i : Nat} {a : α} (h : xs[i]? = some a) : index xs i = .ret a := by
  simp [index, h]

theorem slice_eq {xs : List α} {lo hi : Nat} (order : lo ≤ hi) (bound : hi ≤ xs.length) :
    slice xs lo hi = .ret ((xs.take hi).drop lo) := by
  simp [slice, Nat.not_lt.mpr order, Nat.not_lt.mpr bound]

theorem copyFromSlice_eq {xs src : List α} {off : Nat} (fits : off + src.length ≤ xs.length) :
    copyFromSlice xs off (off + src.length) src = .ret (splice xs off src) := by
  simp [copyFromSlice, splice, Nat.not_lt.mpr fits]

theorem length_splice {xs src : List α} {off : Nat} (fits : off + src.length ≤ xs.length) :
    (splice xs off src).length = xs.length := by
  simp [splice]
  omega

/-- A splice changes the spliced positions and no other. -/
theorem getElem?_splice {xs src : List α} {off : Nat} (fits : off + src.length ≤ xs.length) (i : Nat) :
    (splice xs off src)[i]? =
      if off ≤ i ∧ i < off + src.length then src[i - off]? else xs[i]? := by
  have start : (xs.take off).length = off := by simp; omega
  unfold splice
  rw [List.append_assoc, List.getElem?_append, start]
  split
  · rw [if_neg (by omega), List.getElem?_take_of_lt (by omega)]
  · rw [List.getElem?_append]
    split
    · rw [if_pos (by omega)]
    · rw [if_neg (by omega), List.getElem?_drop]
      congr 1
      omega

/-- The front of a splice that reaches at least to the end of the spliced part. -/
theorem take_splice {xs src : List α} {off : Nat} (fits : off + src.length ≤ xs.length) (n : Nat) :
    (splice xs off src).take (max n (off + src.length)) = xs.take off ++ src ++ (xs.take n).drop (off + src.length) := by
  have start : (xs.take off ++ src).length = off + src.length := by
    rw [List.length_append, List.length_take, Nat.min_eq_left (by omega)]
  unfold splice
  rw [List.take_append, start, List.take_of_length_le (by omega), List.drop_take]
  congr 2
  omega

end Slice

end GpuDriverLab.Rust
