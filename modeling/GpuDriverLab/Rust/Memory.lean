import Mathlib.Tactic.Common

/-!
# Bytes, words and volatile accesses

Memory is a byte for every address. A target lays out a `u32` in four bytes, in
some order; a volatile access reads or writes all four. Accesses whose bytes are
apart do not see each other.
-/

namespace GpuDriverLab.Rust
set_option autoImplicit false

abbrev Memory := Nat → UInt8

/-- How a target lays out a word: what is written is what is read. -/
structure WordLayout where
  encode : UInt32 → Nat → UInt8
  decode : (Nat → UInt8) → UInt32
  four : ∀ f g : Nat → UInt8, (∀ k, k < 4 → f k = g k) → decode f = decode g
  roundTrip : ∀ value, decode (encode value) = value

/-- The lowest byte comes first. -/
def littleEndian : WordLayout where
  encode value k := .ofNat (value.toNat >>> (8 * k))
  decode f := .ofNat ((f 0).toNat + 256 * (f 1).toNat + 65536 * (f 2).toNat + 16777216 * (f 3).toNat)
  four f g same := by
    rw [same 0 (by decide), same 1 (by decide), same 2 (by decide), same 3 (by decide)]
  roundTrip value := by
    have below := value.toNat_lt
    apply UInt32.toNat_inj.mp
    simp only [UInt8.toNat_ofNat', UInt32.toNat_ofNat', Nat.mul_zero, Nat.mul_one, Nat.reduceMul]
    omega

variable (layout : WordLayout)

/-- `address.read_volatile()`. -/
def readVolatile (memory : Memory) (address : Nat) : UInt32 := layout.decode fun k => memory (address + k)

/-- `address.write_volatile(value)`: the memory after it. -/
def writeVolatile (memory : Memory) (address : Nat) (value : UInt32) : Memory := fun byte =>
  if address ≤ byte ∧ byte < address + 4 then layout.encode value (byte - address) else memory byte

variable {layout} {memory : Memory} {address other : Nat} {value : UInt32}

theorem writeVolatile_of_outside {byte : Nat} (outside : byte < address ∨ address + 4 ≤ byte) :
    writeVolatile layout memory address value byte = memory byte := by
  unfold writeVolatile
  exact if_neg (by omega)

theorem readVolatile_congr {memory' : Memory} (same : ∀ k, k < 4 → memory (address + k) = memory' (address + k)) :
    readVolatile layout memory address = readVolatile layout memory' address := layout.four _ _ same

theorem read_written : readVolatile layout (writeVolatile layout memory address value) address = value := by
  have bytes : readVolatile layout (writeVolatile layout memory address value) address =
      layout.decode (layout.encode value) := by
    apply layout.four
    intro k below
    unfold writeVolatile
    rw [if_pos (by omega), Nat.add_sub_cancel_left]
  rw [bytes, layout.roundTrip]

example : writeVolatile littleEndian (fun _ => 0) 8 0x12345678 9 = 0x56 := by decide

theorem read_of_apart (apart : other + 4 ≤ address ∨ address + 4 ≤ other) :
    readVolatile layout (writeVolatile layout memory address value) other = readVolatile layout memory other := by
  apply readVolatile_congr
  intro k below
  exact writeVolatile_of_outside (by omega)

end GpuDriverLab.Rust
