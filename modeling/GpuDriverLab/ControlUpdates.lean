import GpuDriverLab.RegisterFields
import GpuDriverLab.Rust.Bits

/-!
# Sequences of control updates

The three update functions of the control word are stores into a layout of
three fields. What a sequence of updates leaves in a field is what its last
update of that field set, whatever the others did in between.
-/

namespace GpuDriverLab
set_option autoImplicit false
open Rust

/-- One update of the control word. -/
inductive ControlUpdate where
  | withEnabled (enabled : Bool)
  | withIrqEnabled (enabled : Bool)
  | withPowerMode (mode : PowerMode)
deriving DecidableEq, Repr

namespace ControlUpdate

def apply (value : ControlValue) : ControlUpdate → ControlValue
  | withEnabled enabled => value.withEnabled enabled
  | withIrqEnabled enabled => value.withIrqEnabled enabled
  | withPowerMode mode => value.withPowerMode mode

/-- Updates in order. -/
def applyAll (value : ControlValue) (updates : List ControlUpdate) : ControlValue :=
  updates.foldl apply value

/-- What the last update that `set` knows about set. -/
def last {V : Type} (set : ControlUpdate → Option V) (updates : List ControlUpdate) : Option V :=
  updates.reverse.findSome? set

theorem last_snoc {V : Type} (set : ControlUpdate → Option V) (updates : List ControlUpdate)
    (update : ControlUpdate) : last set (updates ++ [update]) = (set update).or (last set updates) := by
  simp only [last, List.reverse_append, List.reverse_singleton, List.singleton_append, List.findSome?_cons]
  cases set update <;> rfl

def setEnabled : ControlUpdate → Option Bool
  | withEnabled enabled => some enabled
  | _ => none

def setIrqEnabled : ControlUpdate → Option Bool
  | withIrqEnabled enabled => some enabled
  | _ => none

def setPowerMode : ControlUpdate → Option PowerMode
  | withPowerMode mode => some mode
  | _ => none

end ControlUpdate

/-- The fields of the control word. -/
inductive ControlField where
  | enable
  | irqEnable
  | powerMode
deriving DecidableEq, Repr

/-- Where the fields are. -/
def controlLayout : Layout ControlField 32 where
  mask
    | .enable => controlEnableMask.toBitVec
    | .irqEnable => controlIrqEnableMask.toBitVec
    | .powerMode => controlPowermodeMask.toBitVec
  disjoint := by
    intro k l differ
    cases k <;> cases l <;> first | exact (differ rfl).elim | rfl

namespace ControlUpdate

/-- The store that an update makes: a flag sets all bits of its field or none. -/
def toStore : ControlUpdate → ControlField × BitVec 32
  | withEnabled enabled => (.enable, if enabled then controlEnableMask.toBitVec else 0)
  | withIrqEnabled enabled => (.irqEnable, if enabled then controlIrqEnableMask.toBitVec else 0)
  | withPowerMode mode => (.powerMode, (mode.bits <<< controlPowermodeShift).toBitVec)

/-- One update stores into its field. -/
theorem apply_toStore (value : ControlValue) (update : ControlUpdate) :
    (update.apply value).raw.toBitVec =
      merge (controlLayout.mask update.toStore.1) value.raw.toBitVec update.toStore.2 := by
  cases update with
  | withEnabled enabled =>
    cases enabled with
    | true => exact (merge_self _ _).symm
    | false => exact (merge_zero _ _).symm
  | withIrqEnabled enabled =>
    cases enabled with
    | true => exact (merge_self _ _).symm
    | false => exact (merge_zero _ _).symm
  | withPowerMode mode => rfl

/-- A sequence of updates is a sequence of stores. -/
theorem applyAll_toStore (value : ControlValue) (updates : List ControlUpdate) :
    (applyAll value updates).raw.toBitVec =
      controlLayout.store value.raw.toBitVec (updates.map toStore) := by
  induction updates using List.reverseRecOn with
  | nil => rfl
  | append_singleton updates update ih =>
    have last : applyAll value (updates ++ [update]) = update.apply (applyAll value updates) := by
      simp [applyAll, List.foldl_append]
    rw [last, apply_toStore, ih, List.map_append, List.map_singleton, Layout.store_snoc]

section Field

variable {V : Type} {field : ControlField} {set : ControlUpdate → Option V} {bits : V → BitVec 32}

/-- The last store into a field is that of the last update that sets it. -/
theorem lastSet_toStore
    (sets : ∀ update, (if update.toStore.1 = field then some update.toStore.2 else none) = (set update).map bits)
    (updates : List ControlUpdate) : lastSet field (updates.map toStore) = (last set updates).map bits := by
  induction updates using List.reverseRecOn with
  | nil => rfl
  | append_singleton updates update ih =>
    have here := sets update
    rw [List.map_append, List.map_singleton, lastSet_snoc, last_snoc, ih]
    cases known : set update with
    | none =>
      rw [known] at here
      split at here
      · cases here
      · rename_i elsewhere
        simp [elsewhere]
    | some v =>
      rw [known] at here
      split at here
      · rename_i same
        simpa [same] using here
      · cases here

/-- **A field reads as what was last set.** `get` decodes the bits of the field,
and `bits` is what setting a value stores there. -/
theorem get_applyAll {get : ControlValue → V} (decode : BitVec 32 → V)
    (reads : ∀ value, get value = decode (value.raw.toBitVec &&& controlLayout.mask field))
    (sets : ∀ update, (if update.toStore.1 = field then some update.toStore.2 else none) = (set update).map bits)
    (decodes : ∀ v, decode (bits v &&& controlLayout.mask field) = v)
    (value : ControlValue) (updates : List ControlUpdate) :
    get (applyAll value updates) = (last set updates).getD (get value) := by
  rw [reads, applyAll_toStore, Layout.store_field, lastSet_toStore sets]
  cases last set updates with
  | none => exact (reads value).symm
  | some v => exact decodes v

end Field

/-- What a flag stores. -/
def flagBits (mask : UInt32) (enabled : Bool) : BitVec 32 := if enabled then mask.toBitVec else 0

theorem enable_sets (update : ControlUpdate) :
    (if update.toStore.1 = .enable then some update.toStore.2 else none) =
      (setEnabled update).map (flagBits controlEnableMask) := by
  cases update <;> rfl

theorem irqEnable_sets (update : ControlUpdate) :
    (if update.toStore.1 = .irqEnable then some update.toStore.2 else none) =
      (setIrqEnabled update).map (flagBits controlIrqEnableMask) := by
  cases update <;> rfl

theorem powerMode_sets (update : ControlUpdate) :
    (if update.toStore.1 = .powerMode then some update.toStore.2 else none) =
      (setPowerMode update).map fun mode => (mode.bits <<< controlPowermodeShift).toBitVec := by
  cases update <;> rfl

theorem flag_set (word : UInt32) : (word != 0) = (word.toBitVec != 0) := by
  rw [Bool.eq_iff_iff, bne_iff_ne, bne_iff_ne, ne_eq, ← UInt32.toBitVec_inj]
  rfl

section Applied

variable (value : ControlValue) (updates : List ControlUpdate)

theorem enabled_applyAll :
    (applyAll value updates).enabled = (last setEnabled updates).getD value.enabled := by
  refine get_applyAll (fun bits => bits != 0) ?_ enable_sets ?_ value updates
  · exact fun value => flag_set _
  · intro enabled
    cases enabled <;> rfl

theorem irqEnabled_applyAll :
    (applyAll value updates).irqEnabled = (last setIrqEnabled updates).getD value.irqEnabled := by
  refine get_applyAll (fun bits => bits != 0) ?_ irqEnable_sets ?_ value updates
  · exact fun value => flag_set _
  · intro enabled
    cases enabled <;> rfl

theorem powerMode_applyAll :
    (applyAll value updates).powerMode = (last setPowerMode updates).getD value.powerMode := by
  refine get_applyAll (fun bits => .ofBits (.ofBitVec bits >>> controlPowermodeShift))
    ?_ powerMode_sets ?_ value updates
  · exact fun value => rfl
  · intro mode
    cases mode <;> rfl

/-- The bits above the fields are never touched. -/
theorem reserved_applyAll : (applyAll value updates).raw &&& ~~~0b1111 = value.raw &&& ~~~0b1111 := by
  apply UInt32.toBitVec_inj.mp
  rw [UInt32.toBitVec_and, UInt32.toBitVec_and, applyAll_toStore]
  apply controlLayout.store_outside
  intro field
  cases field <;> rfl

theorem applyAll_congr {updates updates' : List ControlUpdate}
    (enabled : last setEnabled updates' = last setEnabled updates)
    (irqEnabled : last setIrqEnabled updates' = last setIrqEnabled updates)
    (powerMode : last setPowerMode updates' = last setPowerMode updates) :
    applyAll value updates' = applyAll value updates := by
  have words : (applyAll value updates').raw = (applyAll value updates).raw := by
    apply UInt32.toBitVec_inj.mp
    rw [applyAll_toStore, applyAll_toStore]
    apply controlLayout.store_congr
    intro field
    cases field with
    | enable => rw [lastSet_toStore enable_sets, lastSet_toStore enable_sets, enabled]
    | irqEnable => rw [lastSet_toStore irqEnable_sets, lastSet_toStore irqEnable_sets, irqEnabled]
    | powerMode => rw [lastSet_toStore powerMode_sets, lastSet_toStore powerMode_sets, powerMode]
  exact congrArg ControlValue.mk words

end Applied

/-- What `updates` make of the control word `raw`. -/
structure Independent (raw : UInt32) (updates : List ControlUpdate) : Prop where
  enabled : (applyAll (.fromRaw raw) updates).enabled =
    (last setEnabled updates).getD (ControlValue.fromRaw raw).enabled
  irqEnabled : (applyAll (.fromRaw raw) updates).irqEnabled =
    (last setIrqEnabled updates).getD (ControlValue.fromRaw raw).irqEnabled
  powerMode : (applyAll (.fromRaw raw) updates).powerMode =
    (last setPowerMode updates).getD (ControlValue.fromRaw raw).powerMode
  reserved : (applyAll (.fromRaw raw) updates).raw &&& ~~~0b1111 = raw &&& ~~~0b1111
  determined : ∀ updates', last setEnabled updates' = last setEnabled updates →
    last setIrqEnabled updates' = last setIrqEnabled updates →
    last setPowerMode updates' = last setPowerMode updates →
    (applyAll (.fromRaw raw) updates').raw = (applyAll (.fromRaw raw) updates).raw

/-- **Control updates are independent fields**, on every word and through the
read-modify-write of every register block. -/
theorem control_updates_independent (updates : List ControlUpdate) :
    (∀ raw, Independent raw updates) ∧
    ∀ block : GpuRegisterBlock, ∃ raw after, block.cells[Register.control.index]? = some raw ∧
      block.modifyControl (applyAll · updates) = (.ok (applyAll (.fromRaw raw) updates), after) ∧
      after.cells.length = block.cells.length ∧
      after.cells[Register.control.index]? = some (applyAll (.fromRaw raw) updates).raw ∧
      ∀ i, i ≠ Register.control.index → after.cells[i]? = block.cells[i]? := by
  constructor
  · intro raw
    exact {
      enabled := enabled_applyAll _ updates
      irqEnabled := irqEnabled_applyAll _ updates
      powerMode := powerMode_applyAll _ updates
      reserved := reserved_applyAll _ updates
      determined := fun updates' enabled irqEnabled powerMode =>
        congrArg ControlValue.raw (applyAll_congr _ enabled irqEnabled powerMode) }
  · intro block
    have room := Nat.lt_of_lt_of_le Register.Declared.control.inside block.five_cells
    refine ⟨block.controlWord, _, block.controlWord_cell, block.modifyControl_eq _, ?_, ?_, ?_⟩
    · exact List.length_set
    · exact List.getElem?_set_self room
    · intro i other
      exact List.getElem?_set_ne (Ne.symm other)

end ControlUpdate

end GpuDriverLab
