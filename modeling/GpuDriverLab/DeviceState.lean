import GpuDriverLab.Rust.Slice

/-!
# The device state machine (`device_state.rs`)

Offline, then firmware loaded, then ready. Parsing the image header is part of
the transition that accepts it.
-/

namespace GpuDriverLab
set_option autoImplicit false
open Rust

structure FirmwareInfo where
  major : UInt8
  minor : UInt8
deriving DecidableEq, Repr

inductive StateKind where
  | offline
  | firmwareLoaded
  | ready
  | faulted
deriving DecidableEq, Repr

inductive DeviceState where
  | offline
  | firmwareLoaded (info : FirmwareInfo)
  | ready (info : FirmwareInfo)
  | faulted
deriving DecidableEq, Repr

def DeviceState.kind : DeviceState → StateKind
  | offline => .offline
  | firmwareLoaded _ => .firmwareLoaded
  | ready _ => .ready
  | faulted => .faulted

inductive StateError where
  | invalidState (operation : String) (actual : StateKind)
  | firmwareTooShort (actual : Nat)
  | invalidFirmwareMagic
  | unsupportedFirmwareMajor (found : UInt8)
deriving DecidableEq, Repr

structure DeviceController where
  state : DeviceState
deriving DecidableEq, Repr

namespace DeviceController

theorem eq_of_state {a b : DeviceController} (same : a.state = b.state) : a = b := by
  cases a
  cases b
  cases same
  rfl

def default : DeviceController := { state := .offline }

/-- `b"RGPU"`. -/
def magic : List UInt8 := [0x52, 0x47, 0x50, 0x55]

/-- Length, magic and major version, in this order. -/
def checkImage (image : List UInt8) : Exec (Except StateError Unit) :=
  if image.length < 6 then .ret (.error (.firmwareTooShort image.length))
  else do
    if (← slice image 0 4) ≠ magic then return .error .invalidFirmwareMagic
    if (← index image 4) ≠ 1 then return .error (.unsupportedFirmwareMajor (← index image 4))
    return .ok ()

def loadFirmware (controller : DeviceController) (image : List UInt8) :
    Exec (Except StateError Unit × DeviceController) :=
  let actual := controller.state.kind
  if actual ≠ .offline then .ret (.error (.invalidState "load_firmware" actual), controller)
  else do
    match ← checkImage image with
    | .error e => return (.error e, controller)
    | .ok () =>
      let major ← index image 4
      let minor ← index image 5
      return (.ok (), { controller with state := .firmwareLoaded { major, minor } })

/-- The state is swapped out first and put back where it does not fit. -/
def start (controller : DeviceController) : Except StateError Unit × DeviceController :=
  let prevst := controller.state
  let controller := { controller with state := .offline }
  match prevst with
  | .firmwareLoaded info => (.ok (), { controller with state := .ready info })
  | other =>
    let actual := other.kind
    let controller := { controller with state := other }
    (.error (.invalidState "start" actual), controller)

def ensureReady (controller : DeviceController) : Except StateError FirmwareInfo :=
  match controller.state with
  | .ready info => .ok info
  | other => .error (.invalidState "ensure_ready" other.kind)

def reset (_controller : DeviceController) : DeviceController := { state := .offline }

/-- The header of an accepted image: at least six bytes, the magic, major version one. -/
def WellFormedImage (image : List UInt8) : Prop :=
  ∃ minor payload, image = magic ++ [1, minor] ++ payload

/-- The minor version that a well-formed image declares. -/
def imageMinor (image : List UInt8) : UInt8 := image.getD 5 0

theorem six_bytes {image : List UInt8} (long : 6 ≤ image.length) :
    ∃ b0 b1 b2 b3 major minor payload, image = b0 :: b1 :: b2 :: b3 :: major :: minor :: payload := by
  match image, long with
  | b0 :: b1 :: b2 :: b3 :: major :: minor :: payload, _ =>
    exact ⟨b0, b1, b2, b3, major, minor, payload, rfl⟩

/-- The checks on an image that is long enough: no access is out of range. -/
theorem checkImage_header (b0 b1 b2 b3 major minor : UInt8) (payload : List UInt8) :
    checkImage (b0 :: b1 :: b2 :: b3 :: major :: minor :: payload) =
      .ret (if [b0, b1, b2, b3] ≠ magic then .error .invalidFirmwareMagic
        else if major ≠ 1 then .error (.unsupportedFirmwareMajor major)
        else .ok ()) := by
  have long : ¬ (b0 :: b1 :: b2 :: b3 :: major :: minor :: payload).length < 6 := by simp
  rw [checkImage, if_neg long, slice_eq (by omega) (by simp), index_eq rfl]
  simp only [Exec.bind_def, Exec.ret_bind, Exec.pure_def, List.take_succ_cons, List.take_zero, List.drop_zero]
  split
  · rfl
  · split <;> rfl

theorem checkImage_returns (image : List UInt8) : (checkImage image).Returns := by
  by_cases long : 6 ≤ image.length
  · obtain ⟨b0, b1, b2, b3, major, minor, payload, rfl⟩ := six_bytes long
    rw [checkImage_header]
    exact Exec.returns_ret _
  · rw [checkImage, if_pos (by omega)]
    exact Exec.returns_ret _

/-- An image passes the checks exactly when its header is well formed. -/
theorem checkImage_eq_ok {image : List UInt8} : checkImage image = .ret (.ok ()) ↔ WellFormedImage image := by
  constructor
  · intro h
    by_cases long : 6 ≤ image.length
    · obtain ⟨b0, b1, b2, b3, major, minor, payload, rfl⟩ := six_bytes long
      rw [checkImage_header, Exec.ret.injEq] at h
      split at h
      · cases h
      · rename_i same
        split at h
        · cases h
        · rename_i one
          rw [not_not] at same one
          exact ⟨minor, payload, by rw [← same, one]; rfl⟩
    · rw [checkImage, if_pos (by omega)] at h
      cases h
  · rintro ⟨minor, payload, rfl⟩
    exact checkImage_header 0x52 0x47 0x50 0x55 1 minor payload

/-- Loading accepts exactly the well-formed images, and only offline; every
other call leaves the controller as it was. -/
theorem loadFirmware_cases (controller : DeviceController) (image : List UInt8) :
    (controller.state = .offline ∧ WellFormedImage image ∧
      controller.loadFirmware image =
        .ret (.ok (), { state := .firmwareLoaded { major := 1, minor := imageMinor image } })) ∨
    (¬ (controller.state = .offline ∧ WellFormedImage image) ∧
      ∃ e, controller.loadFirmware image = .ret (.error e, controller)) := by
  obtain ⟨state⟩ := controller
  cases state with
  | offline =>
    obtain ⟨checked, run⟩ := checkImage_returns image
    cases checked with
    | ok =>
      left
      have header := checkImage_eq_ok.mp run
      refine ⟨rfl, header, ?_⟩
      have four : image[4]? = some 1 := by obtain ⟨minor, payload, rfl⟩ := header; rfl
      have five : image[5]? = some (imageMinor image) := by obtain ⟨minor, payload, rfl⟩ := header; rfl
      simp [loadFirmware, DeviceState.kind, run, index_eq four, index_eq five]
    | error e =>
      right
      refine ⟨?_, e, by simp [loadFirmware, DeviceState.kind, run]⟩
      rintro ⟨-, header⟩
      rw [checkImage_eq_ok.mpr header] at run
      cases run
  | firmwareLoaded info | ready info | faulted =>
    exact Or.inr ⟨by simp, _, rfl⟩

theorem start_cases (controller : DeviceController) :
    (∃ info, controller.state = .firmwareLoaded info ∧
      controller.start = (.ok (), { state := .ready info })) ∨
    ((∀ info, controller.state ≠ .firmwareLoaded info) ∧
      controller.start = (.error (.invalidState "start" controller.state.kind), controller)) := by
  obtain ⟨state⟩ := controller
  cases state with
  | firmwareLoaded info => exact Or.inl ⟨info, rfl, rfl⟩
  | offline | ready info | faulted => exact Or.inr ⟨by simp, rfl⟩

theorem ensureReady_eq_ok {controller : DeviceController} {info : FirmwareInfo} :
    controller.ensureReady = .ok info ↔ controller.state = .ready info := by
  unfold ensureReady
  cases controller.state <;> simp

/-- The controller accepts buffer and queue work. -/
def IsReady (controller : DeviceController) : Prop := controller.state.kind = .ready

theorem isReady_iff {controller : DeviceController} :
    controller.IsReady ↔ ∃ info, controller.ensureReady = .ok info := by
  unfold IsReady
  simp only [ensureReady_eq_ok]
  cases controller.state <;> simp [DeviceState.kind]

end DeviceController

end GpuDriverLab
