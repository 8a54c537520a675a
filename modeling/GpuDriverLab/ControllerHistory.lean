import GpuDriverLab.DeviceState
import GpuDriverLab.Machine.Trace

/-!
# The lifecycle as a function of history

What a controller has accepted since its last reset is nothing, one image, or
one image and a start; the state is which of the three, with the version that
the image declares.
-/

namespace GpuDriverLab
set_option autoImplicit false
open Rust

/-- The calls that change a controller. -/
inductive ControllerOp where
  | loadFirmware (image : List UInt8)
  | start
  | reset
deriving DecidableEq, Repr

/-- `reset` returns nothing and never fails. -/
def controllerMachine : Machine DeviceController ControllerOp (Except StateError Unit) where
  step controller
    | .loadFirmware image => controller.loadFirmware image
    | .start => .ret controller.start
    | .reset => .ret (.ok (), controller.reset)

/-- An accepted transition. -/
inductive Transition where
  | loaded (image : List UInt8)
  | started
deriving DecidableEq

/-- The transitions accepted since the last reset, in order. -/
def sinceReset (t : List (ControllerOp × Except StateError Unit)) : List Transition :=
  t.foldl (fun since call =>
    match call with
    | (.loadFirmware image, .ok ()) => since ++ [.loaded image]
    | (.start, .ok ()) => since ++ [.started]
    | (.reset, _) => []
    | (.loadFirmware _, .error _) | (.start, .error _) => since) []

theorem sinceReset_snoc (t : List (ControllerOp × Except StateError Unit)) (op : ControllerOp)
    (r : Except StateError Unit) :
    sinceReset (t ++ [(op, r)]) =
      match op, r with
      | .loadFirmware image, .ok () => sinceReset t ++ [.loaded image]
      | .start, .ok () => sinceReset t ++ [.started]
      | .reset, _ => []
      | .loadFirmware _, .error _ | .start, .error _ => sinceReset t := by
  unfold sinceReset
  rw [List.foldl_append]
  cases op <;> cases r <;> rfl

namespace DeviceController

/-- A header that is long enough and begins with the magic and major version one. -/
theorem wellFormedImage_iff {image : List UInt8} :
    WellFormedImage image ↔ 6 ≤ image.length ∧ image.take 5 = magic ++ [1] := by
  constructor
  · rintro ⟨minor, payload, rfl⟩
    exact ⟨by simp [magic], rfl⟩
  · rintro ⟨long, header⟩
    obtain ⟨b0, b1, b2, b3, major, minor, payload, rfl⟩ := six_bytes long
    refine ⟨minor, payload, ?_⟩
    have whole : b0 :: b1 :: b2 :: b3 :: major :: minor :: payload =
        [b0, b1, b2, b3, major] ++ minor :: payload := rfl
    have five : [b0, b1, b2, b3, major] = magic ++ [1] := header
    rw [whole, five]
    rfl

theorem minor_byte {image : List UInt8} (header : WellFormedImage image) : image[5]? = some (imageMinor image) := by
  obtain ⟨minor, payload, rfl⟩ := header
  rfl

/-- The version that an image declares. -/
def Declares (image : List UInt8) (info : FirmwareInfo) : Prop := info.major = 1 ∧ image[5]? = some info.minor

theorem Declares.unique {image : List UInt8} {info info' : FirmwareInfo} (h : Declares image info)
    (h' : Declares image info') : info = info' := by
  obtain ⟨major, minor⟩ := info
  obtain ⟨major', minor'⟩ := info'
  obtain ⟨rfl, byte⟩ := h
  obtain ⟨rfl, byte'⟩ := h'
  rw [byte] at byte'
  cases byte'
  rfl

/-- The state that a history since the last reset leads to. -/
inductive Reflects : List Transition → DeviceState → Prop where
  | offline : Reflects [] .offline
  | loaded {image : List UInt8} {info : FirmwareInfo} : Declares image info →
      Reflects [.loaded image] (.firmwareLoaded info)
  | started {image : List UInt8} {info : FirmwareInfo} : Declares image info →
      Reflects [.loaded image, .started] (.ready info)

/-- **Step lemma.** Every call keeps the state in step with the history. -/
theorem Reflects.step {t : List (ControllerOp × Except StateError Unit)} {controller after : DeviceController}
    {op : ControllerOp} {r : Except StateError Unit} (h : Reflects (sinceReset t) controller.state)
    (step : controllerMachine.step controller op = .ret (r, after)) :
    Reflects (sinceReset (t ++ [(op, r)])) after.state := by
  rw [sinceReset_snoc]
  cases op with
  | loadFirmware image =>
    obtain ⟨idle, header, run⟩ | ⟨-, e, run⟩ := controller.loadFirmware_cases image
    · cases run.symm.trans step
      rw [idle] at h
      generalize sinceReset t = since at h ⊢
      cases h
      exact .loaded ⟨rfl, minor_byte header⟩
    · cases run.symm.trans step
      exact h
  | start =>
    obtain ⟨info, here, run⟩ | ⟨-, run⟩ := controller.start_cases
    · cases (congrArg Exec.ret run).symm.trans step
      rw [here] at h
      generalize sinceReset t = since at h ⊢
      cases h with
      | loaded declares => exact .started declares
    · cases (congrArg Exec.ret run).symm.trans step
      exact h
  | reset =>
    cases step
    exact .offline

theorem step_returns (controller : DeviceController) (op : ControllerOp) :
    ∃ r after, controllerMachine.step controller op = .ret (r, after) := by
  cases op with
  | loadFirmware image =>
    obtain ⟨-, -, run⟩ | ⟨-, e, run⟩ := controller.loadFirmware_cases image
    · exact ⟨_, _, run⟩
    · exact ⟨_, _, run⟩
  | start => exact ⟨_, _, rfl⟩
  | reset => exact ⟨_, _, rfl⟩

/-- What the history of a controller says about it. -/
structure Determined (since : List Transition) (controller : DeviceController) : Prop where
  accepted : since = [] ∨ ∃ image, since = [.loaded image] ∨ since = [.loaded image, .started]
  offline : controller.state = .offline ↔ ∀ image, .loaded image ∉ since
  firmwareLoaded : ∀ info, controller.state = .firmwareLoaded info ↔
    ∃ image, since = [.loaded image] ∧ Declares image info
  ready : ∀ info, controller.state = .ready info ↔
    ∃ image, since = [.loaded image, .started] ∧ Declares image info
  notFaulted : controller.state ≠ .faulted
  load : ∀ image, (∃ after, controller.loadFirmware image = .ret (.ok (), after)) ↔
    controller.state = .offline ∧ 6 ≤ image.length ∧ image.take 5 = magic ++ [1]
  start : (∃ after, controller.start = (.ok (), after)) ↔ (∃ image, .loaded image ∈ since) ∧ .started ∉ since
  ensureReady : ∀ info, controller.ensureReady = .ok info ↔ controller.state = .ready info

theorem loadFirmware_ok_iff (controller : DeviceController) (image : List UInt8) :
    (∃ after, controller.loadFirmware image = .ret (.ok (), after)) ↔
      controller.state = .offline ∧ 6 ≤ image.length ∧ image.take 5 = magic ++ [1] := by
  rw [← wellFormedImage_iff]
  obtain ⟨idle, header, run⟩ | ⟨refused, e, run⟩ := controller.loadFirmware_cases image
  · exact ⟨fun _ => ⟨idle, header⟩, fun _ => ⟨_, run⟩⟩
  · refine ⟨?_, fun accepted => (refused accepted).elim⟩
    rintro ⟨after, ok⟩
    cases run.symm.trans ok

theorem start_ok_iff (controller : DeviceController) :
    (∃ after, controller.start = (.ok (), after)) ↔ ∃ info, controller.state = .firmwareLoaded info := by
  obtain ⟨info, here, run⟩ | ⟨other, run⟩ := controller.start_cases
  · exact ⟨fun _ => ⟨info, here⟩, fun _ => ⟨_, run⟩⟩
  · constructor
    · rintro ⟨after, ok⟩
      cases run.symm.trans ok
    · rintro ⟨info, here⟩
      exact (other info here).elim

theorem Reflects.determined {since : List Transition} {controller : DeviceController}
    (h : Reflects since controller.state) : Determined since controller := by
  obtain ⟨state⟩ := controller
  have same : ∀ {image info}, Declares image info → ∀ info', info = info' ↔ Declares image info' := by
    intro image info declares info'
    constructor
    · rintro rfl
      exact declares
    · exact declares.unique
  have startable : (∃ info, state = .firmwareLoaded info) ↔
      (∃ image, .loaded image ∈ since) ∧ .started ∉ since := by
    cases h <;> simp
  refine {
    accepted := ?_, offline := ?_, firmwareLoaded := ?_, ready := ?_, notFaulted := ?_
    load := loadFirmware_ok_iff ⟨state⟩
    start := (start_ok_iff ⟨state⟩).trans startable
    ensureReady := fun info => ensureReady_eq_ok } <;> cases h with
  | offline => simp
  | loaded declares => simp [same declares]
  | started declares => simp [same declares]

/-- **The lifecycle state is exactly determined by history**: after any calls of
a default controller, by the transitions accepted since the last reset. -/
theorem state_determined_by_history (ops : List ControllerOp) :
    ∃ rs controller, controllerMachine.run DeviceController.default ops = .ret (rs, controller) ∧
      Determined (sinceReset (ops.zip rs)) controller := by
  have returns : ∀ controller op, True → ∃ r after,
      controllerMachine.step controller op = .ret (r, after) ∧ True := by
    intro controller op _
    obtain ⟨r, after, step⟩ := controller.step_returns op
    exact ⟨r, after, step, trivial⟩
  obtain ⟨rs, controller, run, -⟩ := Machine.run_returns returns (s := DeviceController.default) trivial ops
  refine ⟨rs, controller, run, ?_⟩
  have reflects : Reflects (sinceReset (ops.zip rs)) controller.state := by
    refine (Machine.run_trace run).history (I := fun t c => Reflects (sinceReset t) c.state) ?_ ?_
    · exact .offline
    · exact fun _ _ _ _ _ _ h step => h.step step
  exact reflects.determined

end DeviceController

end GpuDriverLab
