import GpuDriverLab.Command
import GpuDriverLab.Device

/-!
# Submission validation (`submission.rs`)

A validated command is paired with the buffer it names after its range has been
compared with the bytes that the buffer provider reports as initialized.
-/

namespace GpuDriverLab
set_option autoImplicit false
open Rust

/-- What submission validation needs to know about the buffers. -/
class BufferInfo (B : Type) where
  initializedLen : B → BufferId → Except DriverError Nat

instance : BufferInfo GpuDevice where
  initializedLen := GpuDevice.initializedLen

/-- Untrusted request received at the driver boundary. -/
structure SubmissionRequest where
  bufferId : BufferId
  command : RawCommand
deriving DecidableEq, Repr

/-- Fully validated command associated with an existing buffer. -/
structure ValidatedSubmission where
  bufferId : BufferId
  command : ValidatedCommand
deriving DecidableEq, Repr

inductive SubmissionError where
  | command (e : CommandError)
  | buffer (e : DriverError)
  | rangeExceedsInitialized (end_ initialized : Nat)
deriving DecidableEq, Repr

/-- The raw command first, then the buffer, then the range against it. -/
def validateSubmission {B : Type} [BufferInfo B] (buffers : B) (request : SubmissionRequest) :
    Exec (Except SubmissionError ValidatedSubmission) :=
  match ValidatedCommand.tryFrom request.command with
  | .error e => .ret (.error (.command e))
  | .ok cmd =>
    match BufferInfo.initializedLen buffers request.bufferId with
    | .error e => .ret (.error (.buffer e))
    | .ok initialized => do
      let end_ ← cmd.range.end_
      if end_ > initialized then return .error (.rangeExceedsInitialized end_ initialized)
      else return .ok { bufferId := request.bufferId, command := cmd }

namespace ValidatedSubmission

/-- The request that a submission was made from. -/
def request (submission : ValidatedSubmission) : SubmissionRequest :=
  { bufferId := submission.bufferId, command := submission.command.toRaw }

def commandId (submission : ValidatedSubmission) : CommandId := submission.command.id

/-- The first byte after the command's range. -/
def rangeEnd (submission : ValidatedSubmission) : Nat :=
  submission.command.range.offset + submission.command.range.length

end ValidatedSubmission

section Validation

variable {B : Type} [BufferInfo B] {buffers : B} {request : SubmissionRequest}

/-- Validation never panics. -/
theorem validateSubmission_returns : (validateSubmission buffers request).Returns := by
  unfold validateSubmission
  split
  · exact Exec.returns_ret _
  · split
    · exact Exec.returns_ret _
    · simp only [CommandRange.end_eq, Exec.bind_def, Exec.ret_bind, Exec.pure_def]
      split <;> exact Exec.returns_ret _

/-- What an accepted submission is: the request itself, on a known buffer,
inside the initialized bytes. -/
theorem validateSubmission_eq_ok {submission : ValidatedSubmission} :
    validateSubmission buffers request = .ret (.ok submission) ↔
      submission.request = request ∧
      ∃ initialized, BufferInfo.initializedLen buffers request.bufferId = .ok initialized ∧
        submission.rangeEnd ≤ initialized := by
  obtain ⟨bufferId, raw⟩ := request
  obtain ⟨id, command⟩ := submission
  have accept : ValidatedCommand.tryFrom raw = .ok command ↔ command.toRaw = raw :=
    ValidatedCommand.tryFrom_eq_ok
  unfold validateSubmission
  simp only [ValidatedSubmission.request, ValidatedSubmission.rangeEnd, SubmissionRequest.mk.injEq]
  rw [← accept]
  cases ValidatedCommand.tryFrom raw with
  | error e => simp
  | ok cmd =>
    cases BufferInfo.initializedLen buffers bufferId with
    | error e => simp
    | ok initialized =>
      simp only [CommandRange.end_eq, Exec.bind_def, Exec.ret_bind, Exec.pure_def]
      by_cases beyond : cmd.range.offset + cmd.range.length > initialized
      · simp only [beyond, if_true]
        constructor
        · intro h
          cases h
        · rintro ⟨⟨-, same⟩, n, hn, inside⟩
          cases same
          cases hn
          omega
      · simp only [beyond, if_false]
        constructor
        · intro h
          cases h
          exact ⟨⟨rfl, rfl⟩, initialized, rfl, by omega⟩
        · rintro ⟨⟨rfl, same⟩, -⟩
          cases same
          rfl

end Validation

end GpuDriverLab
