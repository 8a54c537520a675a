import GpuDriverLab.RegisterFields
import GpuDriverLab.Machine.Loop

/-!
# Waiting for a ready device (`polling.rs`)

A reader and a timer act on one world, which holds the device, the clock and
whatever else passes time: any of their calls may change it. One round of the
loop is `pollRound`; its label says which calls it made and what they returned.
Durations are natural numbers, of nanoseconds.
-/

namespace GpuDriverLab
set_option autoImplicit false

inductive PollConfigError where
  | zeroPollInterval
deriving DecidableEq, Repr

/-- A timeout and a poll interval that is not zero. -/
structure PollConfig where
  timeout : Nat
  pollInterval : Nat
  nonzero : pollInterval ≠ 0
deriving Repr

def PollConfig.new (timeout pollInterval : Nat) : Except PollConfigError PollConfig :=
  if zero : pollInterval = 0 then .error .zeroPollInterval
  else .ok { timeout, pollInterval, nonzero := zero }

/-- Five time units, polled every two. -/
def PollConfig.fiveByTwo : PollConfig := { timeout := 5, pollInterval := 2, nonzero := by decide }

/-- What `new` accepts is what a configuration holds. -/
theorem PollConfig.new_eq_ok {timeout pollInterval : Nat} {config : PollConfig} :
    PollConfig.new timeout pollInterval = .ok config ↔
      config.timeout = timeout ∧ config.pollInterval = pollInterval := by
  obtain ⟨t, i, nonzero⟩ := config
  unfold PollConfig.new
  split
  · rename_i zero
    simp only [reduceCtorEq, false_iff]
    rintro ⟨-, rfl⟩
    exact nonzero zero
  · simp only [Except.ok.injEq, PollConfig.mk.injEq]
    constructor <;> rintro ⟨rfl, rfl⟩ <;> exact ⟨rfl, rfl⟩

/-- A clock that can wait. -/
structure PollTimer (World Instant : Type) where
  now : World → Instant × World
  elapsedSince : World → Instant → Nat × World
  delay : World → Nat → World

/-- A source of status words. -/
structure StatusReader (World Error : Type) where
  readStatus : World → Except Error StatusSnapshot × World

inductive PollError (Error : Type) where
  | source (e : Error)
  | fault (status : StatusSnapshot) (polls : UInt64)
  | timeout (timeout : Nat) (polls : UInt64) (lastStatus : StatusSnapshot)
deriving DecidableEq, Repr

/-- One round as an observer sees it: the world in which it began, what the read
returned, what the clock showed and which delay was requested. -/
inductive PollRound (World Error : Type) where
  | failed (world : World) (e : Error)
  | decided (world : World) (status : StatusSnapshot)
  | expired (world : World) (status : StatusSnapshot) (elapsed : Nat)
  | waited (world : World) (status : StatusSnapshot) (elapsed delay : Nat)
deriving DecidableEq

namespace PollRound

variable {World Error : Type}

/-- Where the round's status read was made. -/
def world : PollRound World Error → World
  | failed world _ | decided world _ | expired world _ _ | waited world _ _ _ => world

/-- What the round's status read returned. -/
def read : PollRound World Error → Except Error StatusSnapshot
  | failed _ e => .error e
  | decided _ status | expired _ status _ | waited _ status _ _ => .ok status

/-- The delay that the round requested. -/
def delay : PollRound World Error → Option Nat
  | waited _ _ _ delay => some delay
  | failed .. | decided .. | expired .. => none

end PollRound

/-- The delays that some rounds requested, in order. -/
def delays {World Error : Type} (rounds : List (PollRound World Error)) : List Nat :=
  rounds.filterMap PollRound.delay

theorem delays_snoc {World Error : Type} (rounds : List (PollRound World Error)) (round : PollRound World Error) :
    delays (rounds ++ [round]) = delays rounds ++ round.delay.toList := by
  unfold delays
  rw [List.filterMap_append]
  cases h : round.delay <;> simp [h]

/-- A round that ends the wait adds no delay. -/
theorem delays_quiet {World Error : Type} (rounds : List (PollRound World Error)) {round : PollRound World Error}
    (quiet : round.delay = none) : delays (rounds ++ [round]) = delays rounds := by
  rw [delays_snoc, quiet, Option.toList_none, List.append_nil]

/-- `polls.saturating_add(1)`. -/
def saturatingSucc (polls : UInt64) : UInt64 :=
  if polls.toNat + 1 < UInt64.size then polls + 1 else .ofNat (UInt64.size - 1)

section Poll

variable {World Error Instant : Type} (reader : StatusReader World Error) (timer : PollTimer World Instant)
  (config : PollConfig)

/-- The body of the loop. -/
def pollRound (start : Instant) (s : UInt64 × World) :
    Flow (UInt64 × World) (PollRound World Error)
      (Except (PollError Error) StatusSnapshot × World) :=
  let world := s.2
  let polls := saturatingSucc s.1
  match reader.readStatus world with
  | (.error e, after) => .done (.failed world e) (.error (.source e), after)
  | (.ok status, after) =>
    if status.fault then .done (.decided world status) (.error (.fault status polls), after)
    else if status.ready then .done (.decided world status) (.ok status, after)
    else
      let (elapsed, after) := timer.elapsedSince after start
      if elapsed ≥ config.timeout then
        .done (.expired world status elapsed) (.error (.timeout config.timeout polls status), after)
      else
        let remaining := config.timeout - elapsed
        let wait := min config.pollInterval remaining
        .next (.waited world status elapsed wait) (polls, timer.delay after wait)

/-- The call, on fuel: the rounds it made, its result, and the world after it. -/
def waitUntilReady (fuel : Nat) (world : World) :
    Option (List (PollRound World Error) × Except (PollError Error) StatusSnapshot × World) :=
  let (start, world) := timer.now world
  loop (pollRound reader timer config start) fuel (0, world)

end Poll

/-- A read that does not end the wait by itself. -/
def Undecided {Error : Type} (read : Except Error StatusSnapshot) : Prop :=
  ∃ status, read = .ok status ∧ status.fault = false ∧ status.ready = false

section Cases

variable {World Error Instant : Type} {reader : StatusReader World Error} {timer : PollTimer World Instant}
  {config : PollConfig} {start : Instant} {polls : UInt64} {world : World}

/-- A round that goes on: an undecided status before the deadline, and a delay. -/
theorem pollRound_next {label : PollRound World Error} {s : UInt64 × World}
    (h : pollRound reader timer config start (polls, world) = .next label s) :
    ∃ status after elapsed later, reader.readStatus world = (.ok status, after) ∧
      status.fault = false ∧ status.ready = false ∧
      timer.elapsedSince after start = (elapsed, later) ∧ elapsed < config.timeout ∧
      label = .waited world status elapsed (min config.pollInterval (config.timeout - elapsed)) ∧
      s = (saturatingSucc polls, timer.delay later (min config.pollInterval (config.timeout - elapsed))) := by
  unfold pollRound at h
  dsimp only at h
  cases read : reader.readStatus world with
  | mk result after =>
    rw [read] at h
    cases result with
    | error e => cases h
    | ok status =>
      dsimp only at h
      split at h
      · cases h
      · rename_i sound
        split at h
        · cases h
        · rename_i busy
          split at h
          · cases h
          · rename_i early
            cases h
            exact ⟨status, after, _, _, rfl, by simpa using sound, by simpa using busy, rfl,
              Nat.lt_of_not_le early, rfl, rfl⟩

/-- A round that ends the wait: a failed read, a decided status, or the deadline. -/
theorem pollRound_done {label : PollRound World Error} {result : Except (PollError Error) StatusSnapshot}
    {last : World} (h : pollRound reader timer config start (polls, world) = .done label (result, last)) :
    (∃ e, reader.readStatus world = (.error e, last) ∧ label = .failed world e ∧ result = .error (.source e)) ∨
    (∃ status, reader.readStatus world = (.ok status, last) ∧ label = .decided world status ∧
      (status.fault = true ∧ result = .error (.fault status (saturatingSucc polls)) ∨
        status.fault = false ∧ status.ready = true ∧ result = .ok status)) ∨
    (∃ status after elapsed, reader.readStatus world = (.ok status, after) ∧
      status.fault = false ∧ status.ready = false ∧
      timer.elapsedSince after start = (elapsed, last) ∧ config.timeout ≤ elapsed ∧
      label = .expired world status elapsed ∧
      result = .error (.timeout config.timeout (saturatingSucc polls) status)) := by
  unfold pollRound at h
  dsimp only at h
  cases read : reader.readStatus world with
  | mk returned after =>
    rw [read] at h
    cases returned with
    | error e =>
      cases h
      exact Or.inl ⟨e, rfl, rfl, rfl⟩
    | ok status =>
      right
      dsimp only at h
      split at h
      · rename_i broken
        cases h
        exact Or.inl ⟨status, rfl, rfl, Or.inl ⟨broken, rfl⟩⟩
      · rename_i sound
        have healthy : status.fault = false := by simpa using sound
        split at h
        · rename_i up
          cases h
          exact Or.inl ⟨status, rfl, rfl, Or.inr ⟨healthy, up, rfl⟩⟩
        · rename_i busy
          split at h
          · rename_i late
            cases h
            exact Or.inr ⟨status, after, _, rfl, healthy, by simpa using busy, rfl, late, rfl, rfl⟩
          · cases h

end Cases

end GpuDriverLab
