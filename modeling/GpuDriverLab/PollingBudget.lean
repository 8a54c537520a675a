import GpuDriverLab.Polling
import Mathlib.Algebra.Order.Floor.Div

/-!
# Polling stays within its budget

The loop has no counter of its own. What ends it is the clock: the time left
falls by the poll interval in every round that goes on, or is used up. Nothing
is assumed about the reader, and a delay or a read may take longer than asked.
-/

namespace GpuDriverLab
set_option autoImplicit false

/-- Time that shrinks by an interval, or is used up, needs one interval less. -/
theorem ceilDiv_lt_of_step {left left' interval : Nat} (pos : 0 < interval) (some : 0 < left)
    (step : left' ≤ left - min interval left) : left' ⌈/⌉ interval < left ⌈/⌉ interval := by
  have cover : left ≤ interval * (left ⌈/⌉ interval) := le_smul_ceilDiv pos
  have rounds : left ⌈/⌉ interval ≠ 0 := by
    intro zero
    rw [zero, Nat.mul_zero] at cover
    omega
  obtain ⟨n, count⟩ := Nat.exists_eq_succ_of_ne_zero rounds
  rw [count] at cover ⊢
  apply Nat.lt_succ_of_le
  rw [ceilDiv_le_iff_le_mul pos]
  rw [Nat.mul_succ] at cover
  omega

theorem ceilDiv_mono {a b interval : Nat} (pos : 0 < interval) (le : a ≤ b) : a ⌈/⌉ interval ≤ b ⌈/⌉ interval := by
  rw [ceilDiv_le_iff_le_mul pos]
  exact Nat.le_trans le (le_smul_ceilDiv pos)

theorem PollConfig.interval_pos (config : PollConfig) : 0 < config.pollInterval :=
  Nat.pos_of_ne_zero config.nonzero

/-- The most status reads that a wait can need. -/
def PollConfig.maxPolls (config : PollConfig) : Nat := config.timeout ⌈/⌉ config.pollInterval + 1

section Budget

variable {World Error Instant : Type}

/-- The worlds that the calls of a wait can lead to. -/
inductive Reached (reader : StatusReader World Error) (timer : PollTimer World Instant) (start : Instant)
    (initial : World) : World → Prop where
  | initial : Reached reader timer start initial initial
  | read {world : World} : Reached reader timer start initial world →
      Reached reader timer start initial (reader.readStatus world).2
  | elapsed {world : World} : Reached reader timer start initial world →
      Reached reader timer start initial (timer.elapsedSince world start).2
  | delay {world : World} (duration : Nat) : Reached reader timer start initial world →
      Reached reader timer start initial (timer.delay world duration)

/-- `clock` is the time since `start` in a world. It never goes back, a delay
moves it by what was asked at least, and `elapsed_since(start)` returns what it
shows at some moment of the call. -/
structure ClockAdvances (reader : StatusReader World Error) (timer : PollTimer World Instant)
    (start : Instant) (initial : World) (clock : World → Nat) : Prop where
  read : ∀ world, Reached reader timer start initial world → clock world ≤ clock (reader.readStatus world).2
  elapsed : ∀ world, Reached reader timer start initial world →
    clock world ≤ (timer.elapsedSince world start).1 ∧
    (timer.elapsedSince world start).1 ≤ clock (timer.elapsedSince world start).2
  delay : ∀ world duration, Reached reader timer start initial world →
    clock world + duration ≤ clock (timer.delay world duration)

variable {reader : StatusReader World Error} {timer : PollTimer World Instant} {config : PollConfig}
  {start : Instant} {initial : World} {clock : World → Nat}

theorem Reached.after_read {world after : World} {result : Except Error StatusSnapshot}
    (reached : Reached reader timer start initial world) (read : reader.readStatus world = (result, after)) :
    Reached reader timer start initial after := by
  have next := reached.read
  rwa [read] at next

theorem Reached.after_look {world later : World} {elapsed : Nat}
    (reached : Reached reader timer start initial world)
    (measured : timer.elapsedSince world start = (elapsed, later)) :
    Reached reader timer start initial later := by
  have next := reached.elapsed
  rwa [measured] at next

/-- The delays of a wait, against the clock and the deadline. -/
structure WithinBudget (config : PollConfig) (rounds : List (PollRound World Error)) : Prop where
  delays : ∀ world status elapsed delay, PollRound.waited world status elapsed delay ∈ rounds →
    0 < delay ∧ delay ≤ config.pollInterval ∧ elapsed + delay ≤ config.timeout
  total : (GpuDriverLab.delays rounds).sum ≤ config.timeout

/-- The loop invariant: the delays so far are within the budget, and the clock has seen them. -/
structure Spent (reader : StatusReader World Error) (timer : PollTimer World Instant) (config : PollConfig)
    (start : Instant) (initial : World) (clock : World → Nat) (rounds : List (PollRound World Error))
    (s : UInt64 × World) : Prop where
  reached : Reached reader timer start initial s.2
  within : WithinBudget config rounds
  seen : (delays rounds).sum ≤ clock s.2

theorem WithinBudget.snoc {rounds : List (PollRound World Error)} {round : PollRound World Error}
    (within : WithinBudget config rounds) (quiet : round.delay = none) :
    WithinBudget config (rounds ++ [round]) := by
  constructor
  · intro world status elapsed delay member
    obtain before | last := List.mem_append.mp member
    · exact within.delays world status elapsed delay before
    · rw [← List.mem_singleton.mp last] at quiet
      cases quiet
  · rw [delays_quiet rounds quiet]
    exact within.total

/-- A round that goes on keeps the invariant and uses up an interval, or the time left. -/
theorem Spent.step (advances : ClockAdvances reader timer start initial clock)
    {rounds : List (PollRound World Error)} {s s' : UInt64 × World} {round : PollRound World Error}
    (spent : Spent reader timer config start initial clock rounds s)
    (h : pollRound reader timer config start s = .next round s') :
    Spent reader timer config start initial clock (rounds ++ [round]) s' ∧
      (config.timeout - clock s'.2) ⌈/⌉ config.pollInterval <
        (config.timeout - clock s.2) ⌈/⌉ config.pollInterval := by
  obtain ⟨polls, world⟩ := s
  have pos := config.interval_pos
  obtain ⟨status, after, elapsed, later, read, -, -, measured, early, rfl, rfl⟩ := pollRound_next h
  have seen : (delays rounds).sum ≤ clock world := spent.seen
  have atHead : Reached reader timer start initial world := spent.reached
  have atRead := atHead.after_read read
  have atLook := atRead.after_look measured
  -- the clock: at the head, after the read, when it was looked at, after the delay
  have sampled : clock world ≤ clock after := by
    have reading := advances.read world atHead
    rwa [read] at reading
  have looked : clock after ≤ elapsed ∧ elapsed ≤ clock later := by
    have looking := advances.elapsed after atRead
    rwa [measured] at looking
  have waited := advances.delay later (min config.pollInterval (config.timeout - elapsed)) atLook
  have sum : (delays (rounds ++ [.waited world status elapsed
      (min config.pollInterval (config.timeout - elapsed))])).sum =
      (delays rounds).sum + min config.pollInterval (config.timeout - elapsed) := by
    rw [delays_snoc, List.sum_append]
    exact congrArg _ List.sum_singleton
  refine ⟨⟨atLook.delay _, ⟨?_, ?_⟩, ?_⟩, ?_⟩
  · intro world' status' elapsed' delay' member
    obtain before | last := List.mem_append.mp member
    · exact spent.within.delays world' status' elapsed' delay' before
    · cases List.mem_singleton.mp last
      omega
  · rw [sum]
    omega
  · rw [sum]
    show _ ≤ clock (timer.delay later _)
    omega
  · have left : 0 < config.timeout - elapsed := by omega
    have fewer := ceilDiv_lt_of_step pos left (show config.timeout -
      clock (timer.delay later (min config.pollInterval (config.timeout - elapsed))) ≤ _ by omega)
    have before : config.timeout - elapsed ≤ config.timeout - clock world := by omega
    exact Nat.lt_of_lt_of_le fewer (ceilDiv_mono pos before)

/-- The wait returns: a bounded number of rounds that went on, within the budget, and a last one. -/
theorem wait_returns (advances : ClockAdvances reader timer start initial clock) (config : PollConfig) :
    ∃ earlier last s result,
      Rounds (pollRound reader timer config start) (0, initial) earlier s ∧
      pollRound reader timer config start s = .done last result ∧
      earlier.length < config.maxPolls ∧ WithinBudget config earlier ∧
      ∀ fuel, config.maxPolls ≤ fuel →
        loop (pollRound reader timer config start) fuel (0, initial) = some (earlier ++ [last], result) := by
  have init : Spent reader timer config start initial clock [] ((0 : UInt64), initial) :=
    ⟨.initial, ⟨by simp, Nat.zero_le _⟩, Nat.zero_le _⟩
  have none : Rounds (pollRound reader timer config start) (0, initial) [] (0, initial) := .nil
  obtain ⟨earlier, last, s, result, rounds, spent, final, bound, runs⟩ := loop_terminates
    (fun s => (config.timeout - clock s.2) ⌈/⌉ config.pollInterval)
    (fun _ _ _ _ spent h => spent.step advances h) none init
  have most : (config.timeout - clock initial) ⌈/⌉ config.pollInterval < config.maxPolls :=
    Nat.lt_succ_of_le (ceilDiv_mono config.interval_pos (Nat.sub_le _ _))
  rw [List.length_nil, Nat.zero_add] at bound runs
  exact ⟨earlier, last, s, result, rounds, final, Nat.lt_of_le_of_lt bound most, spent.within,
    fun fuel enough => runs fuel (Nat.lt_of_lt_of_le most enough)⟩

/-- **Polling always terminates within its budget**: at most `ceil(T / I) + 1`
reads, delays that fit the interval and the deadline and sum to at most the
timeout, and a `Timeout` only after the clock has shown it. -/
theorem polling_within_budget (reader : StatusReader World Error) (timer : PollTimer World Instant)
    (config : PollConfig) (world : World) (clock : World → Nat)
    (advances : ClockAdvances reader timer (timer.now world).1 (timer.now world).2 clock) :
    ∃ rounds result last,
      (∀ fuel, config.timeout ⌈/⌉ config.pollInterval + 1 ≤ fuel →
        waitUntilReady reader timer config fuel world = some (rounds, result, last)) ∧
      rounds.length ≤ config.timeout ⌈/⌉ config.pollInterval + 1 ∧
      (∀ world status elapsed delay, PollRound.waited world status elapsed delay ∈ rounds →
        0 < delay ∧ delay ≤ config.pollInterval ∧ elapsed + delay ≤ config.timeout) ∧
      (delays rounds).sum ≤ config.timeout ∧
      ∀ timeout polls status, result = .error (.timeout timeout polls status) →
        ∃ world elapsed, rounds.getLast? = some (.expired world status elapsed) ∧ config.timeout ≤ elapsed := by
  obtain ⟨earlier, last, ⟨polls, head⟩, ⟨result, after⟩, -, final, short, within, runs⟩ :=
    wait_returns advances config
  have quiet : last.delay = none := by
    obtain ⟨e, -, rfl, -⟩ | ⟨status, -, rfl, -⟩ | ⟨status, w, elapsed, -, -, -, -, -, rfl, -⟩ :=
      pollRound_done final <;> rfl
  have whole := within.snoc quiet
  refine ⟨earlier ++ [last], result, after, runs, ?_, whole.delays, whole.total, ?_⟩
  · rw [List.length_append, List.length_singleton]
    exact short
  · rintro timeout polls' status rfl
    obtain ⟨e, -, -, other⟩ | ⟨status, -, -, ⟨-, other⟩ | ⟨-, -, other⟩⟩ |
      ⟨status, w, elapsed, -, -, -, -, late, rfl, same⟩ := pollRound_done final
    · cases other
    · cases other
    · cases other
    · cases same
      exact ⟨head, elapsed, List.getLast?_concat, late⟩

end Budget

/-- The timer of the tests: its clock moves by the requested delays. -/
def fakePollTimer : PollTimer Nat Nat where
  now world := (world, world)
  elapsedSince world start := (world - start, world)
  delay world duration := world + duration

/-- A reader that returns the same status every time. -/
def constantReader (status : StatusSnapshot) : StatusReader Nat Unit where
  readStatus world := (.ok status, world)

theorem fake_clock_advances (status : StatusSnapshot) (start : Nat) :
    ClockAdvances (constantReader status) fakePollTimer start start (· - start) := by
  have late : ∀ world, Reached (constantReader status) fakePollTimer start start world → start ≤ world := by
    intro world reached
    induction reached with
    | initial => exact Nat.le_refl _
    | read _ ih => exact ih
    | elapsed _ ih => exact ih
    | delay duration _ ih => exact Nat.le_trans ih (Nat.le_add_right _ _)
  refine ⟨fun _ _ => Nat.le_refl _, fun _ _ => ⟨Nat.le_refl _, Nat.le_refl _⟩, ?_⟩
  intro world duration reached
  have after := late world reached
  show world - start + duration ≤ world + duration - start
  omega

/-- A busy device, five time units and an interval of two: four reads. -/
theorem polling_within_budget_busy :
    ∃ rounds result last,
      (∀ fuel, PollConfig.fiveByTwo.timeout ⌈/⌉ PollConfig.fiveByTwo.pollInterval + 1 ≤ fuel →
        waitUntilReady (constantReader ⟨2⟩) fakePollTimer .fiveByTwo fuel 0 =
          some (rounds, result, last)) ∧
      rounds.length ≤ PollConfig.fiveByTwo.timeout ⌈/⌉ PollConfig.fiveByTwo.pollInterval + 1 ∧
      (∀ world status elapsed delay, PollRound.waited world status elapsed delay ∈ rounds →
        0 < delay ∧ delay ≤ 2 ∧ elapsed + delay ≤ 5) ∧
      (delays rounds).sum ≤ 5 ∧
      ∀ timeout polls status, result = .error (.timeout timeout polls status) →
        ∃ world elapsed, rounds.getLast? = some (.expired world status elapsed) ∧ 5 ≤ elapsed :=
  polling_within_budget (constantReader ⟨2⟩) fakePollTimer .fiveByTwo 0 (· - 0)
    (fake_clock_advances ⟨2⟩ 0)

end GpuDriverLab
