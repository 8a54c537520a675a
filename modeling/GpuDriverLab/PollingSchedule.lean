import GpuDriverLab.PollingBudget

/-!
# The schedule of the reads

When only delays take time, the reads of a wait are at the multiples of the
poll interval and at the deadline, and the first decisive one is the last. The
invariant of the loop says where the clock stands after each round.
-/

namespace GpuDriverLab
set_option autoImplicit false

/-- The number of polls that a counter of 64 bits shows. -/
def pollCount (n : Nat) : UInt64 := .ofNat (min n (UInt64.size - 1))

theorem toNat_pollCount (n : Nat) : (pollCount n).toNat = min n (UInt64.size - 1) := by
  have below : min n (UInt64.size - 1) < UInt64.size := by
    have pos : 0 < UInt64.size := by decide
    omega
  rw [pollCount, UInt64.toNat_ofNat_of_lt' below]

theorem saturatingSucc_pollCount (n : Nat) : saturatingSucc (pollCount n) = pollCount (n + 1) := by
  apply UInt64.toNat_inj.mp
  rw [toNat_pollCount]
  unfold saturatingSucc
  rw [toNat_pollCount]
  split
  · rename_i room
    have one : (1 : UInt64).toNat = 1 := rfl
    rw [UInt64.toNat_add, toNat_pollCount, one, Nat.mod_eq_of_lt room]
    omega
  · rename_i full
    rw [UInt64.toNat_ofNat_of_lt' (by decide)]
    omega

section Schedule

variable {World Error Instant : Type}

/-- What the clock shows in a world, counted from `start`. -/
def PollTimer.shown (timer : PollTimer World Instant) (start : Instant) (world : World) : Nat :=
  (timer.elapsedSince world start).1

/-- Only `delay` moves the clock, by exactly what is asked. -/
structure OnlyDelaysMove (reader : StatusReader World Error) (timer : PollTimer World Instant)
    (start : Instant) (initial : World) : Prop where
  zero : timer.shown start initial = 0
  read : ∀ world, Reached reader timer start initial world →
    timer.shown start (reader.readStatus world).2 = timer.shown start world
  elapsed : ∀ world, Reached reader timer start initial world →
    timer.shown start (timer.elapsedSince world start).2 = timer.shown start world
  delay : ∀ world duration, Reached reader timer start initial world →
    timer.shown start (timer.delay world duration) = timer.shown start world + duration

/-- The reader returns `script 0`, `script 1`, and so on; `count` is the number of reads so far. -/
structure Scripted (reader : StatusReader World Error) (timer : PollTimer World Instant) (start : Instant)
    (initial : World) (script : Nat → Except Error StatusSnapshot) (count : World → Nat) : Prop where
  zero : count initial = 0
  read : ∀ world, Reached reader timer start initial world →
    (reader.readStatus world).1 = script (count world) ∧
    count (reader.readStatus world).2 = count world + 1
  elapsed : ∀ world, Reached reader timer start initial world →
    count (timer.elapsedSince world start).2 = count world
  delay : ∀ world duration, Reached reader timer start initial world →
    count (timer.delay world duration) = count world

/-- What a decisive read makes of the wait; a fault comes before everything else. -/
def verdict (read : Except Error StatusSnapshot) (polls : UInt64) : Except (PollError Error) StatusSnapshot :=
  match read with
  | .error e => .error (.source e)
  | .ok status => if status.fault then .error (.fault status polls) else .ok status

variable {reader : StatusReader World Error} {timer : PollTimer World Instant} {config : PollConfig}
  {start : Instant} {initial : World} {script : Nat → Except Error StatusSnapshot} {count : World → Nat}

theorem OnlyDelaysMove.advances (exact : OnlyDelaysMove reader timer start initial) :
    ClockAdvances reader timer start initial (timer.shown start) where
  read := fun world reached => Nat.le_of_eq (exact.read world reached).symm
  elapsed := fun world reached => ⟨Nat.le_refl _, Nat.le_of_eq (exact.elapsed world reached).symm⟩
  delay := fun world duration reached => Nat.le_of_eq (exact.delay world duration reached).symm

/-- A round is the read that the schedule has at its place. -/
def OnTime (timer : PollTimer World Instant) (config : PollConfig) (start : Instant)
    (script : Nat → Except Error StatusSnapshot) (k : Nat) (round : PollRound World Error) : Prop :=
  round.read = script k ∧ timer.shown start round.world = min (k * config.pollInterval) config.timeout

/-- The loop invariant: after `n` rounds, `n` undecided reads on time, and the
clock where the next one is due. -/
structure OnSchedule (reader : StatusReader World Error) (timer : PollTimer World Instant) (config : PollConfig)
    (start : Instant) (initial : World) (script : Nat → Except Error StatusSnapshot) (count : World → Nat)
    (rounds : List (PollRound World Error)) (s : UInt64 × World) : Prop where
  reached : Reached reader timer start initial s.2
  polls : s.1 = pollCount rounds.length
  reads : count s.2 = rounds.length
  clock : timer.shown start s.2 = min (rounds.length * config.pollInterval) config.timeout
  onTime : ∀ k round, rounds[k]? = some round → OnTime timer config start script k round
  undecided : ∀ k, k < rounds.length → Undecided (script k)
  total : (delays rounds).sum = timer.shown start s.2
  each : (delays rounds).length = rounds.length

/-- The next read of a wait that is on schedule. -/
theorem OnSchedule.next_read (scripted : Scripted reader timer start initial script count)
    {rounds : List (PollRound World Error)} {polls : UInt64} {world : World}
    (on : OnSchedule reader timer config start initial script count rounds (polls, world)) :
    (reader.readStatus world).1 = script rounds.length := by
  rw [(scripted.read world on.reached).1]
  exact congrArg script on.reads

/-- One more round on time. -/
theorem onTime_snoc {rounds : List (PollRound World Error)} {last : PollRound World Error}
    (earlier : ∀ k round, rounds[k]? = some round → OnTime timer config start script k round)
    (here : OnTime timer config start script rounds.length last) :
    ∀ k round, (rounds ++ [last])[k]? = some round → OnTime timer config start script k round := by
  intro k round member
  rw [List.getElem?_append] at member
  split at member
  · exact earlier k round member
  · rename_i past
    obtain ⟨zero, rfl⟩ : k - rounds.length = 0 ∧ round = last := by
      cases gap : k - rounds.length with
      | zero => simpa [gap, eq_comm] using member
      | succ n => simp [gap] at member
    have same : k = rounds.length := by omega
    rw [same]
    exact here

/-- A round that goes on keeps the schedule. -/
theorem OnSchedule.step (exact : OnlyDelaysMove reader timer start initial)
    (scripted : Scripted reader timer start initial script count) {rounds : List (PollRound World Error)}
    {s s' : UInt64 × World} {round : PollRound World Error}
    (on : OnSchedule reader timer config start initial script count rounds s)
    (h : pollRound reader timer config start s = .next round s') :
    OnSchedule reader timer config start initial script count (rounds ++ [round]) s' := by
  obtain ⟨polls, world⟩ := s
  have due := on.next_read scripted
  have atHead : Reached reader timer start initial world := on.reached
  have clock : timer.shown start world = min (rounds.length * config.pollInterval) config.timeout := on.clock
  have total : (delays rounds).sum = timer.shown start world := on.total
  have reads : count world = rounds.length := on.reads
  obtain ⟨status, after, elapsed, later, read, sound, busy, measured, early, rfl, rfl⟩ := pollRound_next h
  have atRead := atHead.after_read read
  have atLook := atRead.after_look measured
  have still : timer.shown start after = timer.shown start world := by
    have same := exact.read world atHead
    rwa [read] at same
  have shown : elapsed = timer.shown start world := by
    rw [← still, PollTimer.shown, measured]
  have looked : timer.shown start later = timer.shown start world := by
    have same := exact.elapsed after atRead
    rwa [measured, still] at same
  have moved := exact.delay later (min config.pollInterval (config.timeout - elapsed)) atLook
  have counted : count later = rounds.length + 1 := by
    have one := (scripted.read world atHead).2
    have same := scripted.elapsed after atRead
    rw [read] at one
    rw [measured] at same
    rw [same, one, reads]
  rw [read] at due
  have length : (rounds ++ [PollRound.waited world status elapsed
      (min config.pollInterval (config.timeout - elapsed))]).length = rounds.length + 1 := by simp
  have wait : delays (rounds ++ [PollRound.waited world status elapsed
      (min config.pollInterval (config.timeout - elapsed))]) =
      delays rounds ++ [min config.pollInterval (config.timeout - elapsed)] := delays_snoc rounds _
  refine ⟨atLook.delay _, ?_, ?_, ?_, ?_, ?_, ?_, ?_⟩
  · rw [length, ← saturatingSucc_pollCount, ← on.polls]
  · rw [length]
    exact (scripted.delay later _ atLook).trans counted
  · rw [length, Nat.succ_mul]
    show timer.shown start (timer.delay later _) = _
    omega
  · exact onTime_snoc on.onTime ⟨due, clock⟩
  · intro k below
    rw [length] at below
    obtain before | rfl : k < rounds.length ∨ k = rounds.length := by omega
    · exact on.undecided k before
    · exact ⟨status, due.symm, sound, busy⟩
  · rw [wait, List.sum_append, List.sum_singleton, total]
    show _ = timer.shown start (timer.delay later _)
    omega
  · rw [wait, List.length_append, List.length_append, on.each]
    rfl

theorem OnSchedule.of_rounds (exact : OnlyDelaysMove reader timer start initial)
    (scripted : Scripted reader timer start initial script count) {rounds : List (PollRound World Error)}
    {s : UInt64 × World} (h : Rounds (pollRound reader timer config start) (0, initial) rounds s) :
    OnSchedule reader timer config start initial script count rounds s := by
  refine h.history ?_ fun _ _ _ _ on step => on.step exact scripted step
  refine ⟨.initial, rfl, scripted.zero, ?_, by simp, by simp, exact.zero.symm, rfl⟩
  rw [List.length_nil, Nat.zero_mul, Nat.zero_min]
  exact exact.zero

/-- The deadline is reached after `ceil(T / I)` intervals and not before. -/
theorem rounds_at_deadline {config : PollConfig} {n : Nat} (late : config.timeout ≤ n * config.pollInterval)
    (short : n < config.maxPolls) : n = config.timeout ⌈/⌉ config.pollInterval := by
  apply Nat.le_antisymm (Nat.le_of_lt_succ short)
  rw [ceilDiv_le_iff_le_mul config.interval_pos, Nat.mul_comm]
  exact late

/-- The rounds and the result that the schedule prescribes: each read on time,
up to the first decisive one among the first `ceil(T / I) + 1`, or all of these
and then a timeout with the last status, after delays that sum to `T`. -/
def FollowsSchedule (timer : PollTimer World Instant) (config : PollConfig) (start : Instant)
    (script : Nat → Except Error StatusSnapshot) (rounds : List (PollRound World Error))
    (result : Except (PollError Error) StatusSnapshot) : Prop :=
  (∀ k round, rounds[k]? = some round → round.read = script k ∧
    timer.shown start round.world = min (k * config.pollInterval) config.timeout) ∧
  ((∃ k, k < config.timeout ⌈/⌉ config.pollInterval + 1 ∧ (∀ j, j < k → Undecided (script j)) ∧
      ¬ Undecided (script k) ∧ rounds.length = k + 1 ∧ (delays rounds).length = k ∧
      result = verdict (script k) (pollCount (k + 1))) ∨
    ((∀ k, k < config.timeout ⌈/⌉ config.pollInterval + 1 → Undecided (script k)) ∧
      rounds.length = config.timeout ⌈/⌉ config.pollInterval + 1 ∧ (delays rounds).sum = config.timeout ∧
      ∃ status, script (config.timeout ⌈/⌉ config.pollInterval) = .ok status ∧
        result = .error (.timeout config.timeout
          (pollCount (config.timeout ⌈/⌉ config.pollInterval + 1)) status)))

/-- A decisive read ends a wait that is on schedule as prescribed. -/
theorem OnSchedule.decided {rounds : List (PollRound World Error)} {s : UInt64 × World}
    {last : PollRound World Error} {result : Except (PollError Error) StatusSnapshot}
    (on : OnSchedule reader timer config start initial script count rounds s)
    (here : OnTime timer config start script rounds.length last) (short : rounds.length < config.maxPolls)
    (decisive : ¬ Undecided (script rounds.length)) (quiet : last.delay = none)
    (outcome : result = verdict (script rounds.length) (pollCount (rounds.length + 1))) :
    FollowsSchedule timer config start script (rounds ++ [last]) result := by
  refine ⟨onTime_snoc on.onTime here,
    Or.inl ⟨rounds.length, short, on.undecided, decisive, by simp, ?_, outcome⟩⟩
  rw [delays_quiet rounds quiet]
  exact on.each

/-- An undecided read at the deadline ends it as prescribed too. -/
theorem OnSchedule.expired {rounds : List (PollRound World Error)} {s : UInt64 × World}
    {last : PollRound World Error} {status : StatusSnapshot}
    (on : OnSchedule reader timer config start initial script count rounds s)
    (here : OnTime timer config start script rounds.length last) (short : rounds.length < config.maxPolls)
    (late : config.timeout ≤ timer.shown start s.2) (quiet : last.delay = none)
    (read : script rounds.length = .ok status) (undecided : Undecided (script rounds.length)) :
    FollowsSchedule timer config start script (rounds ++ [last])
      (.error (.timeout config.timeout (pollCount (rounds.length + 1)) status)) := by
  have clock := on.clock
  have deadline : rounds.length = config.timeout ⌈/⌉ config.pollInterval :=
    rounds_at_deadline (by omega) short
  refine ⟨onTime_snoc on.onTime here, Or.inr ⟨?_, ?_, ?_, status, ?_, ?_⟩⟩
  · intro k below
    obtain before | rfl : k < rounds.length ∨ k = rounds.length := by omega
    · exact on.undecided k before
    · exact undecided
  · rw [← deadline, List.length_append, List.length_singleton]
  · rw [delays_quiet rounds quiet, on.total]
    omega
  · rw [← deadline, read]
  · rw [← deadline]

/-- **Polling follows its reference schedule**, for every script of reads and
every timer that only delays move. -/
theorem polling_follows_schedule (reader : StatusReader World Error) (timer : PollTimer World Instant)
    (config : PollConfig) (world : World) (script : Nat → Except Error StatusSnapshot) (count : World → Nat)
    (exact : OnlyDelaysMove reader timer (timer.now world).1 (timer.now world).2)
    (scripted : Scripted reader timer (timer.now world).1 (timer.now world).2 script count) :
    ∃ rounds result last,
      (∀ fuel, config.timeout ⌈/⌉ config.pollInterval + 1 ≤ fuel →
        waitUntilReady reader timer config fuel world = some (rounds, result, last)) ∧
      FollowsSchedule timer config (timer.now world).1 script rounds result := by
  obtain ⟨earlier, last, ⟨polls, head⟩, ⟨result, after⟩, rounds, final, short, -, runs⟩ :=
    wait_returns exact.advances config
  have on := OnSchedule.of_rounds exact scripted rounds
  have due := on.next_read scripted
  have clock : timer.shown (timer.now world).1 head = min (earlier.length * config.pollInterval) config.timeout :=
    on.clock
  have counted : saturatingSucc polls = pollCount (earlier.length + 1) := by
    rw [← saturatingSucc_pollCount, ← on.polls]
  refine ⟨earlier ++ [last], result, after, runs, ?_⟩
  obtain ⟨e, read, rfl, rfl⟩ | ⟨status, read, rfl, outcome⟩ |
    ⟨status, w, elapsed, read, sound, busy, measured, late, rfl, rfl⟩ := pollRound_done final
  · rw [read] at due
    have decisive : ¬ Undecided (script earlier.length) := by
      rintro ⟨status, ok, -⟩
      rw [← due] at ok
      cases ok
    refine on.decided ⟨due, clock⟩ short decisive rfl ?_
    rw [← due]
    rfl
  · rw [read] at due
    have decisive : ¬ Undecided (script earlier.length) := by
      rintro ⟨status', ok, sound, busy⟩
      rw [← due] at ok
      cases ok
      obtain ⟨broken, -⟩ | ⟨-, up, -⟩ := outcome
      · rw [broken] at sound
        cases sound
      · rw [up] at busy
        cases busy
    refine on.decided ⟨due, clock⟩ short decisive rfl ?_
    rw [← due, ← counted]
    obtain ⟨broken, rfl⟩ | ⟨sound, -, rfl⟩ := outcome
    · simp [verdict, broken]
    · simp [verdict, sound]
  · rw [read] at due
    have still : timer.shown (timer.now world).1 w = timer.shown (timer.now world).1 head := by
      have same := exact.read head on.reached
      rwa [read] at same
    have shown : elapsed = timer.shown (timer.now world).1 head := by
      rw [← still, PollTimer.shown, measured]
    rw [counted]
    rw [shown] at late
    exact on.expired ⟨due, clock⟩ short late rfl due.symm ⟨status, due.symm, sound, busy⟩

end Schedule

/-- A clock, and the number of reads so far. -/
structure ScriptedWorld where
  clock : Nat
  reads : Nat

/-- The timer and the reader of the tests, over a script that may be endless. -/
def scriptedTimer : PollTimer ScriptedWorld Nat where
  now world := (world.clock, world)
  elapsedSince world start := (world.clock - start, world)
  delay world duration := { world with clock := world.clock + duration }

def scriptedReader {Error : Type} (script : Nat → Except Error StatusSnapshot) :
    StatusReader ScriptedWorld Error where
  readStatus world := (script world.reads, { world with reads := world.reads + 1 })

theorem scripted_exact {Error : Type} (script : Nat → Except Error StatusSnapshot) :
    OnlyDelaysMove (scriptedReader script) scriptedTimer 0 ⟨0, 0⟩ where
  zero := rfl
  read := fun _ _ => rfl
  elapsed := fun _ _ => rfl
  delay := fun _ _ _ => rfl

theorem scripted_scripted {Error : Type} (script : Nat → Except Error StatusSnapshot) :
    Scripted (scriptedReader script) scriptedTimer 0 ⟨0, 0⟩ script ScriptedWorld.reads where
  zero := rfl
  read := fun _ _ => ⟨rfl, rfl⟩
  elapsed := fun _ _ => rfl
  delay := fun _ _ _ => rfl

/-- Busy twice, then ready and faulted at once. -/
def faultAtThird (k : Nat) : Except Unit StatusSnapshot := .ok (if k < 2 then ⟨0b010⟩ else ⟨0b101⟩)

/-- Two busy reads, then a fault that is also ready: it decides at the third read. -/
theorem polling_follows_schedule_fault :
    ∃ rounds result last,
      (∀ fuel, PollConfig.fiveByTwo.timeout ⌈/⌉ PollConfig.fiveByTwo.pollInterval + 1 ≤ fuel →
        waitUntilReady (scriptedReader faultAtThird) scriptedTimer
          .fiveByTwo fuel ⟨0, 0⟩ = some (rounds, result, last)) ∧
      FollowsSchedule scriptedTimer .fiveByTwo 0 faultAtThird rounds result :=
  polling_follows_schedule (scriptedReader faultAtThird) scriptedTimer
    .fiveByTwo ⟨0, 0⟩ faultAtThird ScriptedWorld.reads
    (scripted_exact _) (scripted_scripted _)

end GpuDriverLab
