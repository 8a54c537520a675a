import GpuDriverLab.Hardware
import GpuDriverLab.PollingSchedule

/-!
# What a wait returns, on any clock

The last round of a wait decides its result, and the rounds before it could not.
This asks nothing of the clock: it may stand still, jump or go back, and what a
wait returns is right whenever it returns. Over the register block the status
words are those that the hardware posts, in a call to the timer or in one to
`read_status`, before its load and after it.
-/

namespace GpuDriverLab
set_option autoImplicit false

section Outcome

variable {World Error Instant : Type}

/-- Nothing to report yet, and time left for a delay. -/
inductive GoesOn (config : PollConfig) : PollRound World Error → Prop where
  | waited (world : World) (status : StatusSnapshot) (elapsed : Nat) (healthy : status.fault = false)
      (busy : status.ready = false) (early : elapsed < config.timeout) :
      GoesOn config (.waited world status elapsed (min config.pollInterval (config.timeout - elapsed)))

/-- What the last of `n` rounds makes of the wait. -/
inductive Concludes (config : PollConfig) (n : Nat) :
    PollRound World Error → Except (PollError Error) StatusSnapshot → Prop where
  | source (world : World) (e : Error) : Concludes config n (.failed world e) (.error (.source e))
  | fault (world : World) (status : StatusSnapshot) (broken : status.fault = true) :
      Concludes config n (.decided world status) (.error (.fault status (pollCount n)))
  | ready (world : World) (status : StatusSnapshot) (healthy : status.fault = false) (up : status.ready = true) :
      Concludes config n (.decided world status) (.ok status)
  | timeout (world : World) (status : StatusSnapshot) (elapsed : Nat) (healthy : status.fault = false)
      (busy : status.ready = false) (late : config.timeout ≤ elapsed) :
      Concludes config n (.expired world status elapsed) (.error (.timeout config.timeout (pollCount n) status))

/-- The rounds of a wait and its result. -/
def Outcome (config : PollConfig) (rounds : List (PollRound World Error))
    (result : Except (PollError Error) StatusSnapshot) : Prop :=
  ∃ earlier last, rounds = earlier ++ [last] ∧ (∀ round ∈ earlier, GoesOn config round) ∧
    Concludes config rounds.length last result

variable {reader : StatusReader World Error} {timer : PollTimer World Instant} {config : PollConfig}
  {start : Instant}

/-- The loop invariant: rounds that went on, and their number, saturated. -/
structure Counted (config : PollConfig) (rounds : List (PollRound World Error)) (s : UInt64 × World) : Prop where
  goOn : ∀ round ∈ rounds, GoesOn config round
  polls : s.1 = pollCount rounds.length

theorem Counted.step {rounds : List (PollRound World Error)} {s s' : UInt64 × World} {round : PollRound World Error}
    (counted : Counted config rounds s) (h : pollRound reader timer config start s = .next round s') :
    Counted config (rounds ++ [round]) s' := by
  obtain ⟨polls, world⟩ := s
  obtain ⟨status, after, elapsed, later, -, healthy, busy, -, early, rfl, rfl⟩ := pollRound_next h
  constructor
  · intro round member
    obtain before | here := List.mem_append.mp member
    · exact counted.goOn round before
    · rw [List.mem_singleton.mp here]
      exact .waited world status elapsed healthy busy early
  · have same : polls = pollCount rounds.length := counted.polls
    rw [same, saturatingSucc_pollCount, List.length_append, List.length_singleton]

/-- The round that ends the wait concludes it. -/
theorem outcome_of_done {first s : UInt64 × World} {earlier : List (PollRound World Error)}
    {last : PollRound World Error} {result : Except (PollError Error) StatusSnapshot} {after : World}
    (zero : first.1 = 0) (went : Rounds (pollRound reader timer config start) first earlier s)
    (h : pollRound reader timer config start s = .done last (result, after)) :
    Outcome config (earlier ++ [last]) result := by
  obtain ⟨goOn, polls⟩ : Counted config earlier s :=
    went.history (I := Counted config) ⟨by simp, zero⟩ fun _ _ _ _ counted h => counted.step h
  obtain ⟨counter, world⟩ := s
  have count : saturatingSucc counter = pollCount (earlier ++ [last]).length := by
    rw [show counter = _ from polls, saturatingSucc_pollCount, List.length_append, List.length_singleton]
  refine ⟨earlier, last, rfl, goOn, ?_⟩
  obtain ⟨e, -, rfl, rfl⟩ | ⟨status, -, rfl, ⟨broken, rfl⟩ | ⟨healthy, up, rfl⟩⟩ |
    ⟨status, between, elapsed, -, healthy, busy, -, late, rfl, rfl⟩ := pollRound_done h
  · exact .source world e
  · rw [count]
    exact .fault world status broken
  · exact .ready world status healthy up
  · rw [count]
    exact .timeout world status elapsed healthy busy late

end Outcome

section Registers

variable {Hidden Instant : Type}

/-- What the hardware does in a call of `read_status`: before the volatile load, and between it and the return. -/
structure Meanwhile (Hidden : Type) where
  before : GpuRegisterBlock × Hidden → GpuRegisterBlock × Hidden
  after : GpuRegisterBlock × Hidden → GpuRegisterBlock × Hidden

/-- `impl StatusReader for GpuRegisterBlock`: the block beside whatever else there is. -/
def GpuRegisterBlock.statusReader (meanwhile : Meanwhile Hidden) :
    StatusReader (GpuRegisterBlock × Hidden) RegisterBlockError where
  readStatus world := ((meanwhile.before world).1.readStatus, meanwhile.after (meanwhile.before world))

/-- While time passes, only the hardware works on the block. -/
structure LeavesClientCells (meanwhile : Meanwhile Hidden) (timer : PollTimer (GpuRegisterBlock × Hidden) Instant) :
    Prop where
  before : ∀ world, (meanwhile.before world).1.AgreeOn ClientCell world.1
  after : ∀ world, (meanwhile.after world).1.AgreeOn ClientCell world.1
  now : ∀ world, (timer.now world).2.1.AgreeOn ClientCell world.1
  elapsed : ∀ world start, (timer.elapsedSince world start).2.1.AgreeOn ClientCell world.1
  delay : ∀ world duration, (timer.delay world duration).1.AgreeOn ClientCell world.1

variable {meanwhile : Meanwhile Hidden}

/-- The round read what the status cell held when it was loaded. -/
def Looked (meanwhile : Meanwhile Hidden) (round : PollRound (GpuRegisterBlock × Hidden) RegisterBlockError) : Prop :=
  ∃ raw, (meanwhile.before round.world).1.cells[Register.status.index]? = some raw ∧ round.read = .ok (.fromRaw raw)

theorem looked_of_read {round : PollRound (GpuRegisterBlock × Hidden) RegisterBlockError}
    (read : (meanwhile.before round.world).1.readStatus = round.read) : Looked meanwhile round := by
  obtain ⟨raw, run, cell⟩ := (meanwhile.before round.world).1.readStatus_returns
  exact ⟨raw, cell, by rw [← read, run]⟩

/-- The status that a result carries. -/
inductive Carries : Except (PollError RegisterBlockError) StatusSnapshot → StatusSnapshot → Prop where
  | ready (status : StatusSnapshot) : Carries (.ok status) status
  | fault (status : StatusSnapshot) (polls : UInt64) : Carries (.error (.fault status polls)) status
  | timeout (timeout : Nat) (polls : UInt64) (status : StatusSnapshot) :
      Carries (.error (.timeout timeout polls status)) status

/-- What a wait on the block leaves and returns. -/
structure Polled (meanwhile : Meanwhile Hidden) (config : PollConfig) (before after : GpuRegisterBlock)
    (rounds : List (PollRound (GpuRegisterBlock × Hidden) RegisterBlockError))
    (result : Except (PollError RegisterBlockError) StatusSnapshot) : Prop where
  outcome : Outcome config rounds result
  looked : ∀ round ∈ rounds, Looked meanwhile round
  /-- The wait writes nothing. -/
  kept : after.AgreeOn ClientCell before
  noSource : ∀ e, result ≠ .error (.source e)
  /-- The status returned is the word that the last round loaded. -/
  carried : ∀ status, Carries result status → ∃ round raw, rounds.getLast? = some round ∧
    (meanwhile.before round.world).1.cells[Register.status.index]? = some raw ∧ status = .fromRaw raw

variable {timer : PollTimer (GpuRegisterBlock × Hidden) Instant} {config : PollConfig} {start : Instant}

/-- A result carries what its last round read. -/
theorem Outcome.carries {rounds : List (PollRound (GpuRegisterBlock × Hidden) RegisterBlockError)}
    {result : Except (PollError RegisterBlockError) StatusSnapshot} (outcome : Outcome config rounds result)
    {status : StatusSnapshot} (carries : Carries result status) :
    ∃ last ∈ rounds, rounds.getLast? = some last ∧ last.read = .ok status := by
  obtain ⟨earlier, last, rfl, -, concludes⟩ := outcome
  refine ⟨last, List.mem_append_right _ (List.mem_singleton_self last), List.getLast?_concat, ?_⟩
  cases concludes with
  | source => cases carries
  | fault | ready | timeout =>
    cases carries
    rfl

/-- The word that the last round loaded. -/
theorem carried_of_looked {rounds : List (PollRound (GpuRegisterBlock × Hidden) RegisterBlockError)}
    {result : Except (PollError RegisterBlockError) StatusSnapshot} (outcome : Outcome config rounds result)
    (looked : ∀ round ∈ rounds, Looked meanwhile round) (status : StatusSnapshot) (carries : Carries result status) :
    ∃ round raw, rounds.getLast? = some round ∧
      (meanwhile.before round.world).1.cells[Register.status.index]? = some raw ∧ status = .fromRaw raw := by
  obtain ⟨last, member, ends, read⟩ := outcome.carries carries
  obtain ⟨raw, cell, saw⟩ := looked last member
  rw [read] at saw
  exact ⟨last, raw, ends, cell, Except.ok.inj saw⟩

theorem agree_trans {a b c : GpuRegisterBlock} (first : a.AgreeOn ClientCell b) (second : b.AgreeOn ClientCell c) :
    a.AgreeOn ClientCell c := fun i own => (first i own).trans (second i own)

/-- A read leaves the client's cells, whatever is posted around its load. -/
theorem LeavesClientCells.read (leaves : LeavesClientCells meanwhile timer) (world : GpuRegisterBlock × Hidden) :
    ((GpuRegisterBlock.statusReader meanwhile).readStatus world).2.1.AgreeOn ClientCell world.1 :=
  agree_trans (leaves.after _) (leaves.before world)

/-- Rounds that go on looked, and left the client's cells. -/
theorem looked_of_rounds (leaves : LeavesClientCells meanwhile timer)
    {rounds : List (PollRound (GpuRegisterBlock × Hidden) RegisterBlockError)}
    {s s' : UInt64 × GpuRegisterBlock × Hidden}
    (went : Rounds (pollRound (GpuRegisterBlock.statusReader meanwhile) timer config start) s rounds s') :
    (∀ round ∈ rounds, Looked meanwhile round) ∧ s'.2.1.AgreeOn ClientCell s.2.1 := by
  induction went with
  | nil => exact ⟨by simp, fun _ _ => rfl⟩
  | @snoc rounds a b round _ h ih =>
    obtain ⟨polls, world⟩ := a
    obtain ⟨looked, kept⟩ := ih
    obtain ⟨status, after, elapsed, later, read, -, -, measured, -, rfl, rfl⟩ := pollRound_next h
    constructor
    · intro round member
      obtain before | here := List.mem_append.mp member
      · exact looked round before
      · rw [List.mem_singleton.mp here]
        exact looked_of_read (Prod.mk.inj read).1
    · have reading := leaves.read world
      have looking := leaves.elapsed after start
      rw [read] at reading
      rw [measured] at looking
      exact agree_trans (leaves.delay later _) (agree_trans looking (agree_trans reading kept))

/-- The round that ends the wait. -/
theorem ended (leaves : LeavesClientCells meanwhile timer) {polls : UInt64} {head after : GpuRegisterBlock × Hidden}
    {last : PollRound (GpuRegisterBlock × Hidden) RegisterBlockError}
    {result : Except (PollError RegisterBlockError) StatusSnapshot}
    (final : pollRound (GpuRegisterBlock.statusReader meanwhile) timer config start (polls, head) =
      .done last (result, after)) :
    Looked meanwhile last ∧ after.1.AgreeOn ClientCell head.1 ∧ ∀ e, result ≠ .error (.source e) := by
  have reading := leaves.read head
  obtain ⟨e, read, -, -⟩ | ⟨status, read, rfl, verdict⟩ |
    ⟨status, between, elapsed, read, -, -, measured, -, rfl, rfl⟩ := pollRound_done final
  · obtain ⟨raw, run, -⟩ := (meanwhile.before head).1.readStatus_returns
    rw [(Prod.mk.inj read).1] at run
    cases run
  · rw [read] at reading
    refine ⟨looked_of_read (Prod.mk.inj read).1, reading, ?_⟩
    obtain ⟨-, rfl⟩ | ⟨-, -, rfl⟩ := verdict <;> simp
  · have looking := leaves.elapsed between start
    rw [read] at reading
    rw [measured] at looking
    exact ⟨looked_of_read (Prod.mk.inj read).1, agree_trans looking reading, by simp⟩

/-- **Waiting on the register block.** With a clock that advances, the wait returns within its
budget whatever the hardware posts meanwhile. It never fails to read, it writes nothing, and
the status it returns is the word that its last round loaded. -/
theorem registers_polled (meanwhile : Meanwhile Hidden) (timer : PollTimer (GpuRegisterBlock × Hidden) Instant)
    (leaves : LeavesClientCells meanwhile timer) (config : PollConfig) (world : GpuRegisterBlock × Hidden)
    (clock : GpuRegisterBlock × Hidden → Nat)
    (advances : ClockAdvances (GpuRegisterBlock.statusReader meanwhile) timer (timer.now world).1 (timer.now world).2
      clock) :
    ∃ rounds result after,
      (∀ fuel, config.maxPolls ≤ fuel →
        waitUntilReady (GpuRegisterBlock.statusReader meanwhile) timer config fuel world =
          some (rounds, result, after)) ∧
      rounds.length ≤ config.maxPolls ∧ Polled meanwhile config world.1 after.1 rounds result := by
  obtain ⟨earlier, last, ⟨polls, head⟩, ⟨result, after⟩, went, final, short, -, runs⟩ := wait_returns advances config
  obtain ⟨looked, kept⟩ := looked_of_rounds leaves went
  obtain ⟨lookedLast, keptLast, noSource⟩ := ended leaves final
  have outcome : Outcome config (earlier ++ [last]) result := outcome_of_done rfl went final
  have all : ∀ round ∈ earlier ++ [last], Looked meanwhile round := by
    intro round member
    obtain before | here := List.mem_append.mp member
    · exact looked round before
    · rw [List.mem_singleton.mp here]
      exact lookedLast
  refine ⟨earlier ++ [last], result, after, runs, ?_, outcome, all, ?_, noSource, carried_of_looked outcome all⟩
  · rw [List.length_append, List.length_singleton]
    exact short
  · exact agree_trans keptLast (agree_trans kept (leaves.now world))

/-- A device that comes up at time three, on the clock of the tests. -/
def bootingTimer : PollTimer (GpuRegisterBlock × Nat) Nat where
  now world := (world.2, world)
  elapsedSince world start := (world.2 - start, world)
  delay world duration :=
    (world.1.put Register.status.index (if world.2 + duration < 3 then 0b010 else 0b001), world.2 + duration)

/-- It takes up work as soon as its status was loaded. -/
def busyAfterwards : Meanwhile Nat where
  before world := world
  after world := (world.1.put Register.status.index 0b010, world.2)

/-- A post to the status cell leaves the client's cells. -/
theorem put_status_agrees (block : GpuRegisterBlock) (value : UInt32) :
    (block.put Register.status.index value).AgreeOn ClientCell block := by
  intro i own
  have other : Register.status.index ≠ i := by
    rintro rfl
    revert own
    decide
  exact (block.getElem?_put _ i _).trans (if_neg other)

theorem booting_leaves : LeavesClientCells busyAfterwards bootingTimer where
  before _ _ _ := rfl
  after world := put_status_agrees world.1 _
  now _ _ _ := rfl
  elapsed _ _ _ _ := rfl
  delay world _ := put_status_agrees world.1 _

theorem booting_advances (block : GpuRegisterBlock) :
    ClockAdvances (GpuRegisterBlock.statusReader busyAfterwards) bootingTimer 0 (block, 0) Prod.snd :=
  ⟨fun _ _ => Nat.le_refl _, fun _ _ => ⟨Nat.le_refl _, Nat.le_refl _⟩, fun _ _ _ => Nat.le_refl _⟩

def blankBlock : GpuRegisterBlock :=
  { mmio := { cells := List.replicate 5 0, registerCount := 5, valid := by decide }, sized := by decide }

/-- The wait returns `Ok` for a status that the block no longer shows. -/
theorem registers_polled_booting : ∃ rounds result after,
    (∀ fuel, PollConfig.fiveByTwo.maxPolls ≤ fuel →
      waitUntilReady (GpuRegisterBlock.statusReader busyAfterwards) bootingTimer .fiveByTwo fuel (blankBlock, 0) =
        some (rounds, result, after)) ∧
    rounds.length ≤ PollConfig.fiveByTwo.maxPolls ∧
    Polled busyAfterwards .fiveByTwo blankBlock after.1 rounds result ∧
    result = .ok (.fromRaw 0b001) ∧ after.1.readStatus = .ok (.fromRaw 0b010) := by
  obtain ⟨rounds, result, after, runs, few, polled⟩ := registers_polled busyAfterwards bootingTimer booting_leaves
    .fiveByTwo (blankBlock, 0) Prod.snd (booting_advances blankBlock)
  refine ⟨rounds, result, after, runs, few, polled, ?_⟩
  have run := runs 4 (by decide)
  cases run
  exact ⟨rfl, rfl⟩

end Registers

end GpuDriverLab
