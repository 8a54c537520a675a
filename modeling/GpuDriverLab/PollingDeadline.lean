import GpuDriverLab.PollingBudget

/-!
# The deadline and the last status

The loop samples the status first and looks at the clock afterwards, so time
that passes in between is charged to a status that is already old. Here every
call takes its own time, and the device is a function of time. A device that is
ready in time is reported as timed out exactly if a look at the clock finds the
deadline reached before any round has sampled the device ready.
-/

namespace GpuDriverLab
set_option autoImplicit false

/-- How long the calls of each round take: a read before and after its sample, a
look at the clock before and after it is read, a delay beyond what was asked. -/
structure CallTimes where
  nowAfter : Nat
  readBefore : Nat → Nat
  readAfter : Nat → Nat
  lookBefore : Nat → Nat
  lookAfter : Nat → Nat
  overshoot : Nat → Nat

/-- The time, and the number of the round. -/
structure TimedWorld where
  time : Nat
  round : Nat
deriving DecidableEq, Repr

namespace CallTimes

variable (calls : CallTimes)

/-- A device whose status is a function of time, read by calls that take time. -/
def reader (device : Nat → StatusSnapshot) : StatusReader TimedWorld Empty where
  readStatus world := (.ok (device (world.time + calls.readBefore world.round)),
    { world with time := world.time + calls.readBefore world.round + calls.readAfter world.round })

/-- A clock that never goes back. -/
def timer : PollTimer TimedWorld Nat where
  now world := (world.time, { world with time := world.time + calls.nowAfter })
  elapsedSince world start := (world.time + calls.lookBefore world.round - start,
    { world with time := world.time + calls.lookBefore world.round + calls.lookAfter world.round })
  delay world duration :=
    { time := world.time + duration + calls.overshoot world.round, round := world.round + 1 }

/-- When the status of a round that begins at `head` is sampled. -/
def sampled (round head : Nat) : Nat := head + calls.readBefore round

/-- When the clock is read in a round that begins at `head`. -/
def looked (round head : Nat) : Nat := calls.sampled round head + calls.readAfter round + calls.lookBefore round

variable (config : PollConfig) (origin : Nat)

/-- When the rounds begin, if no status ever ends the wait and `now` was taken at `origin`. -/
def headAt : Nat → Nat
  | 0 => origin + calls.nowAfter
  | round + 1 =>
    let clock := calls.looked round (headAt round)
    clock + calls.lookAfter round + min config.pollInterval (config.timeout - (clock - origin)) +
      calls.overshoot round

def sampledAt (round : Nat) : Nat := calls.sampled round (calls.headAt config origin round)

def lookedAt (round : Nat) : Nat := calls.looked round (calls.headAt config origin round)

variable (device : Nat → StatusSnapshot)

/-- Some round samples the device ready, and every round before it looks at the clock before the deadline. -/
def SeenInTime : Prop :=
  ∃ round, (device (calls.sampledAt config origin round)).ready = true ∧
    ∀ earlier < round, calls.lookedAt config origin earlier < origin + config.timeout

/-- The round that finds the deadline reached: nothing was decided up to it, and
it is the first to look at the clock at the deadline or later. -/
structure TimesOutAt (round : Nat) : Prop where
  early : ∀ earlier < round, calls.lookedAt config origin earlier < origin + config.timeout
  undecided : ∀ upto ≤ round, (device (calls.sampledAt config origin upto)).fault = false ∧
    (device (calls.sampledAt config origin upto)).ready = false
  late : origin + config.timeout ≤ calls.lookedAt config origin round

/-- The round that finds the deadline reached did not sample its status before it. -/
def FreshAtTimeout : Prop :=
  ∀ round, calls.TimesOutAt config origin device round → origin + config.timeout ≤ calls.sampledAt config origin round

theorem sampledAt_le_lookedAt (round : Nat) : calls.sampledAt config origin round ≤ calls.lookedAt config origin round := by
  show calls.sampled round _ ≤ calls.sampled round _ + _ + _
  omega

theorem lookedAt_le_headAt (round : Nat) :
    calls.lookedAt config origin round ≤ calls.headAt config origin (round + 1) := by
  show _ ≤ calls.looked round _ + _ + _ + _
  show calls.looked round (calls.headAt config origin round) ≤ _
  omega

/-- Everything in an earlier round is before everything in a later one. -/
theorem lookedAt_le_sampledAt {round later : Nat} (before : round < later) :
    calls.lookedAt config origin round ≤ calls.sampledAt config origin later := by
  induction later with
  | zero => exact absurd before (Nat.not_lt_zero _)
  | succ later ih =>
    have next : calls.lookedAt config origin later ≤ calls.sampledAt config origin (later + 1) :=
      Nat.le_trans (calls.lookedAt_le_headAt config origin later) (Nat.le_add_right _ _)
    obtain earlier | rfl := Nat.lt_or_eq_of_le (Nat.le_of_lt_succ before)
    · exact Nat.le_trans (ih earlier) (Nat.le_trans (calls.sampledAt_le_lookedAt config origin later) next)
    · exact next

theorem origin_le_lookedAt (round : Nat) : origin ≤ calls.lookedAt config origin round := by
  induction round with
  | zero =>
    show origin ≤ origin + calls.nowAfter + _ + _ + _
    omega
  | succ round ih =>
    have later := calls.lookedAt_le_sampledAt config origin (Nat.lt_succ_self round)
    exact Nat.le_trans ih (Nat.le_trans later (calls.sampledAt_le_lookedAt config origin _))

/-- The time since `origin` is a clock that never goes back. -/
theorem clock_advances :
    ClockAdvances (calls.reader device) calls.timer origin (calls.timer.now ⟨origin, 0⟩).2
      (fun world => world.time - origin) := by
  have late : ∀ world, Reached (calls.reader device) calls.timer origin (calls.timer.now ⟨origin, 0⟩).2 world →
      origin ≤ world.time := by
    intro world reached
    induction reached with
    | initial => exact Nat.le_add_right _ _
    | read _ ih => exact Nat.le_trans ih (Nat.le_trans (Nat.le_add_right _ _) (Nat.le_add_right _ _))
    | elapsed _ ih => exact Nat.le_trans ih (Nat.le_trans (Nat.le_add_right _ _) (Nat.le_add_right _ _))
    | delay duration _ ih => exact Nat.le_trans ih (Nat.le_trans (Nat.le_add_right _ _) (Nat.le_add_right _ _))
  refine ⟨?_, ?_, ?_⟩
  · intro world _
    show world.time - origin ≤ world.time + _ + _ - origin
    omega
  · intro world _
    show world.time - origin ≤ world.time + _ - origin ∧ world.time + _ - origin ≤ world.time + _ + _ - origin
    omega
  · intro world duration reached
    have after := late world reached
    show world.time - origin + duration ≤ world.time + duration + _ - origin
    omega

variable {calls config origin device}

/-- The loop invariant: the rounds so far ran as computed, looked at the clock
before the deadline, and saw undecided statuses. -/
structure OnTrack (calls : CallTimes) (config : PollConfig) (origin : Nat) (device : Nat → StatusSnapshot)
    (rounds : List (PollRound TimedWorld Empty)) (s : UInt64 × TimedWorld) : Prop where
  world : s.2 = ⟨calls.headAt config origin rounds.length, rounds.length⟩
  early : ∀ round < rounds.length, calls.lookedAt config origin round < origin + config.timeout
  undecided : ∀ round < rounds.length, (device (calls.sampledAt config origin round)).fault = false ∧
    (device (calls.sampledAt config origin round)).ready = false

/-- The read of the next round, and the look at the clock after it. -/
theorem OnTrack.next {rounds : List (PollRound TimedWorld Empty)} {polls : UInt64} {world : TimedWorld}
    (on : OnTrack calls config origin device rounds (polls, world)) :
    ((calls.reader device).readStatus world).1 = .ok (device (calls.sampledAt config origin rounds.length)) ∧
    (calls.timer.elapsedSince ((calls.reader device).readStatus world).2 origin).1 =
      calls.lookedAt config origin rounds.length - origin ∧
    (calls.timer.elapsedSince ((calls.reader device).readStatus world).2 origin).2 =
      ⟨calls.lookedAt config origin rounds.length + calls.lookAfter rounds.length, rounds.length⟩ := by
  have here : world = ⟨calls.headAt config origin rounds.length, rounds.length⟩ := on.world
  subst here
  exact ⟨rfl, rfl, rfl⟩

theorem OnTrack.step {rounds : List (PollRound TimedWorld Empty)} {s s' : UInt64 × TimedWorld}
    {round : PollRound TimedWorld Empty} (on : OnTrack calls config origin device rounds s)
    (h : pollRound (calls.reader device) calls.timer config origin s = .next round s') :
    OnTrack calls config origin device (rounds ++ [round]) s' := by
  obtain ⟨polls, world⟩ := s
  obtain ⟨sample, look, after⟩ := on.next
  obtain ⟨status, w, elapsed, later, read, sound, busy, measured, early, rfl, rfl⟩ := pollRound_next h
  rw [read] at sample
  rw [read, measured] at look after
  replace sample : status = device (calls.sampledAt config origin rounds.length) := Except.ok.inj sample
  replace look : elapsed = calls.lookedAt config origin rounds.length - origin := look
  replace after : later = ⟨calls.lookedAt config origin rounds.length + calls.lookAfter rounds.length,
    rounds.length⟩ := after
  subst sample look after
  have started := calls.origin_le_lookedAt config origin rounds.length
  refine ⟨?_, ?_, ?_⟩
  · simp only [List.length_append, List.length_singleton]
    rfl
  · intro round below
    rw [List.length_append, List.length_singleton] at below
    obtain before | rfl : round < rounds.length ∨ round = rounds.length := by omega
    · exact on.early round before
    · omega
  · intro round below
    rw [List.length_append, List.length_singleton] at below
    obtain before | rfl : round < rounds.length ∨ round = rounds.length := by omega
    · exact on.undecided round before
    · exact ⟨sound, busy⟩

/-- The run of a wait: the rounds before the last one are on track. -/
theorem onTrack_of_rounds {rounds : List (PollRound TimedWorld Empty)} {s : UInt64 × TimedWorld}
    (h : Rounds (pollRound (calls.reader device) calls.timer config origin)
      (0, (calls.timer.now ⟨origin, 0⟩).2) rounds s) :
    OnTrack calls config origin device rounds s :=
  h.history ⟨rfl, by simp, by simp⟩ fun _ _ _ _ on step => on.step step

/-- How the last round ends a wait: a fault, a ready device, or the deadline. -/
theorem OnTrack.final {earlier : List (PollRound TimedWorld Empty)} {polls : UInt64} {world last : TimedWorld}
    {label : PollRound TimedWorld Empty} {result : Except (PollError Empty) StatusSnapshot}
    (on : OnTrack calls config origin device earlier (polls, world))
    (h : pollRound (calls.reader device) calls.timer config origin (polls, world) = .done label (result, last)) :
    (device (calls.sampledAt config origin earlier.length)).fault = true ∧
        result = .error (.fault (device (calls.sampledAt config origin earlier.length)) (saturatingSucc polls)) ∨
    (device (calls.sampledAt config origin earlier.length)).ready = true ∧
        result = .ok (device (calls.sampledAt config origin earlier.length)) ∨
    calls.TimesOutAt config origin device earlier.length ∧
        result = .error (.timeout config.timeout (saturatingSucc polls)
          (device (calls.sampledAt config origin earlier.length))) ∧
        ∃ elapsed, label = .expired ⟨calls.headAt config origin earlier.length, earlier.length⟩
          (device (calls.sampledAt config origin earlier.length)) elapsed := by
  obtain ⟨sample, look, -⟩ := on.next
  have here : world = ⟨calls.headAt config origin earlier.length, earlier.length⟩ := on.world
  obtain ⟨e, read, -⟩ | ⟨status, read, -, outcome⟩ |
    ⟨status, w, elapsed, read, sound, busy, measured, late, rfl, rfl⟩ := pollRound_done h
  · exact e.elim
  · rw [read] at sample
    cases sample
    obtain ⟨broken, rfl⟩ | ⟨-, up, rfl⟩ := outcome
    · exact Or.inl ⟨broken, rfl⟩
    · exact Or.inr (Or.inl ⟨up, rfl⟩)
  · rw [read] at sample look
    rw [measured] at look
    cases sample
    replace look : elapsed = calls.lookedAt config origin earlier.length - origin := look
    have started := calls.origin_le_lookedAt config origin earlier.length
    refine Or.inr (Or.inr ⟨⟨on.early, ?_, by omega⟩, rfl, elapsed, by rw [here]⟩)
    intro upto reached
    obtain before | rfl := Nat.lt_or_eq_of_le reached
    · exact on.undecided upto before
    · exact ⟨sound, busy⟩

/-- A timeout comes from the round that finds the deadline reached, and reports what that round had sampled. -/
theorem timed_out {fuel timeout : Nat} {rounds : List (PollRound TimedWorld Empty)} {polls : UInt64}
    {status : StatusSnapshot} {last : TimedWorld}
    (h : waitUntilReady (calls.reader device) calls.timer config fuel ⟨origin, 0⟩ =
      some (rounds, .error (.timeout timeout polls status), last)) :
    ∃ round elapsed, calls.TimesOutAt config origin device round ∧
      rounds.getLast? = some (.expired ⟨calls.headAt config origin round, round⟩ status elapsed) ∧
      status = device (calls.sampledAt config origin round) := by
  obtain ⟨earlier, label, ⟨polls', world⟩, rfl, -, run, final⟩ := loop_eq_some.mp h
  obtain ⟨-, other⟩ | ⟨-, other⟩ | ⟨expires, same, elapsed, rfl⟩ := (onTrack_of_rounds run).final final
  · cases other
  · cases other
  · cases same
    exact ⟨earlier.length, elapsed, expires, List.getLast?_concat, rfl⟩

/-- A round that the deadline has not cut off comes no later than the one that finds it reached. -/
theorem TimesOutAt.le_of_early {round other : Nat} (expires : calls.TimesOutAt config origin device round)
    (early : ∀ earlier < other, calls.lookedAt config origin earlier < origin + config.timeout) : other ≤ round := by
  apply Nat.le_of_not_lt
  intro past
  exact absurd (early round past) (Nat.not_lt.mpr expires.late)

/-- Only one round can be the first to find the deadline reached. -/
theorem TimesOutAt.unique {round other : Nat} (here : calls.TimesOutAt config origin device round)
    (there : calls.TimesOutAt config origin device other) : round = other :=
  Nat.le_antisymm (there.le_of_early here.early) (here.le_of_early there.early)

/-- A round sees the device ready in time, or a fault, or the wait times out at a round. -/
theorem returns (calls : CallTimes) (config : PollConfig) (origin : Nat) (device : Nat → StatusSnapshot) :
    calls.SeenInTime config origin device ∨
    (∃ round, (device (calls.sampledAt config origin round)).fault = true ∧
      ∀ earlier < round, calls.lookedAt config origin earlier < origin + config.timeout) ∨
    ∃ round, calls.TimesOutAt config origin device round ∧
      ∃ rounds polls last elapsed,
        waitUntilReady (calls.reader device) calls.timer config config.maxPolls ⟨origin, 0⟩ =
          some (rounds, .error (.timeout config.timeout polls (device (calls.sampledAt config origin round))), last) ∧
        rounds.getLast? = some (.expired ⟨calls.headAt config origin round, round⟩
          (device (calls.sampledAt config origin round)) elapsed) := by
  obtain ⟨earlier, label, ⟨polls, world⟩, ⟨result, last⟩, run, final, -, -, runs⟩ :=
    wait_returns (calls.clock_advances origin device) config
  have on := onTrack_of_rounds run
  obtain ⟨broken, -⟩ | ⟨up, -⟩ | ⟨expires, rfl, elapsed, rfl⟩ := on.final final
  · exact Or.inr (Or.inl ⟨earlier.length, broken, on.early⟩)
  · exact Or.inl ⟨earlier.length, up, on.early⟩
  · exact Or.inr (Or.inr ⟨earlier.length, expires, _, _, _, elapsed, runs config.maxPolls (Nat.le_refl _),
      List.getLast?_concat⟩)

/-- A round at which the wait can time out is one at which it does. -/
theorem times_out {round : Nat} (expires : calls.TimesOutAt config origin device round) :
    ∃ rounds polls last elapsed,
      waitUntilReady (calls.reader device) calls.timer config config.maxPolls ⟨origin, 0⟩ =
        some (rounds, .error (.timeout config.timeout polls (device (calls.sampledAt config origin round))), last) ∧
      rounds.getLast? = some (.expired ⟨calls.headAt config origin round, round⟩
        (device (calls.sampledAt config origin round)) elapsed) := by
  -- what decides a wait is sampled at a round that the deadline has not cut off
  obtain ⟨seen, up, early⟩ | ⟨broken, down, early⟩ | ⟨other, there, run⟩ := calls.returns config origin device
  · rw [(expires.undecided seen (expires.le_of_early early)).2] at up
    cases up
  · rw [(expires.undecided broken (expires.le_of_early early)).1] at down
    cases down
  · rw [expires.unique there]
    exact run

end CallTimes

/-- The device is ready from some time on that is no later than the deadline, and never faulted. -/
def ReadyInTime (config : PollConfig) (origin : Nat) (device : Nat → StatusSnapshot) : Prop :=
  (∃ since, since ≤ origin + config.timeout ∧ ∀ t, since ≤ t → (device t).ready = true) ∧
  ∀ t, (device t).fault = false

namespace CallTimes

variable (calls : CallTimes) (config : PollConfig) (origin : Nat) (device : Nat → StatusSnapshot)

/-- No call to `wait_until_ready` times out. -/
def NeverTimesOut : Prop :=
  ∀ fuel rounds timeout polls status last,
    waitUntilReady (calls.reader device) calls.timer config fuel ⟨origin, 0⟩ ≠
      some (rounds, .error (.timeout timeout polls status), last)

/-- The last status of a timeout was sampled at the deadline or later. -/
def LastStatusFresh : Prop :=
  ∀ fuel rounds timeout polls status last,
    waitUntilReady (calls.reader device) calls.timer config fuel ⟨origin, 0⟩ =
      some (rounds, .error (.timeout timeout polls status), last) →
    ∃ world elapsed, rounds.getLast? = some (.expired world status elapsed) ∧
      origin + config.timeout ≤ calls.sampled world.round world.time

variable {calls config origin device}

/-- What was seen ready in time is not timed out. -/
theorem SeenInTime.never_times_out (seen : calls.SeenInTime config origin device) :
    calls.NeverTimesOut config origin device := by
  obtain ⟨ready, up, early⟩ := seen
  intro fuel rounds timeout polls status last run
  obtain ⟨round, elapsed, expires, -, -⟩ := timed_out run
  rw [(expires.undecided ready (expires.le_of_early early)).2] at up
  cases up

/-- A round that times out a device which is ready in time sampled it before the deadline. -/
theorem TimesOutAt.stale {round : Nat} (expires : calls.TimesOutAt config origin device round)
    (ready : ReadyInTime config origin device) :
    calls.sampledAt config origin round < origin + config.timeout := by
  obtain ⟨⟨since, in_time, up⟩, -⟩ := ready
  apply Nat.lt_of_not_le
  intro fresh
  have seen := up (calls.sampledAt config origin round) (Nat.le_trans in_time fresh)
  rw [(expires.undecided round (Nat.le_refl _)).2] at seen
  cases seen

theorem lastStatusFresh_iff : calls.LastStatusFresh config origin device ↔ calls.FreshAtTimeout config origin device := by
  constructor
  · intro sampled round expires
    obtain ⟨rounds, polls, last, elapsed, run, here⟩ := times_out expires
    obtain ⟨world, elapsed', same, fresh⟩ := sampled _ _ _ _ _ _ run
    rw [here] at same
    cases same
    exact fresh
  · intro fresh fuel rounds timeout polls status last run
    obtain ⟨round, elapsed, expires, here, -⟩ := timed_out run
    exact ⟨_, elapsed, here, fresh round expires⟩

end CallTimes

open CallTimes in
/-- **When a ready device is not reported as timed out.** A device that is ready
in time is safe from a timeout, and a timeout's status is never sampled before
the deadline, exactly if some round samples it ready before any look at the
clock finds the deadline reached. Of any device, a timeout's status is fresh
exactly if the round that finds the deadline reached sampled it there. -/
theorem ready_device_not_timed_out_iff (calls : CallTimes) (config : PollConfig) (origin : Nat)
    (device : Nat → StatusSnapshot) :
    (ReadyInTime config origin device →
      (calls.NeverTimesOut config origin device ↔ calls.SeenInTime config origin device) ∧
      (calls.LastStatusFresh config origin device ↔ calls.SeenInTime config origin device)) ∧
    (calls.LastStatusFresh config origin device ↔ calls.FreshAtTimeout config origin device) := by
  refine ⟨?_, lastStatusFresh_iff⟩
  intro ready
  -- such a device never faults, so a wait that does not time out has seen it ready
  have seen_or : calls.SeenInTime config origin device ∨ ∃ round, calls.TimesOutAt config origin device round := by
    obtain seen | ⟨round, broken, -⟩ | ⟨round, expires, -⟩ := calls.returns config origin device
    · exact Or.inl seen
    · rw [ready.2] at broken
      cases broken
    · exact Or.inr ⟨round, expires⟩
  refine ⟨⟨?_, SeenInTime.never_times_out⟩, ⟨?_, ?_⟩⟩
  · intro never
    obtain seen | ⟨round, expires⟩ := seen_or
    · exact seen
    · obtain ⟨_, _, _, _, run, -⟩ := times_out expires
      exact absurd run (never _ _ _ _ _ _)
  · intro fresh
    obtain seen | ⟨round, expires⟩ := seen_or
    · exact seen
    · exact absurd (lastStatusFresh_iff.mp fresh round expires) (Nat.not_le.mpr (expires.stale ready))
  · intro seen fuel rounds timeout polls status last run
    exact absurd run (seen.never_times_out fuel rounds timeout polls status last)

/-- No call takes time, but for five time units between the first read and the look at the clock. -/
def preempted : CallTimes where
  nowAfter := 0
  readBefore _ := 0
  readAfter _ := 0
  lookBefore round := if round = 0 then 5 else 0
  lookAfter _ := 0
  overshoot _ := 0

def readyThroughout (_ : Nat) : StatusSnapshot := .fromRaw 0b001

/-- The first round straddles the deadline, and still a device that is ready throughout is not timed out. -/
theorem ready_device_not_timed_out_throughout :
    preempted.NeverTimesOut .fiveByTwo 0 readyThroughout ∧
    preempted.sampledAt .fiveByTwo 0 0 < 5 ∧ 5 ≤ preempted.lookedAt .fiveByTwo 0 0 := by
  refine ⟨?_, by decide, by decide⟩
  have ready : ReadyInTime .fiveByTwo 0 readyThroughout :=
    ⟨⟨0, by decide, fun _ _ => show (StatusSnapshot.fromRaw 0b001).ready = true from rfl⟩,
      fun _ => show (StatusSnapshot.fromRaw 0b001).fault = false from rfl⟩
  have seen : preempted.SeenInTime .fiveByTwo 0 readyThroughout :=
    ⟨0, rfl, fun _ before => absurd before (Nat.not_lt_zero _)⟩
  exact ((ready_device_not_timed_out_iff preempted .fiveByTwo 0 readyThroughout).1 ready).1.mpr seen

/-- Ready from time 1 on. -/
def readyAtOne (t : Nat) : StatusSnapshot := if t < 1 then .fromRaw 0b010 else .fromRaw 0b001

/-- A timeout of 5 is reported for a device that was ready at time 1. -/
theorem ready_device_timed_out :
    ReadyInTime .fiveByTwo 0 readyAtOne ∧
    waitUntilReady (preempted.reader readyAtOne) preempted.timer .fiveByTwo 1 ⟨0, 0⟩ =
      some ([.expired ⟨0, 0⟩ ⟨0b010⟩ 5], .error (.timeout 5 1 ⟨0b010⟩), ⟨5, 0⟩) := by
  refine ⟨⟨⟨1, by decide, ?_⟩, ?_⟩, rfl⟩
  · intro t reached
    rw [readyAtOne, if_neg (Nat.not_lt.mpr reached)]
    rfl
  · intro t
    unfold readyAtOne
    split <;> rfl

end GpuDriverLab
