import GpuDriverLab.BufferHistory
import GpuDriverLab.TwinTables

/-!
# Discarded contents

A clear and a whole write discard what a buffer held before. Two runs whose
discarded bytes differ are twins, and stay out of each other's sight until an
offset write skips over a position where the old bytes differ. What a gap reads
is a function of all stores since the allocation: nothing erases them.
-/

namespace GpuDriverLab
set_option autoImplicit false
open Rust

/-- The calls that discard what `id` held before. -/
inductive Discards (id : BufferId) : DeviceOp → Prop where
  | clear : Discards id (.clearBuffer id)
  | rewrite (data : List UInt8) : Discards id (.writeBuffer id data)

/-- Both runs return, with the same results. -/
def SameResults (d₁ d₂ : GpuDevice) (ops : List DeviceOp) : Prop :=
  ∃ rs₁ e₁ rs₂ e₂, deviceMachine.run d₁ ops = .ret (rs₁, e₁) ∧ deviceMachine.run d₂ ops = .ret (rs₂, e₂) ∧
    List.Forall₂ SameResult rs₁ rs₂

/-- Two runs that differ in the bytes written to `id` before a successful discard. -/
structure Discarding (id : BufferId) (pre₁ pre₂ : List DeviceOp) (discard : DeviceOp)
    (d₁ d₂ : GpuDevice) : Prop where
  variants : List.Forall₂ (Variant id) pre₁ pre₂
  discards : Discards id discard
  left : ∃ rs, deviceMachine.run GpuDevice.default (pre₁ ++ [discard]) = .ret (rs ++ [.done (.ok ())], d₁)
  right : ∃ rs, deviceMachine.run GpuDevice.default (pre₂ ++ [discard]) = .ret (rs ++ [.done (.ok ())], d₂)

/-- After `before`, the call `op` opens no gap over bytes in which the runs differ. -/
def OpensNoStaleGap (id : BufferId) (d₁ d₂ : GpuDevice) (before : List DeviceOp) (op : DeviceOp) : Prop :=
  ∀ rs₁ e₁ rs₂ e₂, deviceMachine.run d₁ before = .ret (rs₁, e₁) →
    deviceMachine.run d₂ before = .ret (rs₂, e₂) → NoStaleGap id e₁ e₂ op

namespace SameResults

variable {d₁ d₂ e₁ e₂ : GpuDevice} {before : List DeviceOp} {probe : DeviceOp} {rs₁ rs₂ : List DeviceResult}

theorem probed (same : SameResults d₁ d₂ (before ++ [probe]))
    (run₁ : deviceMachine.run d₁ before = .ret (rs₁, e₁)) (run₂ : deviceMachine.run d₂ before = .ret (rs₂, e₂)) :
    ∃ r₁ f₁ r₂ f₂, deviceMachine.step e₁ probe = .ret (r₁, f₁) ∧ deviceMachine.step e₂ probe = .ret (r₂, f₂) ∧
      SameResult r₁ r₂ := by
  obtain ⟨all₁, f₁, all₂, f₂, whole₁, whole₂, alike⟩ := same
  rw [Machine.run_append, run₁, Exec.ret_bind] at whole₁
  rw [Machine.run_append, run₂, Exec.ret_bind] at whole₂
  obtain ⟨⟨last₁, _⟩, one₁, whole₁⟩ := Exec.bind_eq_ret.mp whole₁
  obtain ⟨⟨last₂, _⟩, one₂, whole₂⟩ := Exec.bind_eq_ret.mp whole₂
  obtain ⟨⟨r₁, _⟩, step₁, one₁⟩ := Exec.bind_eq_ret.mp one₁
  obtain ⟨⟨r₂, _⟩, step₂, one₂⟩ := Exec.bind_eq_ret.mp one₂
  cases one₁
  cases one₂
  cases whole₁
  cases whole₂
  refine ⟨r₁, _, r₂, _, step₁, step₂, ?_⟩
  have reversed := List.rel_reverse alike
  rw [List.reverse_append, List.reverse_append] at reversed
  cases reversed with
  | cons last _ => exact last

theorem snoc {r₁ r₂ : DeviceResult} {f₁ f₂ : GpuDevice}
    (run₁ : deviceMachine.run d₁ before = .ret (rs₁, e₁)) (run₂ : deviceMachine.run d₂ before = .ret (rs₂, e₂))
    (same : List.Forall₂ SameResult rs₁ rs₂) (step₁ : deviceMachine.step e₁ probe = .ret (r₁, f₁))
    (step₂ : deviceMachine.step e₂ probe = .ret (r₂, f₂)) (alike : SameResult r₁ r₂) :
    SameResults d₁ d₂ (before ++ [probe]) :=
  ⟨rs₁ ++ [r₁], f₁, rs₂ ++ [r₂], f₂, Machine.run_snoc.mpr ⟨e₁, run₁, step₁⟩,
    Machine.run_snoc.mpr ⟨e₂, run₂, step₂⟩, List.rel_append same (.cons alike .nil)⟩

end SameResults

namespace Twin

variable {id : BufferId} {d₁ d₂ : GpuDevice}

/-- **Run lemma.** Variants of one list of calls leave twins. -/
theorem run (twin : Twin id d₁ d₂) {ops₁ ops₂ : List DeviceOp}
    (variants : List.Forall₂ (Variant id) ops₁ ops₂) :
    ∃ rs₁ e₁ rs₂ e₂, deviceMachine.run d₁ ops₁ = .ret (rs₁, e₁) ∧ deviceMachine.run d₂ ops₂ = .ret (rs₂, e₂) ∧
      Twin id e₁ e₂ := by
  induction variants generalizing d₁ d₂ with
  | nil => exact ⟨[], d₁, [], d₂, rfl, rfl, twin⟩
  | cons variant _ ih =>
    obtain ⟨r₁, m₁, r₂, m₂, step₁, step₂, next, -⟩ := twin.step variant
    obtain ⟨rs₁, e₁, rs₂, e₂, rest₁, rest₂, last⟩ := ih next
    refine ⟨r₁ :: rs₁, e₁, r₂ :: rs₂, e₂, ?_, ?_, last⟩
    · simp only [Machine.run, step₁, rest₁, Exec.ret_bind]
    · simp only [Machine.run, step₂, rest₂, Exec.ret_bind]

theorem same_calls (ops : List DeviceOp) : List.Forall₂ (Variant id) ops ops := by
  rw [List.forall₂_same]
  intro op _
  exact .same op

/-- While no stale gap is opened, twins that cannot be told apart answer alike. -/
theorem run_same (twin : Twin id d₁ d₂) (indistinct : Indistinct id d₁ d₂) {ops : List DeviceOp}
    (clean : ∀ before op, before ++ [op] <+: ops → OpensNoStaleGap id d₁ d₂ before op) :
    ∃ rs₁ e₁ rs₂ e₂, deviceMachine.run d₁ ops = .ret (rs₁, e₁) ∧ deviceMachine.run d₂ ops = .ret (rs₂, e₂) ∧
      List.Forall₂ SameResult rs₁ rs₂ ∧ Twin id e₁ e₂ ∧ Indistinct id e₁ e₂ := by
  induction ops using List.reverseRecOn with
  | nil => exact ⟨[], d₁, [], d₂, rfl, rfl, .nil, twin, indistinct⟩
  | append_singleton ops op ih =>
    have earlier : ∀ before op', before ++ [op'] <+: ops → OpensNoStaleGap id d₁ d₂ before op' := by
      intro before op' part
      exact clean before op' (part.trans (List.prefix_append ops [op]))
    obtain ⟨rs₁, m₁, rs₂, m₂, run₁, run₂, same, twins, hidden⟩ := ih earlier
    have here : NoStaleGap id m₁ m₂ op := clean ops op (List.prefix_refl _) rs₁ m₁ rs₂ m₂ run₁ run₂
    obtain ⟨r₁, e₁, r₂, e₂, step₁, step₂, next, answer⟩ := twins.step (.same op)
    obtain ⟨alike, keeps⟩ := answer rfl hidden
    exact ⟨rs₁ ++ [r₁], e₁, rs₂ ++ [r₂], e₂, Machine.run_snoc.mpr ⟨m₁, run₁, step₁⟩,
      Machine.run_snoc.mpr ⟨m₂, run₂, step₂⟩, List.rel_append same (.cons alike .nil), next, keeps.mpr here⟩

/-- A read of the whole buffer tells the tables apart as soon as anything does. -/
theorem indistinct_of_read (twin : Twin id d₁ d₂) {r₁ r₂ : DeviceResult} {e₁ e₂ : GpuDevice}
    (step₁ : deviceMachine.step d₁ (.readBuffer id) = .ret (r₁, e₁))
    (step₂ : deviceMachine.step d₂ (.readBuffer id) = .ret (r₂, e₂)) (alike : SameResult r₁ r₂) :
    Indistinct id d₁ d₂ := by
  intro b₁ b₂ found₁ found₂ i below
  have read₁ := GpuDevice.readBuffer_eq found₁ (twin.wf₁ id b₁ found₁).valid
  have read₂ := GpuDevice.readBuffer_eq found₂ (twin.wf₂ id b₂ found₂).valid
  simp only [deviceMachine, read₁, Exec.ret_bind] at step₁
  simp only [deviceMachine, read₂, Exec.ret_bind] at step₂
  cases step₁
  cases step₂
  have bytes : b₁.storage.take b₁.used = b₂.storage.take b₂.used := by
    have equal : DeviceResult.bytes (.ok (b₁.storage.take b₁.used)) =
      DeviceResult.bytes (.ok (b₂.storage.take b₂.used)) := alike
    exact Except.ok.inj (DeviceResult.bytes.inj equal)
  have used : b₁.used = b₂.used := by
    rcases twin.lookup id with ⟨none₁, -⟩ | ⟨c₁, c₂, hc₁, hc₂, shape, -⟩
    · rw [none₁] at found₁
      cases found₁
    · cases hc₁.symm.trans found₁
      cases hc₂.symm.trans found₂
      exact shape.used
  rw [← List.getElem?_take_of_lt below, bytes, List.getElem?_take_of_lt (by rw [← used]; exact below)]

end Twin

namespace Discarding

variable {id : BufferId} {pre₁ pre₂ : List DeviceOp} {discard : DeviceOp} {d₁ d₂ : GpuDevice}

/-- After the discard the runs are twins, and cannot be told apart. -/
theorem start (runs : Discarding id pre₁ pre₂ discard d₁ d₂) : Twin id d₁ d₂ ∧ Indistinct id d₁ d₂ := by
  obtain ⟨rs₁, left⟩ := runs.left
  obtain ⟨rs₂, right⟩ := runs.right
  obtain ⟨m₁, before₁, step₁⟩ := Machine.run_snoc.mp left
  obtain ⟨m₂, before₂, step₂⟩ := Machine.run_snoc.mp right
  obtain ⟨_, _, _, _, run₁, run₂, twins⟩ := (Twin.refl GpuDevice.default_wellFormed).run runs.variants
  rw [before₁] at run₁
  rw [before₂] at run₂
  cases run₁
  cases run₂
  obtain ⟨_, _, _, _, again₁, again₂, twin, -⟩ := twins.step (.same discard)
  rw [step₁] at again₁
  rw [step₂] at again₂
  cases again₁
  cases again₂
  refine ⟨twin, ?_⟩
  have effect₁ := GpuDevice.step_effect step₁
  have effect₂ := GpuDevice.step_effect step₂
  intro b₁ b₂ found₁ found₂ i below
  cases runs.discards with
  | clear =>
    simp only [event] at effect₁ effect₂
    cases effect₁ with
    | cleared old₁ =>
      rw [GpuDevice.buffers_put_self] at found₁
      cases found₁
      exact (Nat.not_lt_zero i below).elim
  | rewrite data =>
    simp only [event] at effect₁ effect₂
    cases effect₁ with
    | wrote old₁ fits₁ =>
      cases effect₂ with
      | wrote old₂ fits₂ =>
        rw [GpuDevice.buffers_put_self] at found₁ found₂
        cases found₁
        cases found₂
        have covered : 0 ≤ i ∧ i < 0 + data.length := ⟨Nat.zero_le i, by rw [Nat.zero_add]; exact below⟩
        rw [getElem?_splice (GpuBuffer.front_fits _ fits₁), getElem?_splice (GpuBuffer.front_fits _ fits₂),
          if_pos covered, if_pos covered]

end Discarding

/-- All stores into `id` since its allocation; no clear or rewrite removes one. -/
def stores (id : BufferId) (es : List DeviceEvent) : List (Nat × List UInt8) :=
  es.foldl (fun log e =>
    match e with
    | .allocated k _ => if k = id then [] else log
    | .wrote k data => if k = id then log ++ [(0, data)] else log
    | .wroteAt k offset data => if k = id then log ++ [(offset, data)] else log
    | .cleared _ | .released _ => log) []

theorem stores_snoc (id : BufferId) (es : List DeviceEvent) (e : DeviceEvent) :
    stores id (es ++ [e]) =
      match e with
      | .allocated k _ => if k = id then [] else stores id es
      | .wrote k data => if k = id then stores id es ++ [(0, data)] else stores id es
      | .wroteAt k offset data => if k = id then stores id es ++ [(offset, data)] else stores id es
      | .cleared _ | .released _ => stores id es := by
  simp only [stores, List.foldl_append, List.foldl_cons, List.foldl_nil]

theorem stores_elsewhere {id : BufferId} {es : List DeviceEvent} {e : Option DeviceEvent}
    (elsewhere : ∀ event, e = some event → event.buffer ≠ id) : stores id (es ++ e.toList) = stores id es := by
  cases e with
  | none => rw [Option.toList_none, List.append_nil]
  | some event =>
    have differ := elsewhere event rfl
    rw [Option.toList_some, stores_snoc]
    cases event with
    | cleared | released => rfl
    | allocated | wrote | wroteAt => exact if_neg differ

namespace GpuDevice

/-- Every byte of storage is the one stored there last, or still the initial zero. -/
def Remembers (es : List DeviceEvent) (device : GpuDevice) : Prop :=
  ∀ id buffer, device.buffers[id]? = some buffer → ∀ i, i < buffer.capacity →
    buffer.storage[i]? = some ((Rust.latest (stores id es) i).getD 0)

/-- A byte after one more store. -/
theorem remembers_splice {log : List (Nat × List UInt8)} {xs src : List UInt8} {off : Nat}
    (before : ∀ i, i < xs.length → xs[i]? = some ((Rust.latest log i).getD 0)) (fits : off + src.length ≤ xs.length)
    (i : Nat) (below : i < xs.length) :
    (splice xs off src)[i]? = some ((Rust.latest (log ++ [(off, src)]) i).getD 0) := by
  rw [getElem?_splice fits, latest_snoc]
  by_cases here : off ≤ i ∧ i < off + src.length
  · have covers : Covers (off, src) i := here
    have inside : i - off < src.length := by omega
    rw [if_pos here, if_pos covers, List.getElem?_eq_getElem inside, Option.getD_some]
  · have misses : ¬ Covers (off, src) i := here
    rw [if_neg here, if_neg misses]
    exact before i below

theorem Effect.remembers {device device' : GpuDevice} {e : Option DeviceEvent} {es : List DeviceEvent}
    (effect : Effect device e device') (remembers : Remembers es device) :
    Remembers (es ++ e.toList) device' := by
  intro k b found i below
  cases effect.buffer found with
  | kept same elsewhere =>
    rw [stores_elsewhere elsewhere]
    exact remembers k b same i below
  | allocated capacity nonzero =>
    rw [Option.toList_some, stores_snoc]
    simp only [if_true, latest_nil, Option.getD_none]
    simp only [freshBuffer, GpuBuffer.capacity, List.length_replicate] at below ⊢
    simp [below]
  | wrote old fits =>
    have front := GpuBuffer.front_fits _ fits
    simp only [GpuBuffer.capacity, length_splice front] at below
    rw [Option.toList_some, stores_snoc]
    simp only [if_true]
    exact remembers_splice (remembers k _ old) front i below
  | wroteAt old fits =>
    simp only [GpuBuffer.capacity, length_splice fits] at below
    rw [Option.toList_some, stores_snoc]
    simp only [if_true]
    exact remembers_splice (remembers k _ old) fits i below
  | cleared old =>
    rw [Option.toList_some, stores_snoc]
    exact remembers k _ old i below

theorem History.remembers {t : List (DeviceOp × DeviceResult)} {device : GpuDevice} (h : History t device) :
    Remembers (events t) device := by
  refine h.history (I := fun t device => Remembers (events t) device) ?_ ?_
  · intro id buffer found
    rw [default_buffers] at found
    cases found
  · intro t device op r device' _ remembers step
    rw [events_snoc]
    exact (step_effect step).remembers remembers

/-- A write that skips positions makes them valid: they read as zero exactly if
zero was stored there last, or nothing since the allocation. -/
def GapsReadStores (id : BufferId) (t : List (DeviceOp × DeviceResult)) (device : GpuDevice) : Prop :=
  ∀ offset data initialized after, device.initializedLen id = .ok initialized → initialized ≤ offset →
    device.writeBufferAt id offset data = .ret (.ok (), after) →
    (after.readBufferRange id initialized (offset - initialized) =
        .ret (.ok (List.replicate (offset - initialized) 0)) ↔
      ∀ i, initialized ≤ i → i < offset → (Rust.latest (stores id (events t)) i).getD 0 = 0)

theorem History.gapsReadStores {t : List (DeviceOp × DeviceResult)} {device : GpuDevice} (h : History t device)
    (id : BufferId) : GapsReadStores id t device := by
  intro offset data initialized after len beyond write
  obtain ⟨buffer, found, rfl⟩ := initializedLen_eq_ok.mp len
  obtain ⟨word, fits⟩ : offset + data.length ≤ usizeMax ∧ offset + data.length ≤ buffer.capacity := by
    by_cases word : offset + data.length ≤ usizeMax
    · by_cases fits : offset + data.length ≤ buffer.capacity
      · exact ⟨word, fits⟩
      · rw [writeBufferAt_outOfBounds found word (Nat.lt_of_not_le fits)] at write
        cases write
    · rw [writeBufferAt_overflow found (Nat.lt_of_not_le word)] at write
      cases write
  rw [writeBufferAt_eq found word fits] at write
  cases write
  have remembered := h.remembers id buffer found
  have gap : buffer.used + (offset - buffer.used) = offset := by omega
  have valid : max buffer.used (offset + data.length) ≤ (splice buffer.storage offset data).length := by
    rw [length_splice fits]
    exact Nat.max_le.mpr ⟨(h.wellFormed id buffer found).valid, fits⟩
  have inside : buffer.used + (offset - buffer.used) ≤ max buffer.used (offset + data.length) := by omega
  have word' : buffer.used + (offset - buffer.used) ≤ usizeMax := by omega
  have read := readBufferRange_eq (buffers_put_self device id { buffer with
    storage := splice buffer.storage offset data
    used := max buffer.used (offset + data.length) }) valid word' inside
  rw [read, gap, Exec.ret.injEq, Except.ok.injEq]
  -- inside the gap the written storage is still the old one
  have old : ∀ i, buffer.used ≤ i → i < offset →
      (splice buffer.storage offset data)[i]? = some ((Rust.latest (stores id (events t)) i).getD 0) := by
    intro i _ below
    have outside : ¬ (offset ≤ i ∧ i < offset + data.length) := by omega
    rw [getElem?_splice fits, if_neg outside]
    exact remembered i (by omega)
  constructor
  · intro zeros i low high
    have here := congrArg (fun bytes : List UInt8 => bytes[i - buffer.used]?) zeros
    have inside : i - buffer.used < offset - buffer.used := by omega
    simp only [List.getElem?_drop, List.getElem?_replicate, inside, if_true] at here
    rw [Nat.add_sub_cancel' low, List.getElem?_take_of_lt high, old i low high] at here
    exact Option.some.inj here
  · intro zeros
    apply List.ext_getElem?
    intro k
    rw [List.getElem?_drop, List.getElem?_replicate]
    by_cases inside : k < offset - buffer.used
    · have high : buffer.used + k < offset := by omega
      rw [if_pos inside, List.getElem?_take_of_lt high, old _ (Nat.le_add_right _ _) high,
        zeros _ (Nat.le_add_right _ _) high]
    · rw [if_neg inside, List.getElem?_take_eq_none (by omega)]

end GpuDevice

/-- **Discarded bytes stay out of sight exactly until a stale gap is opened.** Along
a common continuation of two runs that differ in discarded bytes of `id`, no next
call after any part of it tells the runs apart if and only if no call of it opens
a stale gap. The condition is sufficient for the continuation itself; necessary it
is with these probes only, since a later write over the gap can hide it again before
a call of the continuation looks. What a gap reads is what was stored there last since
the allocation. -/
theorem discarded_bytes_out_of_sight {id : BufferId} {pre₁ pre₂ : List DeviceOp} {discard : DeviceOp}
    {d₁ d₂ : GpuDevice} (runs : Discarding id pre₁ pre₂ discard d₁ d₂) (ops : List DeviceOp) :
    ((∀ before probe, before <+: ops → SameResults d₁ d₂ (before ++ [probe])) ↔
      (∀ before op, before ++ [op] <+: ops → OpensNoStaleGap id d₁ d₂ before op)) ∧
    (∀ before, before <+: ops → ∃ rs device,
      deviceMachine.run GpuDevice.default ((pre₁ ++ [discard]) ++ before) = .ret (rs, device) ∧
      GpuDevice.GapsReadStores id (((pre₁ ++ [discard]) ++ before).zip rs) device) := by
  obtain ⟨twin, hidden⟩ := runs.start
  refine ⟨⟨?_, ?_⟩, ?_⟩
  · intro same before op part
    -- a read of `id` after any part of the continuation keeps the tables indistinct
    have indistinct : ∀ part, part <+: ops → ∀ rs₁ e₁ rs₂ e₂, deviceMachine.run d₁ part = .ret (rs₁, e₁) →
        deviceMachine.run d₂ part = .ret (rs₂, e₂) → Indistinct id e₁ e₂ := by
      intro part inside rs₁ e₁ rs₂ e₂ run₁ run₂
      obtain ⟨_, _, _, _, again₁, again₂, next⟩ := twin.run (Twin.same_calls part)
      rw [run₁] at again₁
      rw [run₂] at again₂
      cases again₁
      cases again₂
      obtain ⟨_, _, _, _, step₁, step₂, alike⟩ := (same part (.readBuffer id) inside).probed run₁ run₂
      exact next.indistinct_of_read step₁ step₂ alike
    intro rs₁ e₁ rs₂ e₂ run₁ run₂
    obtain ⟨_, _, _, _, again₁, again₂, next⟩ := twin.run (Twin.same_calls before)
    rw [run₁] at again₁
    rw [run₂] at again₂
    cases again₁
    cases again₂
    obtain ⟨r₁, f₁, r₂, f₂, step₁, step₂, -, answer⟩ := next.step (.same op)
    have here := indistinct before ((List.prefix_append before [op]).trans part) _ _ _ _ run₁ run₂
    have there := indistinct (before ++ [op]) part _ _ _ _ (Machine.run_snoc.mpr ⟨e₁, run₁, step₁⟩)
      (Machine.run_snoc.mpr ⟨e₂, run₂, step₂⟩)
    exact (answer rfl here).2.mp there
  · intro clean before probe part
    have cleanBefore : ∀ b op, b ++ [op] <+: before → OpensNoStaleGap id d₁ d₂ b op := by
      intro b op inside
      exact clean b op (inside.trans part)
    obtain ⟨rs₁, e₁, rs₂, e₂, run₁, run₂, same, next, still⟩ := twin.run_same hidden cleanBefore
    obtain ⟨r₁, f₁, r₂, f₂, step₁, step₂, -, answer⟩ := next.step (.same probe)
    exact SameResults.snoc run₁ run₂ same step₁ step₂ (answer rfl still).1
  · intro before _
    obtain ⟨rs, device, run, -⟩ := GpuDevice.run_device_returns ((pre₁ ++ [discard]) ++ before)
    have history : GpuDevice.History _ device := Machine.run_trace run
    exact ⟨rs, device, run, history.gapsReadStores id⟩

theorem discarded_bytes_out_of_sight_at_front : ∃ d₁ d₂,
    Discarding ⟨0⟩ [.allocateBuffer 4, .writeBuffer ⟨0⟩ [7, 8, 9]] [.allocateBuffer 4, .writeBuffer ⟨0⟩ [1, 2, 3]]
      (.clearBuffer ⟨0⟩) d₁ d₂ ∧
    SameResults d₁ d₂ [.writeBufferAt ⟨0⟩ 0 [5], .readBuffer ⟨0⟩] := by
  have left : deviceMachine.run GpuDevice.default
      [.allocateBuffer 4, .writeBuffer ⟨0⟩ [7, 8, 9], .clearBuffer ⟨0⟩] =
    .ret ([.allocated (.ok ⟨0⟩), .done (.ok ())] ++ [.done (.ok ())], _) := rfl
  have right : deviceMachine.run GpuDevice.default
      [.allocateBuffer 4, .writeBuffer ⟨0⟩ [1, 2, 3], .clearBuffer ⟨0⟩] =
    .ret ([.allocated (.ok ⟨0⟩), .done (.ok ())] ++ [.done (.ok ())], _) := rfl
  have runs : Discarding ⟨0⟩ [.allocateBuffer 4, .writeBuffer ⟨0⟩ [7, 8, 9]]
      [.allocateBuffer 4, .writeBuffer ⟨0⟩ [1, 2, 3]] (.clearBuffer ⟨0⟩) _ _ :=
    ⟨.cons (.same _) (.cons (.wrote _ _ rfl) .nil), .clear, ⟨_, left⟩, ⟨_, right⟩⟩
  refine ⟨_, _, runs, ?_⟩
  apply (discarded_bytes_out_of_sight runs [.writeBufferAt ⟨0⟩ 0 [5]]).1.mpr _ [.writeBufferAt ⟨0⟩ 0 [5]]
    (.readBuffer ⟨0⟩) (List.prefix_refl _)
  intro before op part _ _ _ _ _ _ offset data _ _ same _ _ _ _ i _ below
  have member : op ∈ [DeviceOp.writeBufferAt ⟨0⟩ 0 [5]] := part.subset (by simp)
  rw [List.mem_singleton] at member
  cases member.symm.trans same
  exact (Nat.not_lt_zero i below).elim

/-- Two clients' bytes, cleared, then one byte written behind them: a read returns
the old bytes in front of it. -/
theorem cleared_bytes_reappear : ∃ d₁ d₂,
    Discarding ⟨0⟩ [.allocateBuffer 4, .writeBuffer ⟨0⟩ [7, 8, 9]] [.allocateBuffer 4, .writeBuffer ⟨0⟩ [1, 2, 3]]
      (.clearBuffer ⟨0⟩) d₁ d₂ ∧
    ¬ SameResults d₁ d₂ [.writeBufferAt ⟨0⟩ 2 [5], .readBuffer ⟨0⟩] := by
  have left : deviceMachine.run GpuDevice.default
      [.allocateBuffer 4, .writeBuffer ⟨0⟩ [7, 8, 9], .clearBuffer ⟨0⟩] =
    .ret ([.allocated (.ok ⟨0⟩), .done (.ok ())] ++ [.done (.ok ())], _) := rfl
  have right : deviceMachine.run GpuDevice.default
      [.allocateBuffer 4, .writeBuffer ⟨0⟩ [1, 2, 3], .clearBuffer ⟨0⟩] =
    .ret ([.allocated (.ok ⟨0⟩), .done (.ok ())] ++ [.done (.ok ())], _) := rfl
  refine ⟨_, _, ⟨.cons (.same _) (.cons (.wrote _ _ rfl) .nil), .clear, ⟨_, left⟩, ⟨_, right⟩⟩, ?_⟩
  rintro ⟨rs₁, e₁, rs₂, e₂, run₁, run₂, same⟩
  cases run₁
  cases run₂
  cases same with
  | cons _ rest =>
    cases rest with
    | cons read _ =>
      have equal : DeviceResult.bytes (.ok [7, 8, 5]) = DeviceResult.bytes (.ok [1, 2, 5]) := read
      exact absurd equal (by decide)

end GpuDriverLab
