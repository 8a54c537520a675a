import GpuDriverLab.BufferHistory
import GpuDriverLab.Submission

/-!
# What `initialized_len` counts

The initialized length of a buffer is meant to end at the last byte stored in
it. It does so along every run, until an empty write at an offset beyond the
stored bytes: that write stores nothing, yet raises the length to its offset.
-/

namespace GpuDriverLab
set_option autoImplicit false
open Rust

/-- The stores into `id` since its allocation or its last clear; a whole write removes none. -/
def storesSinceClear (id : BufferId) (es : List DeviceEvent) : List (Nat × List UInt8) :=
  es.foldl (fun log e =>
    match e with
    | .allocated k _ | .cleared k => if k = id then [] else log
    | .wrote k data => if k = id then log ++ [(0, data)] else log
    | .wroteAt k offset data => if k = id then log ++ [(offset, data)] else log
    | .released _ => log) []

theorem storesSinceClear_snoc (id : BufferId) (es : List DeviceEvent) (e : DeviceEvent) :
    storesSinceClear id (es ++ [e]) =
      match e with
      | .allocated k _ | .cleared k => if k = id then [] else storesSinceClear id es
      | .wrote k data => if k = id then storesSinceClear id es ++ [(0, data)] else storesSinceClear id es
      | .wroteAt k offset data =>
        if k = id then storesSinceClear id es ++ [(offset, data)] else storesSinceClear id es
      | .released _ => storesSinceClear id es := by
  simp only [storesSinceClear, List.foldl_append, List.foldl_cons, List.foldl_nil]

/-- The current stores are among those since the last clear. -/
theorem window_subset (id : BufferId) (es : List DeviceEvent) : window id es ⊆ storesSinceClear id es := by
  induction es using List.reverseRecOn with
  | nil => exact List.Subset.refl _
  | append_singleton es e ih =>
    rw [window_snoc, storesSinceClear_snoc]
    cases e with
    | allocated k capacity | cleared k =>
      dsimp only
      split
      · exact List.Subset.refl _
      · exact ih
    | wrote k data =>
      dsimp only
      split
      · exact List.subset_append_right _ _
      · exact ih
    | wroteAt k offset data =>
      dsimp only
      split
      · exact List.append_subset.mpr ⟨List.Subset.trans ih (List.subset_append_left _ _), List.subset_append_right _ _⟩
      · exact ih
    | released k => exact ih

namespace GpuDevice

/-- `initialized_len` ends at the last stored byte, and validation accepts no command on a
buffer without one. -/
structure CountsStores (t : List (DeviceOp × DeviceResult)) (device : GpuDevice) : Prop where
  len : ∀ id n, device.initializedLen id = .ok n → IsStoredEnd (window id (events t)) n
  accepts : ∀ request submission, validateSubmission device request = .ret (.ok submission) →
    ∃ i, Rust.Stored (storesSinceClear request.bufferId (events t)) i

/-- The used length of each buffer is the end of what is stored in it. -/
def UsedIsStoredEnd (es : List DeviceEvent) (device : GpuDevice) : Prop :=
  ∀ id buffer, device.buffers[id]? = some buffer → buffer.used = storedEnd (window id es)

/-- The call raises no length without storing a byte. -/
def StoresWhatItCounts (es : List DeviceEvent) (e : Option DeviceEvent) : Prop :=
  ∀ id offset, e = some (.wroteAt id offset []) → offset ≤ storedEnd (window id es)

variable {es : List DeviceEvent} {device device' : GpuDevice} {e : Option DeviceEvent}

/-- **Step lemma.** -/
theorem Effect.usedIsStoredEnd (effect : Effect device e device') (h : UsedIsStoredEnd es device)
    (stores : StoresWhatItCounts es e) : UsedIsStoredEnd (es ++ e.toList) device' := by
  intro k b found
  cases effect.buffer found with
  | kept same elsewhere =>
    rw [window_elsewhere elsewhere]
    exact h k b same
  | allocated capacity nonzero =>
    rw [Option.toList_some, window_snoc]
    simp only [if_true, storedEnd_nil]
    rfl
  | @wrote old data before fits =>
    rw [Option.toList_some, window_snoc]
    simp only [if_true, storedEnd_front]
  | @wroteAt old offset data before fits =>
    rw [Option.toList_some, window_snoc]
    simp only [if_true, storedEnd_snoc, ← h k old before]
    by_cases empty : data = []
    · have below := stores k offset (by rw [empty])
      rw [← h k old before] at below
      rw [if_pos empty, empty, List.length_nil, Nat.add_zero, Nat.max_eq_left below]
    · rw [if_neg empty]
  | cleared before =>
    rw [Option.toList_some, window_snoc]
    simp only [if_true, storedEnd_nil]

theorem event_wroteAt {op : DeviceOp} {r : DeviceResult} {id : BufferId} {offset : Nat} {data : List UInt8} :
    event (op, r) = some (.wroteAt id offset data) ↔ op = .writeBufferAt id offset data ∧ r = .done (.ok ()) := by
  constructor
  · intro same
    unfold event at same
    split at same <;> cases same
    rename_i call
    cases call
    exact ⟨rfl, rfl⟩
  · rintro ⟨rfl, rfl⟩
    rfl

/-- No successful empty write of the history lies beyond all the bytes stored before it. -/
def NoEmptyWriteBeyond (t : List (DeviceOp × DeviceResult)) : Prop :=
  ∀ before id offset, before ++ [(.writeBufferAt id offset [], .done (.ok ()))] <+: t →
    offset ≤ storedEnd (window id (events before))

/-- **Run lemma.** -/
theorem History.usedIsStoredEnd {t : List (DeviceOp × DeviceResult)} (h : History t device)
    (clean : NoEmptyWriteBeyond t) : UsedIsStoredEnd (events t) device := by
  induction h with
  | nil =>
    intro id buffer found
    rw [default_buffers] at found
    cases found
  | @snoc t m m' op r before step ih =>
    have earlier : UsedIsStoredEnd (events t) m :=
      ih fun past id offset part => clean past id offset (part.trans (List.prefix_append _ _))
    rw [events_snoc]
    apply (step_effect step).usedIsStoredEnd earlier
    intro id offset same
    obtain ⟨rfl, rfl⟩ := event_wroteAt.mp same
    exact clean t id offset (List.prefix_refl _)

/-- A length that ends at a stored byte is a length validation can trust. -/
theorem UsedIsStoredEnd.countsStores {t : List (DeviceOp × DeviceResult)} (h : UsedIsStoredEnd (events t) device) :
    CountsStores t device where
  len := by
    intro id n len
    obtain ⟨buffer, found, rfl⟩ := initializedLen_eq_ok.mp len
    exact isStoredEnd_iff.mpr (h id buffer found)
  accepts := by
    intro request submission valid
    obtain ⟨same, n, len, inside⟩ := validateSubmission_eq_ok.mp valid
    obtain ⟨buffer, found, rfl⟩ := initializedLen_eq_ok.mp len
    have nonempty := submission.command.range.nonempty
    have positive : 0 < storedEnd (window request.bufferId (events t)) := by
      rw [← h _ buffer found]
      unfold ValidatedSubmission.rangeEnd at inside
      omega
    obtain ⟨i, last⟩ := Nat.exists_eq_succ_of_ne_zero (Nat.ne_of_gt positive)
    obtain ⟨w, member, covers⟩ := stored_last last
    exact ⟨i, w, window_subset _ _ member, covers⟩

/-- An empty write beyond the stored bytes, and a length that counted them before it does not after. -/
theorem emptyWrite_miscounts {t : List (DeviceOp × DeviceResult)} {id : BufferId} {offset : Nat}
    (step : deviceMachine.step device (.writeBufferAt id offset []) = .ret (.done (.ok ()), device'))
    (before : CountsStores t device) (beyond : storedEnd (window id (events t)) < offset) :
    ¬ CountsStores (t ++ [(.writeBufferAt id offset [], .done (.ok ()))]) device' := by
  intro after
  have effect : Effect device (some (.wroteAt id offset [])) device' := step_effect step
  cases effect with
  | @wroteAt _ _ _ buffer found word fits =>
    have used := isStoredEnd_iff.mp (before.len id _ (initializedLen_eq found))
    have raised := isStoredEnd_iff.mp (after.len id _ (initializedLen_eq (buffers_put_self _ _ _)))
    rw [events_snoc, show event (.writeBufferAt id offset [], .done (.ok ())) = some (.wroteAt id offset []) from rfl,
      Option.toList_some, window_snoc] at raised
    simp only [if_true, storedEnd_snoc, List.length_nil] at raised
    omega

/-- **`initialized_len` counts what was stored** in every state of a run exactly if the run
has no successful empty write beyond the bytes stored so far. -/
theorem initialized_len_counts_stores_iff (ops : List DeviceOp) :
    ∃ rs device, deviceMachine.run GpuDevice.default ops = .ret (rs, device) ∧
      ((∀ before m, before <+: ops.zip rs → History before m → CountsStores before m) ↔
        NoEmptyWriteBeyond (ops.zip rs)) := by
  obtain ⟨rs, device, run, -⟩ := run_device_returns ops
  have history : History (ops.zip rs) device := Machine.run_trace run
  refine ⟨rs, device, run, ?_, ?_⟩
  · intro counts before id offset part
    by_contra beyond
    obtain ⟨rest, whole⟩ := part
    rw [← whole] at history
    obtain ⟨m', upto, -⟩ := history.split
    obtain ⟨m, past, step⟩ := upto.snoc_inv
    have part : before ++ [(.writeBufferAt id offset [], .done (.ok ()))] <+: ops.zip rs := ⟨rest, whole⟩
    exact emptyWrite_miscounts step (counts before m ((List.prefix_append _ _).trans part) past)
      (Nat.lt_of_not_le beyond) (counts _ m' part upto)
  · intro clean before m part past
    apply UsedIsStoredEnd.countsStores
    exact past.usedIsStoredEnd fun past id offset inner => clean past id offset (inner.trans part)

/-- An empty write at offset 5 of a new buffer: nothing is stored, five bytes count as
initialized, and a command on four of them is accepted. -/
theorem empty_write_counted : ∃ rs device submission,
    deviceMachine.run GpuDevice.default [.allocateBuffer 8, .writeBufferAt ⟨0⟩ 5 []] = .ret (rs, device) ∧
    device.initializedLen ⟨0⟩ = .ok 5 ∧
    validateSubmission device { bufferId := ⟨0⟩, command := { id := 1, offset := 0, length := 4, priority := 0 } } =
      .ret (.ok submission) ∧
    (∀ i, ¬ Rust.Stored (storesSinceClear ⟨0⟩
      (events ([.allocateBuffer 8, .writeBufferAt ⟨0⟩ 5 []].zip rs))) i) ∧
    ¬ CountsStores ([.allocateBuffer 8, .writeBufferAt ⟨0⟩ 5 []].zip rs) device := by
  have nothing : ∀ i, ¬ Rust.Stored (storesSinceClear ⟨0⟩ (events [(.allocateBuffer 8, .allocated (.ok ⟨0⟩)),
      (.writeBufferAt ⟨0⟩ 5 [], .done (.ok ()))])) i := by
    rintro i ⟨w, member, lower, upper⟩
    have one : w ∈ [((5, []) : Nat × List UInt8)] := member
    rw [List.mem_singleton] at one
    subst one
    exact absurd upper (Nat.not_lt.mpr lower)
  refine ⟨[.allocated (.ok ⟨0⟩), .done (.ok ())], _, _, rfl, rfl, rfl, nothing, ?_⟩
  intro counts
  obtain ⟨i, stored⟩ := counts.accepts { bufferId := ⟨0⟩, command := ⟨1, 0, 4, 0⟩ } _ rfl
  exact nothing i stored

end GpuDevice

end GpuDriverLab
