import GpuDriverLab.DeviceRun

/-!
# Twin tables

Clearing or shortening a buffer lowers `used` and leaves the old bytes in the
storage. Two runs that differ only in such bytes are kept in step by `Twin`;
`Indistinct` says that the difference is out of sight. An offset write that
starts beyond `used` brings the bytes it skips back into sight, and nothing
else does.
-/

namespace GpuDriverLab
set_option autoImplicit false
open Rust

/-- The same call, or a write to `id` of other bytes of the same length. -/
inductive Variant (id : BufferId) : DeviceOp → DeviceOp → Prop where
  | same (op : DeviceOp) : Variant id op op
  | wrote (data data' : List UInt8) (length : data.length = data'.length) :
      Variant id (.writeBuffer id data) (.writeBuffer id data')
  | wroteAt (offset : Nat) (data data' : List UInt8) (length : data.length = data'.length) :
      Variant id (.writeBufferAt id offset data) (.writeBufferAt id offset data')

/-- Results are equal; released buffers are compared by id, capacity and `data()`, not by
the storage beyond, which the derived equality of an owned buffer reads too. -/
def SameResult : DeviceResult → DeviceResult → Prop
  | .released (.ok b₁), .released (.ok b₂) =>
    b₁.id = b₂.id ∧ b₁.capacity = b₂.capacity ∧ b₁.data = b₂.data
  | r₁, r₂ => r₁ = r₂

theorem SameResult.refl : ∀ r : DeviceResult, SameResult r r
  | .released (.ok _) => ⟨rfl, rfl, rfl⟩
  | .released (.error _) => rfl
  | .done _ | .allocated _ | .bytes _ | .len _ | .count _ => rfl

/-- Equal but for the bytes in storage. -/
structure SameShape (b₁ b₂ : GpuBuffer) : Prop where
  id : b₁.id = b₂.id
  used : b₁.used = b₂.used
  capacity : b₁.capacity = b₂.capacity

/-- Two tables that differ at most in the storage bytes of `id`. -/
structure Twin (id : BufferId) (d₁ d₂ : GpuDevice) : Prop where
  wf₁ : d₁.WellFormed
  wf₂ : d₂.WellFormed
  nextId : d₁.nextId = d₂.nextId
  count : d₁.bufferCount = d₂.bufferCount
  stored : ∀ k, Option.Rel (fun b₁ b₂ => SameShape b₁ b₂ ∧ (k ≠ id → b₁ = b₂))
    d₁.buffers[k]? d₂.buffers[k]?

/-- The two tables agree on the valid bytes of `id`. -/
def Indistinct (id : BufferId) (d₁ d₂ : GpuDevice) : Prop :=
  ∀ b₁ b₂, d₁.buffers[id]? = some b₁ → d₂.buffers[id]? = some b₂ →
    ∀ i, i < b₁.used → b₁.storage[i]? = b₂.storage[i]?

/-- `op` is not an offset write whose gap, from `used` up to its offset, covers a
byte on which the two tables differ. -/
def NoStaleGap (id : BufferId) (d₁ d₂ : GpuDevice) (op : DeviceOp) : Prop :=
  ∀ offset data b₁ b₂, op = .writeBufferAt id offset data →
    d₁.buffers[id]? = some b₁ → d₂.buffers[id]? = some b₂ →
    offset + data.length ≤ usizeMax → offset + data.length ≤ b₁.capacity →
    ∀ i, b₁.used ≤ i → i < offset → b₁.storage[i]? = b₂.storage[i]?

namespace Twin

variable {id : BufferId} {d₁ d₂ : GpuDevice}

theorem refl {d : GpuDevice} (wf : d.WellFormed) : Twin id d d := by
  refine ⟨wf, wf, rfl, rfl, ?_⟩
  intro k
  cases d.buffers[k]? with
  | none => exact .none
  | some buffer => exact .some ⟨⟨rfl, rfl, rfl⟩, fun _ => rfl⟩

/-- Either no table has a buffer under `k`, or both have one of the same shape. -/
theorem lookup (twin : Twin id d₁ d₂) (k : BufferId) :
    (d₁.buffers[k]? = none ∧ d₂.buffers[k]? = none) ∨
    ∃ b₁ b₂, d₁.buffers[k]? = some b₁ ∧ d₂.buffers[k]? = some b₂ ∧
      SameShape b₁ b₂ ∧ (k ≠ id → b₁ = b₂) := by
  have related := twin.stored k
  cases h₁ : d₁.buffers[k]? with
  | none =>
    rw [h₁] at related
    cases h₂ : d₂.buffers[k]? with
    | none => exact Or.inl ⟨rfl, rfl⟩
    | some b₂ =>
      rw [h₂] at related
      cases related
  | some b₁ =>
    rw [h₁] at related
    cases h₂ : d₂.buffers[k]? with
    | none =>
      rw [h₂] at related
      cases related
    | some b₂ =>
      rw [h₂] at related
      cases related with
      | some both => exact Or.inr ⟨b₁, b₂, rfl, rfl, both⟩

/-- Rewriting the buffer of `k` in both tables. -/
theorem put (twin : Twin id d₁ d₂) {k : BufferId} {old₁ old₂ b₁ b₂ : GpuBuffer}
    (found₁ : d₁.buffers[k]? = some old₁) (found₂ : d₂.buffers[k]? = some old₂)
    (wf₁ : (d₁.put k b₁).WellFormed) (wf₂ : (d₂.put k b₂).WellFormed)
    (shape : SameShape b₁ b₂) (other : k ≠ id → b₁ = b₂) : Twin id (d₁.put k b₁) (d₂.put k b₂) := by
  refine ⟨wf₁, wf₂, twin.nextId, ?_, ?_⟩
  · rw [GpuDevice.bufferCount_put found₁, GpuDevice.bufferCount_put found₂, twin.count]
  · intro j
    rw [GpuDevice.buffers_put, GpuDevice.buffers_put]
    by_cases here : k = j
    · subst here
      simp only [if_true]
      exact .some ⟨shape, other⟩
    · simp only [here, if_false]
      exact twin.stored j

/-- A rewrite under another id does not touch the bytes of `id`. -/
theorem indistinct_put_of_ne {k : BufferId} {b₁ b₂ : GpuBuffer} (ne : k ≠ id) :
    Indistinct id (d₁.put k b₁) (d₂.put k b₂) ↔ Indistinct id d₁ d₂ := by
  unfold Indistinct
  rw [GpuDevice.buffers_put_of_ne ne, GpuDevice.buffers_put_of_ne ne]

/-- The valid bytes of corresponding buffers are equal when those of `id` are. -/
theorem visible (twin : Twin id d₁ d₂) (indistinct : Indistinct id d₁ d₂) {k : BufferId} {b₁ b₂ : GpuBuffer}
    (found₁ : d₁.buffers[k]? = some b₁) (found₂ : d₂.buffers[k]? = some b₂) (shape : SameShape b₁ b₂)
    (other : k ≠ id → b₁ = b₂) : b₁.storage.take b₁.used = b₂.storage.take b₂.used := by
  by_cases here : k = id
  · subst here
    apply List.ext_getElem?
    intro i
    by_cases below : i < b₁.used
    · rw [List.getElem?_take_of_lt below, List.getElem?_take_of_lt (by rw [← shape.used]; exact below)]
      exact indistinct b₁ b₂ found₁ found₂ i below
    · rw [List.getElem?_eq_none (by simp; omega),
        List.getElem?_eq_none (by have := shape.used; simp; omega)]
  · rw [other here]

end Twin

/-- One operation on each side: both return, the tables stay twins, and where the
operations are the same the results do not tell them apart, while the bytes of
`id` stay out of sight exactly if no stale gap is opened. -/
def PairStep (id : BufferId) (d₁ d₂ : GpuDevice) (op₁ op₂ : DeviceOp) : Prop :=
  ∃ r₁ e₁ r₂ e₂, deviceMachine.step d₁ op₁ = .ret (r₁, e₁) ∧ deviceMachine.step d₂ op₂ = .ret (r₂, e₂) ∧
    Twin id e₁ e₂ ∧
    (op₁ = op₂ → Indistinct id d₁ d₂ →
      SameResult r₁ r₂ ∧ (Indistinct id e₁ e₂ ↔ NoStaleGap id d₁ d₂ op₁))

namespace Twin

variable {id : BufferId} {d₁ d₂ : GpuDevice}

/-- Calls that change neither table. -/
theorem idle (twin : Twin id d₁ d₂) {op₁ op₂ : DeviceOp} {r₁ r₂ : DeviceResult}
    (step₁ : deviceMachine.step d₁ op₁ = .ret (r₁, d₁)) (step₂ : deviceMachine.step d₂ op₂ = .ret (r₂, d₂))
    (same : op₁ = op₂ → Indistinct id d₁ d₂ → SameResult r₁ r₂) (clean : NoStaleGap id d₁ d₂ op₁) :
    PairStep id d₁ d₂ op₁ op₂ :=
  ⟨r₁, d₁, r₂, d₂, step₁, step₂, twin, fun equal indistinct =>
    ⟨same equal indistinct, fun _ => clean, fun _ => indistinct⟩⟩

theorem clean_of_ne {op : DeviceOp} (ne : ∀ offset data, op ≠ .writeBufferAt id offset data) :
    NoStaleGap id d₁ d₂ op := by
  intro offset data b₁ b₂ equal
  exact (ne offset data equal).elim

theorem read_step (twin : Twin id d₁ d₂) (k : BufferId) : PairStep id d₁ d₂ (.readBuffer k) (.readBuffer k) := by
  have clean : NoStaleGap id d₁ d₂ (.readBuffer k) := clean_of_ne (by intro _ _ h; cases h)
  rcases twin.lookup k with ⟨none₁, none₂⟩ | ⟨b₁, b₂, found₁, found₂, shape, other⟩
  · have read₁ := (GpuDevice.unknown_buffer none₁).readBuffer
    have read₂ := (GpuDevice.unknown_buffer none₂).readBuffer
    exact twin.idle (by simp only [deviceMachine, read₁]; rfl) (by simp only [deviceMachine, read₂]; rfl)
      (fun _ _ => SameResult.refl _) clean
  · have read₁ := GpuDevice.readBuffer_eq found₁ (twin.wf₁ k b₁ found₁).valid
    have read₂ := GpuDevice.readBuffer_eq found₂ (twin.wf₂ k b₂ found₂).valid
    refine twin.idle (by simp only [deviceMachine, read₁]; rfl) (by simp only [deviceMachine, read₂]; rfl) ?_ clean
    intro _ indistinct
    rw [twin.visible indistinct found₁ found₂ shape other]
    exact SameResult.refl _

theorem range_step (twin : Twin id d₁ d₂) (k : BufferId) (offset length : Nat) :
    PairStep id d₁ d₂ (.readBufferRange k offset length) (.readBufferRange k offset length) := by
  have clean : NoStaleGap id d₁ d₂ (.readBufferRange k offset length) :=
    clean_of_ne (by intro _ _ h; cases h)
  rcases twin.lookup k with ⟨none₁, none₂⟩ | ⟨b₁, b₂, found₁, found₂, shape, other⟩
  · have read₁ := (GpuDevice.unknown_buffer none₁).readBufferRange offset length
    have read₂ := (GpuDevice.unknown_buffer none₂).readBufferRange offset length
    exact twin.idle (by simp only [deviceMachine, read₁]; rfl) (by simp only [deviceMachine, read₂]; rfl)
      (fun _ _ => SameResult.refl _) clean
  · by_cases word : offset + length ≤ usizeMax
    · by_cases inside : offset + length ≤ b₁.used
      · have inside₂ : offset + length ≤ b₂.used := by rw [← shape.used]; exact inside
        have read₁ := GpuDevice.readBufferRange_eq found₁ (twin.wf₁ k b₁ found₁).valid word inside
        have read₂ := GpuDevice.readBufferRange_eq found₂ (twin.wf₂ k b₂ found₂).valid word inside₂
        refine twin.idle (by simp only [deviceMachine, read₁]; rfl) (by simp only [deviceMachine, read₂]; rfl)
          ?_ clean
        intro _ indistinct
        have valid := twin.visible indistinct found₁ found₂ shape other
        have part : b₁.storage.take (offset + length) = b₂.storage.take (offset + length) := by
          rw [← Nat.min_eq_left inside, ← List.take_take, valid, List.take_take, Nat.min_eq_left inside₂,
            Nat.min_eq_left inside]
        rw [part]
        exact SameResult.refl _
      · have read₁ := GpuDevice.readBufferRange_outOfBounds found₁ word (Nat.lt_of_not_le inside)
        have read₂ := GpuDevice.readBufferRange_outOfBounds found₂ word
          (by rw [← shape.used]; exact Nat.lt_of_not_le inside)
        rw [← shape.used] at read₂
        exact twin.idle (by simp only [deviceMachine, read₁]; rfl) (by simp only [deviceMachine, read₂]; rfl)
          (fun _ _ => SameResult.refl _) clean
    · have read₁ := GpuDevice.readBufferRange_overflow found₁ (Nat.lt_of_not_le word)
      have read₂ := GpuDevice.readBufferRange_overflow found₂ (Nat.lt_of_not_le word)
      exact twin.idle (by simp only [deviceMachine, read₁]; rfl) (by simp only [deviceMachine, read₂]; rfl)
        (fun _ _ => SameResult.refl _) clean

theorem initializedLen_step (twin : Twin id d₁ d₂) (k : BufferId) :
    PairStep id d₁ d₂ (.initializedLen k) (.initializedLen k) := by
  have same : d₁.initializedLen k = d₂.initializedLen k := by
    rcases twin.lookup k with ⟨none₁, none₂⟩ | ⟨b₁, b₂, found₁, found₂, shape, -⟩
    · simp [GpuDevice.initializedLen, none₁, none₂]
    · simp [GpuDevice.initializedLen, found₁, found₂, shape.used]
  refine twin.idle rfl rfl ?_ (clean_of_ne (by intro _ _ h; cases h))
  intro _ _
  rw [same]
  exact SameResult.refl _

theorem bufferCount_step (twin : Twin id d₁ d₂) : PairStep id d₁ d₂ .bufferCount .bufferCount := by
  refine twin.idle rfl rfl ?_ (clean_of_ne (by intro _ _ h; cases h))
  intro _ _
  rw [twin.count]
  exact SameResult.refl _

theorem allocate_step (twin : Twin id d₁ d₂) (capacity : Nat) :
    PairStep id d₁ d₂ (.allocateBuffer capacity) (.allocateBuffer capacity) := by
  have clean : NoStaleGap id d₁ d₂ (.allocateBuffer capacity) := clean_of_ne (by intro _ _ h; cases h)
  by_cases zero : capacity = 0
  · subst zero
    exact twin.idle rfl rfl (fun _ _ => SameResult.refl _) clean
  · by_cases room : d₁.nextId.toNat + 1 < UInt32.size
    · have room₂ : d₂.nextId.toNat + 1 < UInt32.size := by rw [← twin.nextId]; exact room
      have fresh₁ := twin.wf₁.next_fresh
      have fresh₂ := twin.wf₂.next_fresh
      refine ⟨_, _, _, _, by simp only [deviceMachine, GpuDevice.allocateBuffer_eq zero room]; rfl,
        by simp only [deviceMachine, GpuDevice.allocateBuffer_eq zero room₂]; rfl, ?_, ?_⟩
      · refine ⟨(GpuDevice.Effect.allocated zero room).wellFormed twin.wf₁,
          (GpuDevice.Effect.allocated zero room₂).wellFormed twin.wf₂, by simp [twin.nextId], ?_, ?_⟩
        · rw [GpuDevice.bufferCount_insert fresh₁, GpuDevice.bufferCount_insert fresh₂, twin.count]
        · intro k
          rw [GpuDevice.buffers_insert, GpuDevice.buffers_insert, twin.nextId]
          split
          · exact .some ⟨⟨rfl, rfl, rfl⟩, fun _ => rfl⟩
          · exact twin.stored k
      · intro _ indistinct
        refine ⟨by rw [twin.nextId]; exact SameResult.refl _, fun _ => clean, fun _ => ?_⟩
        intro b₁ b₂ found₁ found₂
        rw [GpuDevice.buffers_insert, twin.nextId] at found₁
        rw [GpuDevice.buffers_insert] at found₂
        split at found₁
        · rename_i here
          simp only [here, if_true] at found₂
          cases found₁
          cases found₂
          intro i below
          rfl
        · rename_i elsewhere
          simp only [elsewhere, if_false] at found₂
          exact indistinct b₁ b₂ found₁ found₂
    · have room₂ : ¬ d₂.nextId.toNat + 1 < UInt32.size := by rw [← twin.nextId]; exact room
      exact twin.idle (by simp only [deviceMachine, GpuDevice.allocateBuffer_exhausted zero room]; rfl)
        (by simp only [deviceMachine, GpuDevice.allocateBuffer_exhausted zero room₂])
        (fun _ _ => SameResult.refl _) clean

/-- Calls that rewrite the buffer of `k` on both sides. -/
theorem rewrite_step (twin : Twin id d₁ d₂) {k : BufferId} {op₁ op₂ : DeviceOp} {r : DeviceResult}
    {e₁ e₂ : Option DeviceEvent} {old₁ old₂ b₁ b₂ : GpuBuffer}
    (found₁ : d₁.buffers[k]? = some old₁) (found₂ : d₂.buffers[k]? = some old₂)
    (step₁ : deviceMachine.step d₁ op₁ = .ret (r, d₁.put k b₁))
    (step₂ : deviceMachine.step d₂ op₂ = .ret (r, d₂.put k b₂))
    (effect₁ : GpuDevice.Effect d₁ e₁ (d₁.put k b₁)) (effect₂ : GpuDevice.Effect d₂ e₂ (d₂.put k b₂))
    (shape : SameShape b₁ b₂) (other : k ≠ id → b₁ = b₂)
    (elsewhere : k ≠ id → NoStaleGap id d₁ d₂ op₁)
    (here : k = id → op₁ = op₂ → Indistinct id d₁ d₂ →
      ((∀ i, i < b₁.used → b₁.storage[i]? = b₂.storage[i]?) ↔ NoStaleGap id d₁ d₂ op₁)) :
    PairStep id d₁ d₂ op₁ op₂ := by
  refine ⟨r, _, r, _, step₁, step₂,
    twin.put found₁ found₂ (effect₁.wellFormed twin.wf₁) (effect₂.wellFormed twin.wf₂) shape other, ?_⟩
  intro same indistinct
  refine ⟨SameResult.refl r, ?_⟩
  by_cases equal : k = id
  · subst equal
    rw [← here rfl same indistinct]
    unfold Indistinct
    simp only [GpuDevice.buffers_put_self, Option.some.injEq]
    constructor
    · intro h i below
      exact h b₁ b₂ rfl rfl i below
    · rintro h c₁ c₂ rfl rfl i below
      exact h i below
  · rw [indistinct_put_of_ne equal]
    exact ⟨fun _ => elsewhere equal, fun _ => indistinct⟩

/-- A call naming an unknown buffer, on both sides. -/
theorem unknown_step (twin : Twin id d₁ d₂) {op₁ op₂ : DeviceOp} {r : DeviceResult}
    (step₁ : deviceMachine.step d₁ op₁ = .ret (r, d₁)) (step₂ : deviceMachine.step d₂ op₂ = .ret (r, d₂))
    (clean : NoStaleGap id d₁ d₂ op₁) : PairStep id d₁ d₂ op₁ op₂ :=
  twin.idle step₁ step₂ (fun _ _ => SameResult.refl r) clean

/-- A whole write: whatever was valid before, the valid bytes are the data now. -/
theorem write_step (twin : Twin id d₁ d₂) (k : BufferId) {data₁ data₂ : List UInt8}
    (length : data₁.length = data₂.length) (other : k ≠ id → data₁ = data₂) :
    PairStep id d₁ d₂ (.writeBuffer k data₁) (.writeBuffer k data₂) := by
  have clean : NoStaleGap id d₁ d₂ (.writeBuffer k data₁) := clean_of_ne (by intro _ _ h; cases h)
  rcases twin.lookup k with ⟨none₁, none₂⟩ | ⟨b₁, b₂, found₁, found₂, shape, equal⟩
  · have write₁ := (GpuDevice.unknown_buffer none₁).writeBuffer data₁
    have write₂ := (GpuDevice.unknown_buffer none₂).writeBuffer data₂
    exact twin.unknown_step (by simp only [deviceMachine, write₁]; rfl) (by simp only [deviceMachine, write₂]; rfl)
      clean
  · by_cases fits : data₁.length ≤ b₁.capacity
    · have fits₂ : data₂.length ≤ b₂.capacity := by rw [← length, ← shape.capacity]; exact fits
      have write₁ := GpuDevice.writeBuffer_eq found₁ fits
      have write₂ := GpuDevice.writeBuffer_eq found₂ fits₂
      have front := b₁.front_fits fits
      have front₂ := b₂.front_fits fits₂
      refine twin.rewrite_step found₁ found₂ (by simp only [deviceMachine, write₁]; rfl)
        (by simp only [deviceMachine, write₂]; rfl) (.wrote found₁ fits) (.wrote found₂ fits₂)
        ⟨shape.id, length, ?_⟩ ?_ (fun _ => clean) ?_
      · simp only [GpuBuffer.capacity, length_splice front, length_splice front₂]
        exact shape.capacity
      · intro ne
        rw [equal ne, other ne]
      · intro _ same _
        cases same
        refine ⟨fun _ => clean, fun _ i below => ?_⟩
        -- the whole write covers every valid position
        have covered : 0 ≤ i ∧ i < 0 + data₁.length := ⟨Nat.zero_le i, by rw [Nat.zero_add]; exact below⟩
        rw [getElem?_splice front, getElem?_splice front₂, if_pos covered, if_pos covered]
    · have write₁ := GpuDevice.writeBuffer_tooLarge found₁ (Nat.lt_of_not_le fits)
      have large₂ : b₂.capacity < data₂.length := by
        rw [← length, ← shape.capacity]
        exact Nat.lt_of_not_le fits
      have write₂ := GpuDevice.writeBuffer_tooLarge found₂ large₂
      rw [← length, ← shape.capacity] at write₂
      exact twin.unknown_step (by simp only [deviceMachine, write₁]; rfl)
        (by simp only [deviceMachine, write₂]; rfl) clean

theorem clear_step (twin : Twin id d₁ d₂) (k : BufferId) :
    PairStep id d₁ d₂ (.clearBuffer k) (.clearBuffer k) := by
  have clean : NoStaleGap id d₁ d₂ (.clearBuffer k) := clean_of_ne (by intro _ _ h; cases h)
  rcases twin.lookup k with ⟨none₁, none₂⟩ | ⟨b₁, b₂, found₁, found₂, shape, equal⟩
  · have clear₁ := (GpuDevice.unknown_buffer none₁).clearBuffer
    have clear₂ := (GpuDevice.unknown_buffer none₂).clearBuffer
    exact twin.unknown_step (by simp only [deviceMachine, clear₁]; rfl) (by simp only [deviceMachine, clear₂])
      clean
  · refine twin.rewrite_step found₁ found₂
      (by simp only [deviceMachine, GpuDevice.clearBuffer_eq found₁]; rfl)
      (by simp only [deviceMachine, GpuDevice.clearBuffer_eq found₂]) (.cleared found₁) (.cleared found₂)
      ⟨shape.id, rfl, shape.capacity⟩ ?_ (fun _ => clean) ?_
    · intro ne
      rw [equal ne]
    · intro _ _ _
      refine ⟨fun _ => clean, fun _ i below => ?_⟩
      exact (Nat.not_lt_zero i below).elim

/-- An offset write of the same data on both sides makes the bytes it skips
valid: the valid bytes agree afterwards exactly if it opens no stale gap. -/
theorem agree_after_writeAt {offset : Nat} {data : List UInt8} {b₁ b₂ : GpuBuffer} (indistinct : Indistinct id d₁ d₂)
    (found₁ : d₁.buffers[id]? = some b₁) (found₂ : d₂.buffers[id]? = some b₂)
    (word : offset + data.length ≤ usizeMax) (fits : offset + data.length ≤ b₁.capacity)
    (fits₂ : offset + data.length ≤ b₂.capacity) :
    (∀ i, i < max b₁.used (offset + data.length) →
      (splice b₁.storage offset data)[i]? = (splice b₂.storage offset data)[i]?) ↔
    NoStaleGap id d₁ d₂ (.writeBufferAt id offset data) := by
  simp only [getElem?_splice fits, getElem?_splice fits₂]
  constructor
  · -- the skipped positions are valid now, so they had to agree
    intro agree o data' c₁ c₂ same hc₁ hc₂ _ _ i old gap
    cases same
    cases found₁.symm.trans hc₁
    cases found₂.symm.trans hc₂
    have outside : ¬ (offset ≤ i ∧ i < offset + data.length) := by omega
    have after := agree i (by omega)
    simp only [outside, if_false] at after
    exact after
  · intro clean i below
    by_cases written : offset ≤ i ∧ i < offset + data.length
    · simp only [written, and_self, if_true]
    · simp only [written, if_false]
      by_cases old : i < b₁.used
      · exact indistinct b₁ b₂ found₁ found₂ i old
      · exact clean offset data b₁ b₂ rfl found₁ found₂ word fits i (by omega) (by omega)

theorem writeAt_step (twin : Twin id d₁ d₂) (k : BufferId) (offset : Nat) {data₁ data₂ : List UInt8}
    (length : data₁.length = data₂.length) (other : k ≠ id → data₁ = data₂) :
    PairStep id d₁ d₂ (.writeBufferAt k offset data₁) (.writeBufferAt k offset data₂) := by
  have elsewhere : k ≠ id → NoStaleGap id d₁ d₂ (.writeBufferAt k offset data₁) := by
    intro ne
    apply clean_of_ne
    intro _ _ h
    cases h
    exact ne rfl
  -- a write that cannot succeed opens no gap
  have failing : (∀ b, d₁.buffers[k]? = some b → offset + data₁.length ≤ usizeMax →
      ¬ offset + data₁.length ≤ b.capacity) → NoStaleGap id d₁ d₂ (.writeBufferAt k offset data₁) := by
    intro refused o data b₁ b₂ equal found₁ _ word fits
    cases equal
    exact (refused b₁ found₁ word fits).elim
  rcases twin.lookup k with ⟨none₁, none₂⟩ | ⟨b₁, b₂, found₁, found₂, shape, equal⟩
  · have write₁ := (GpuDevice.unknown_buffer none₁).writeBufferAt offset data₁
    have write₂ := (GpuDevice.unknown_buffer none₂).writeBufferAt offset data₂
    refine twin.unknown_step (by simp only [deviceMachine, write₁]; rfl)
      (by simp only [deviceMachine, write₂]; rfl) (failing ?_)
    intro b found
    rw [none₁] at found
    cases found
  · by_cases word : offset + data₁.length ≤ usizeMax
    · have word₂ : offset + data₂.length ≤ usizeMax := by rw [← length]; exact word
      by_cases fits : offset + data₁.length ≤ b₁.capacity
      · have fits₂ : offset + data₂.length ≤ b₂.capacity := by rw [← length, ← shape.capacity]; exact fits
        have write₁ := GpuDevice.writeBufferAt_eq found₁ word fits
        have write₂ := GpuDevice.writeBufferAt_eq found₂ word₂ fits₂
        refine twin.rewrite_step found₁ found₂ (by simp only [deviceMachine, write₁]; rfl)
          (by simp only [deviceMachine, write₂]; rfl) (.wroteAt found₁ word fits) (.wroteAt found₂ word₂ fits₂)
          ⟨shape.id, by simp only [shape.used, length], ?_⟩ ?_ elsewhere ?_
        · simp only [GpuBuffer.capacity, length_splice fits, length_splice fits₂]
          exact shape.capacity
        · intro ne
          rw [equal ne, other ne]
        · intro here same indistinct
          cases same
          subst here
          exact agree_after_writeAt indistinct found₁ found₂ word fits fits₂
      · have write₁ := GpuDevice.writeBufferAt_outOfBounds found₁ word (Nat.lt_of_not_le fits)
        have large₂ : b₂.capacity < offset + data₂.length := by
          rw [← length, ← shape.capacity]
          exact Nat.lt_of_not_le fits
        have write₂ := GpuDevice.writeBufferAt_outOfBounds found₂ word₂ large₂
        rw [← length, ← shape.capacity] at write₂
        refine twin.unknown_step (by simp only [deviceMachine, write₁]; rfl)
          (by simp only [deviceMachine, write₂]; rfl) (failing ?_)
        intro b found _
        cases found₁.symm.trans found
        exact fits
    · have wraps₂ : usizeMax < offset + data₂.length := by
        rw [← length]
        exact Nat.lt_of_not_le word
      have write₁ := GpuDevice.writeBufferAt_overflow found₁ (Nat.lt_of_not_le word)
      have write₂ := GpuDevice.writeBufferAt_overflow found₂ wraps₂
      rw [← length] at write₂
      refine twin.unknown_step (by simp only [deviceMachine, write₁]; rfl)
        (by simp only [deviceMachine, write₂]; rfl) (failing ?_)
      intro b _ fine
      exact (word fine).elim

theorem release_step (twin : Twin id d₁ d₂) (k : BufferId) :
    PairStep id d₁ d₂ (.releaseBuffer k) (.releaseBuffer k) := by
  have clean : NoStaleGap id d₁ d₂ (.releaseBuffer k) := clean_of_ne (by intro _ _ h; cases h)
  rcases twin.lookup k with ⟨none₁, none₂⟩ | ⟨b₁, b₂, found₁, found₂, shape, other⟩
  · have release₁ := (GpuDevice.unknown_buffer none₁).releaseBuffer
    have release₂ := (GpuDevice.unknown_buffer none₂).releaseBuffer
    exact twin.unknown_step (by simp only [deviceMachine, release₁]; rfl)
      (by simp only [deviceMachine, release₂]) clean
  · refine ⟨_, _, _, _, by simp only [deviceMachine, GpuDevice.releaseBuffer_eq found₁]; rfl,
      by simp only [deviceMachine, GpuDevice.releaseBuffer_eq found₂]; rfl, ?_, ?_⟩
    · refine ⟨(GpuDevice.Effect.released found₁).wellFormed twin.wf₁,
        (GpuDevice.Effect.released found₂).wellFormed twin.wf₂, twin.nextId, ?_, ?_⟩
      · have fewer₁ := GpuDevice.bufferCount_erase found₁
        have fewer₂ := GpuDevice.bufferCount_erase found₂
        have count := twin.count
        omega
      · intro j
        rw [GpuDevice.buffers_erase, GpuDevice.buffers_erase]
        split
        · exact .none
        · exact twin.stored j
    · intro _ indistinct
      refine ⟨⟨shape.id, shape.capacity, ?_⟩, fun _ => clean, fun _ => ?_⟩
      · rw [GpuDevice.data_eq (twin.wf₁ k b₁ found₁).valid, GpuDevice.data_eq (twin.wf₂ k b₂ found₂).valid,
          twin.visible indistinct found₁ found₂ shape other]
      · intro c₁ c₂ hc₁ hc₂
        rw [GpuDevice.buffers_erase] at hc₁ hc₂
        split at hc₁
        · cases hc₁
        · rename_i elsewhere
          simp only [elsewhere, if_false] at hc₂
          exact indistinct c₁ c₂ hc₁ hc₂

/-- **Step lemma.** Variants of one call, on twin tables. -/
theorem step (twin : Twin id d₁ d₂) {op₁ op₂ : DeviceOp} (variant : Variant id op₁ op₂) :
    PairStep id d₁ d₂ op₁ op₂ := by
  cases variant with
  | same =>
    cases op₁ with
    | allocateBuffer capacity => exact twin.allocate_step capacity
    | writeBuffer k data => exact twin.write_step k rfl fun _ => rfl
    | writeBufferAt k offset data => exact twin.writeAt_step k offset rfl fun _ => rfl
    | clearBuffer k => exact twin.clear_step k
    | readBuffer k => exact twin.read_step k
    | readBufferRange k offset length => exact twin.range_step k offset length
    | initializedLen k => exact twin.initializedLen_step k
    | releaseBuffer k => exact twin.release_step k
    | bufferCount => exact twin.bufferCount_step
  | wrote data data' length => exact twin.write_step id length fun ne => (ne rfl).elim
  | wroteAt offset data data' length => exact twin.writeAt_step id offset length fun ne => (ne rfl).elim

end Twin

end GpuDriverLab
