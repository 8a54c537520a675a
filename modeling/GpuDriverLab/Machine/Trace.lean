import GpuDriverLab.Rust.Exec
import Mathlib.Data.List.Forall2
import Mathlib.Data.List.Induction

/-!
# Machines, traces and simulations

A component is a state with a set of operations; `Machine.step` performs one
operation and may panic. `Trace` is the history of a run: the operations done
so far with their results, latest last, so that an induction over it is an
induction over "one more operation". `run` performs a given list of operations.
The rules below are the only inductions over runs that a client needs.
-/

namespace GpuDriverLab
set_option autoImplicit false
open Rust

universe u v w

/-- A component: what one operation returns, and the state after it. -/
structure Machine (State : Type u) (Op : Type v) (Result : Type w) where
  step : State → Op → Exec (Result × State)

namespace Machine

variable {State : Type u} {Op : Type v} {Result : Type w}

/-- The history `t` leads from `init` to the indexed state. -/
inductive Trace (M : Machine State Op Result) (init : State) : List (Op × Result) → State → Prop where
  | nil : Trace M init [] init
  | snoc {t : List (Op × Result)} {s s' : State} {op : Op} {r : Result} :
      Trace M init t s → M.step s op = .ret (r, s') → Trace M init (t ++ [(op, r)]) s'

/-- Perform a list of operations; the results in order, and the last state. -/
def run (M : Machine State Op Result) : State → List Op → Exec (List Result × State)
  | s, [] => .ret ([], s)
  | s, op :: ops =>
    (M.step s op).bind fun p => (M.run p.2 ops).bind fun q => .ret (p.1 :: q.1, q.2)

variable {M : Machine State Op Result}

theorem run_append (s : State) (ops ops' : List Op) :
    M.run s (ops ++ ops') = (M.run s ops).bind fun p =>
      (M.run p.2 ops').bind fun q => .ret (p.1 ++ q.1, q.2) := by
  induction ops generalizing s with
  | nil =>
    show M.run s ops' = (M.run s ops').bind fun q => .ret (q.1, q.2)
    cases M.run s ops' <;> rfl
  | cons op ops ih =>
    simp only [List.cons_append, run, ih]
    cases M.step s op with
    | panic why => rfl
    | ret p =>
      simp only [Exec.ret_bind]
      cases M.run p.2 ops with
      | panic why => rfl
      | ret q =>
        simp only [Exec.ret_bind]
        cases M.run q.2 ops' <;> rfl

/-- The last step of a run. -/
theorem run_snoc {s s' : State} {ops : List Op} {op : Op} {rs : List Result} {r : Result} :
    M.run s (ops ++ [op]) = .ret (rs ++ [r], s') ↔
      ∃ m, M.run s ops = .ret (rs, m) ∧ M.step m op = .ret (r, s') := by
  rw [run_append]
  constructor
  · intro h
    obtain ⟨⟨rs', m⟩, before, h⟩ := Exec.bind_eq_ret.mp h
    obtain ⟨⟨last, e⟩, after, h⟩ := Exec.bind_eq_ret.mp h
    obtain ⟨⟨r', k⟩, step, after⟩ := Exec.bind_eq_ret.mp after
    cases after
    rw [Exec.ret.injEq, Prod.mk.injEq] at h
    obtain ⟨same, rfl⟩ := h
    obtain ⟨rfl, last⟩ := List.append_inj' same rfl
    cases last
    exact ⟨m, before, step⟩
  · rintro ⟨m, before, step⟩
    simp [before, run, step]

theorem Trace.cons {s s' s'' : State} {op : Op} {r : Result} {t : List (Op × Result)}
    (first : M.step s op = .ret (r, s')) (rest : M.Trace s' t s'') :
    M.Trace s ((op, r) :: t) s'' := by
  induction rest with
  | nil => exact .snoc .nil first
  | snoc _ last ih => exact .snoc ih last

theorem Trace.append {s s' s'' : State} {t t' : List (Op × Result)} (first : M.Trace s t s') (rest : M.Trace s' t' s'') :
    M.Trace s (t ++ t') s'' := by
  induction rest with
  | nil => simpa using first
  | @snoc t' a b op r _ last ih =>
    rw [← List.append_assoc]
    exact ih.snoc last

/-- A nonempty history ends with a step. -/
theorem Trace.snoc_inv {s s' : State} {op : Op} {r : Result} {t : List (Op × Result)}
    (h : M.Trace s (t ++ [(op, r)]) s') :
    ∃ m, M.Trace s t m ∧ M.step m op = .ret (r, s') := by
  generalize whole : t ++ [(op, r)] = u at h
  cases h with
  | nil => simp at whole
  | snoc before last =>
    obtain ⟨same, tail⟩ := List.append_inj' whole rfl
    cases tail
    subst same
    exact ⟨_, before, last⟩

/-- Every history can be cut at any point. -/
theorem Trace.split {s s' : State} {t t' : List (Op × Result)} (h : M.Trace s (t ++ t') s') :
    ∃ m, M.Trace s t m ∧ M.Trace m t' s' := by
  induction t' using List.reverseRecOn generalizing s' with
  | nil => exact ⟨s', by simpa using h, .nil⟩
  | append_singleton t' last ih =>
    obtain ⟨op, r⟩ := last
    rw [← List.append_assoc] at h
    obtain ⟨m, before, step⟩ := h.snoc_inv
    obtain ⟨k, left, right⟩ := ih before
    exact ⟨k, left, .snoc right step⟩

/-- The step that a history performed at a given place. -/
theorem Trace.step_at {s s' : State} {op : Op} {r : Result} {t t' : List (Op × Result)}
    (h : M.Trace s (t ++ (op, r) :: t') s') :
    ∃ a b, M.Trace s t a ∧ M.step a op = .ret (r, b) ∧ M.Trace b t' s' := by
  have regroup : t ++ (op, r) :: t' = (t ++ [(op, r)]) ++ t' := by simp
  rw [regroup] at h
  obtain ⟨b, upto, after⟩ := h.split
  obtain ⟨a, before, step⟩ := upto.snoc_inv
  exact ⟨a, b, before, step, after⟩

/-- A history determines the state it leads to. -/
theorem Trace.unique {s a b : State} {t : List (Op × Result)} (ha : M.Trace s t a) (hb : M.Trace s t b) :
    a = b := by
  induction ha generalizing b with
  | nil =>
    generalize empty : ([] : List (Op × Result)) = u at hb
    cases hb with
    | nil => rfl
    | snoc => simp at empty
  | snoc _ last ih =>
    obtain ⟨m, before, step⟩ := hb.snoc_inv
    rw [ih before, step] at last
    cases last
    rfl

/-- **Invariants.** What holds initially and after each step holds along every history. -/
theorem Trace.invariant {I : State → Prop} {s s' : State} {t : List (Op × Result)}
    (h : M.Trace s t s') (init : I s)
    (step : ∀ a op r b, I a → M.step a op = .ret (r, b) → I b) : I s' := by
  induction h with
  | nil => exact init
  | snoc _ last ih => exact step _ _ _ _ ih last

/-- **Histories.** An invariant of the state together with what has been done so far. -/
theorem Trace.history {I : List (Op × Result) → State → Prop} {s s' : State} {t : List (Op × Result)}
    (h : M.Trace s t s') (init : I [] s)
    (step : ∀ t a op r b, M.Trace s t a → I t a → M.step a op = .ret (r, b) → I (t ++ [(op, r)]) b) :
    I t s' := by
  induction h with
  | nil => exact init
  | snoc before last ih => exact step _ _ _ _ _ before ih last

/-- **Change.** Where a step ends `P` exactly if its call satisfies `C`, a history ends it
at some point exactly if it has such a call. -/
theorem Trace.ended_iff {P : State → Prop} {C : Op × Result → Prop} {s s' : State} {t : List (Op × Result)}
    (h : M.Trace s t s') (init : P s)
    (step : ∀ t a op r b, M.Trace s t a → P a → M.step a op = .ret (r, b) → (¬ P b ↔ C (op, r))) :
    (∃ u v m, t = u ++ v ∧ M.Trace s u m ∧ ¬ P m) ↔ ∃ call ∈ t, C call := by
  induction h with
  | nil =>
    constructor
    · rintro ⟨u, v, m, whole, upto, ended⟩
      obtain ⟨rfl, rfl⟩ := List.append_eq_nil_iff.mp whole.symm
      rw [Trace.unique upto .nil] at ended
      exact (ended init).elim
    · rintro ⟨call, member, -⟩
      cases member
  | @snoc t a b op r before last ih =>
    have earlier : (∃ call ∈ t, C call) → ∃ call ∈ t ++ [(op, r)], C call := by
      rintro ⟨call, member, ends⟩
      exact ⟨call, List.mem_append_left _ member, ends⟩
    constructor
    · rintro ⟨u, v, m, whole, upto, ended⟩
      cases v using List.reverseRecOn with
      | nil =>
        rw [List.append_nil] at whole
        subst whole
        rw [Trace.unique upto (before.snoc last)] at ended
        -- over with the last call, or before it
        by_cases holds : P a
        · exact ⟨(op, r), List.mem_append_right _ (List.mem_singleton.mpr rfl),
            (step t a op r b before holds last).mp ended⟩
        · exact earlier (ih.mp ⟨t, [], a, (List.append_nil t).symm, before, holds⟩)
      | append_singleton v c =>
        rw [← List.append_assoc] at whole
        exact earlier (ih.mp ⟨u, v, m, (List.append_inj' whole rfl).1, upto, ended⟩)
    · rintro ⟨call, member, ends⟩
      by_cases holds : P a
      · obtain early | now := List.mem_append.mp member
        · obtain ⟨u, v, m, rfl, upto, ended⟩ := ih.mpr ⟨call, early, ends⟩
          exact ⟨u, v ++ [(op, r)], m, List.append_assoc _ _ _, upto, ended⟩
        · rw [List.mem_singleton.mp now] at ends
          exact ⟨t ++ [(op, r)], [], b, (List.append_nil _).symm, before.snoc last,
            (step t a op r b before holds last).mpr ends⟩
      · exact ⟨t, [(op, r)], a, rfl, before, holds⟩

/-- The histories are exactly what `run` computes. -/
theorem run_eq_ret {s s' : State} {ops : List Op} {rs : List Result} :
    M.run s ops = .ret (rs, s') ↔ ∃ t, M.Trace s t s' ∧ t.map Prod.fst = ops ∧ t.map Prod.snd = rs := by
  induction ops generalizing s rs with
  | nil =>
    constructor
    · intro h
      cases h
      exact ⟨[], .nil, rfl, rfl⟩
    · rintro ⟨t, h, ops, rfl⟩
      cases List.map_eq_nil_iff.mp ops
      rw [Trace.unique h .nil]
      rfl
  | cons op ops ih =>
    constructor
    · intro h
      obtain ⟨⟨r, m⟩, first, h⟩ := Exec.bind_eq_ret.mp h
      obtain ⟨⟨rs', e⟩, rest, h⟩ := Exec.bind_eq_ret.mp h
      cases h
      obtain ⟨t, trace, hops, hrs⟩ := ih.mp rest
      exact ⟨(op, r) :: t, .cons first trace, by simp [hops], by simp [hrs]⟩
    · rintro ⟨t, h, hops, rfl⟩
      cases t with
      | nil => cases hops
      | cons head t =>
        obtain ⟨op', r⟩ := head
        cases hops
        obtain ⟨a, b, start, first, rest⟩ := h.step_at (t := [])
        cases Trace.unique start .nil
        have tail := ih.mpr ⟨t, rest, rfl, rfl⟩
        simp [run, Exec.bind, first, tail]

/-- The history of a run: its operations with their results. -/
theorem run_trace {s s' : State} {ops : List Op} {rs : List Result} (h : M.run s ops = .ret (rs, s')) :
    M.Trace s (ops.zip rs) s' := by
  obtain ⟨t, trace, hops, hrs⟩ := run_eq_ret.mp h
  rw [← List.zip_of_prod hops hrs]
  exact trace

theorem run_length {s s' : State} {ops : List Op} {rs : List Result} (h : M.run s ops = .ret (rs, s')) :
    rs.length = ops.length := by
  obtain ⟨t, -, rfl, rfl⟩ := run_eq_ret.mp h
  rw [List.length_map, List.length_map]

/-- **No panics.** Under an invariant that makes every step return, every run returns. -/
theorem run_returns {I : State → Prop}
    (step : ∀ a op, I a → ∃ r b, M.step a op = .ret (r, b) ∧ I b) {s : State} (init : I s) (ops : List Op) :
    ∃ rs s', M.run s ops = .ret (rs, s') ∧ I s' := by
  induction ops generalizing s with
  | nil => exact ⟨[], s, rfl, init⟩
  | cons op ops ih =>
    obtain ⟨r, m, first, hm⟩ := step s op init
    obtain ⟨rs, e, rest, he⟩ := ih hm
    exact ⟨r :: rs, e, by simp [run, Exec.bind, first, rest], he⟩

section Simulation

variable {State' : Type u} {Result' : Type w} {M' : Machine State' Op Result'}

/-- **Simulation.** Related states that step alike run alike: the same calls panic,
and the others return related results. -/
theorem run_rel {S : State → State' → Prop} {R : Result → Result' → Prop}
    (step : ∀ a a' op, S a a' →
      (M.step a op).Rel (fun p q => R p.1 q.1 ∧ S p.2 q.2) (M'.step a' op))
    {s : State} {s' : State'} (init : S s s') (ops : List Op) :
    (M.run s ops).Rel (fun p q => List.Forall₂ R p.1 q.1 ∧ S p.2 q.2) (M'.run s' ops) := by
  induction ops generalizing s s' with
  | nil => exact ⟨.nil, init⟩
  | cons op ops ih =>
    refine Exec.Rel.bind (step s s' op init) ?_
    rintro ⟨r, a⟩ ⟨r', a'⟩ ⟨hr, ha⟩
    refine Exec.Rel.bind (ih ha) ?_
    rintro ⟨rs, e⟩ ⟨rs', e'⟩ ⟨hrs, he⟩
    exact ⟨.cons hr hrs, he⟩

end Simulation

end Machine

end GpuDriverLab
