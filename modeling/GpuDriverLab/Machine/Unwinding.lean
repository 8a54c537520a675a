import GpuDriverLab.Machine.Trace

/-!
# Refinement and noninterference of machines

Rules that compare the runs of two machines. `run_rel_map` is simulation where
the second machine is told less of each call. `run_purge` is noninterference by
unwinding: calls that leave the related state alone can be removed from a run
without any kept call noticing. `Trace.filter` is the one-run form: calls that
change nothing can be removed from a history, so that a log of the others
(`Logs`) replays to the same state.
-/

namespace GpuDriverLab
set_option autoImplicit false
open Rust

universe u v w

namespace Machine

section TwoMachines

variable {State State' : Type u} {Op : Type v} {Op' : Type v} {Result Result' : Type w}
  {M : Machine State Op Result} {M' : Machine State' Op' Result'}
  {S : State → State' → Prop} {R : Result → Result' → Prop}

/-- **Refinement.** If the second machine, told `f op` of each call, steps as the first does,
it runs as the first does. -/
theorem run_rel_map {f : Op → Op'}
    (step : ∀ a a' op, S a a' →
      (M.step a op).Rel (fun p q => R p.1 q.1 ∧ S p.2 q.2) (M'.step a' (f op)))
    {s : State} {s' : State'} (init : S s s') (ops : List Op) :
    (M.run s ops).Rel (fun p q => List.Forall₂ R p.1 q.1 ∧ S p.2 q.2) (M'.run s' (ops.map f)) := by
  induction ops generalizing s s' with
  | nil => exact ⟨.nil, init⟩
  | cons op ops ih =>
    refine Exec.Rel.bind (step s s' op init) ?_
    rintro ⟨r, a⟩ ⟨r', a'⟩ ⟨hr, ha⟩
    refine Exec.Rel.bind (ih ha) ?_
    rintro ⟨rs, e⟩ ⟨rs', e'⟩ ⟨hrs, he⟩
    exact ⟨.cons hr hrs, he⟩

end TwoMachines

section Purge

variable {State State' : Type u} {Op : Type v} {Result : Type w} {M : Machine State Op Result}
  {M' : Machine State' Op Result} {S : State → State' → Prop} {keep : Op → Bool}

/-- The results of the calls that `keep` lets pass. -/
def keptResults (keep : Op → Bool) (ops : List Op) (rs : List Result) : List Result :=
  ((ops.zip rs).filter fun call => keep call.1).map Prod.snd

theorem keptResults_cons_pos {op : Op} {r : Result} (kept : keep op = true) (ops : List Op) (rs : List Result) :
    keptResults keep (op :: ops) (r :: rs) = r :: keptResults keep ops rs := by
  simp [keptResults, kept]

theorem keptResults_cons_neg {op : Op} {r : Result} (dropped : keep op = false) (ops : List Op) (rs : List Result) :
    keptResults keep (op :: ops) (r :: rs) = keptResults keep ops rs := by
  simp [keptResults, dropped]

/-- **Unwinding.** Kept calls answer alike in related states, and the others return to a related
state. Then the run of the kept calls alone answers them as the whole run does. -/
theorem run_purge
    (kept : ∀ a b op, keep op = true → S a b →
      (M.step a op).Rel (fun p q => p.1 = q.1 ∧ S p.2 q.2) (M'.step b op))
    (dropped : ∀ a b op, keep op = false → S a b → ∃ r a', M.step a op = .ret (r, a') ∧ S a' b)
    {s : State} {s' : State'} (init : S s s') (ops : List Op) :
    (M.run s ops).Rel (fun p q => keptResults keep ops p.1 = q.1 ∧ S p.2 q.2) (M'.run s' (ops.filter keep)) := by
  induction ops generalizing s s' with
  | nil => exact ⟨rfl, init⟩
  | cons op ops ih =>
    cases mine : keep op with
    | true =>
      rw [List.filter_cons_of_pos mine]
      refine Exec.Rel.bind (kept s s' op mine init) ?_
      rintro ⟨r, a⟩ ⟨r', a'⟩ ⟨rfl, after⟩
      refine Exec.Rel.bind (ih after) ?_
      rintro ⟨rs, e⟩ ⟨rs', e'⟩ ⟨same, last⟩
      exact ⟨by rw [keptResults_cons_pos mine]; exact congrArg (r :: ·) same, last⟩
    | false =>
      obtain ⟨r, a, step, after⟩ := dropped s s' op mine init
      rw [List.filter_cons_of_neg (by rw [mine]; exact Bool.false_ne_true), run, step, Exec.ret_bind]
      -- the first call is over; what it returned is not among the kept results
      refine Exec.Rel.map_left ((ih after).mono ?_)
      rintro ⟨rs, e⟩ ⟨rs', e'⟩ ⟨same, last⟩
      exact ⟨by rw [keptResults_cons_neg mine]; exact same, last⟩

end Purge

section Filter

variable {State : Type u} {Op : Type v} {Result : Type w} {M : Machine State Op Result}

/-- **Replay.** A history stays one, to the same state, without the calls that change nothing. -/
theorem Trace.filter {keep : Op × Result → Bool}
    (quiet : ∀ a op r b, keep (op, r) = false → M.step a op = .ret (r, b) → b = a)
    {s s' : State} {t : List (Op × Result)} (h : M.Trace s t s') : M.Trace s (t.filter keep) s' := by
  induction h with
  | nil => exact .nil
  | @snoc t a b op r _ step ih =>
    rw [List.filter_append]
    cases mine : keep (op, r) with
    | true =>
      rw [List.filter_cons_of_pos mine, List.filter_nil]
      exact .snoc ih step
    | false =>
      rw [List.filter_cons_of_neg (by rw [mine]; exact Bool.false_ne_true), List.filter_nil, List.append_nil,
        quiet a op r b mine step]
      exact ih

/-- Events of calls: a call without one changes nothing, and an event tells its call. -/
structure Logs {E : Type v} (M : Machine State Op Result) (event : Op × Result → Option E) (call : E → Op) : Prop where
  quiet : ∀ a op r b, event (op, r) = none → M.step a op = .ret (r, b) → b = a
  told : ∀ op r e, event (op, r) = some e → call e = op

/-- The calls that an event tells of. -/
theorem Logs.calls {E : Type v} {event : Op × Result → Option E} {call : E → Op} (logs : Logs M event call)
    (t : List (Op × Result)) :
    (t.filter fun c => (event c).isSome).map Prod.fst = (t.filterMap event).map call := by
  induction t with
  | nil => rfl
  | cons c t ih =>
    cases e : event c with
    | none => rw [List.filter_cons_of_neg (by simp [e]), List.filterMap_cons_none e, ih]
    | some changed =>
      rw [List.filter_cons_of_pos (by simp [e]), List.filterMap_cons_some e, List.map_cons, List.map_cons, ih,
        logs.told c.1 c.2 changed e]

/-- **The log replays.** The calls that the events of a history tell of lead to the same state,
with the same events. -/
theorem Logs.replay {E : Type v} {event : Op × Result → Option E} {call : E → Op} (logs : Logs M event call)
    {s s' : State} {t : List (Op × Result)} (h : M.Trace s t s') : ∃ rs,
    M.run s ((t.filterMap event).map call) = .ret (rs, s') ∧
      (((t.filterMap event).map call).zip rs).filterMap event = t.filterMap event := by
  have changes : M.Trace s (t.filter fun c => (event c).isSome) s' := by
    apply h.filter
    intro a op r b dropped step
    exact logs.quiet a op r b (by simpa using dropped) step
  have zipped : ((t.filterMap event).map call).zip ((t.filter fun c => (event c).isSome).map Prod.snd) =
      t.filter fun c => (event c).isSome := (List.zip_of_prod (logs.calls t) rfl).symm
  refine ⟨_, run_eq_ret.mpr ⟨_, changes, logs.calls t, rfl⟩, ?_⟩
  rw [zipped, List.filterMap_filter]
  congr 1
  funext c
  cases event c <;> rfl

end Filter

end Machine

end GpuDriverLab
