import Mathlib.Data.List.Induction
import Mathlib.Tactic.Common

/-!
# Loops that end by a result

A loop body turns a state into the next state or into the result of the loop,
and says in a label what it did on the way. `loop` runs a body on fuel;
`Rounds` are the rounds that went on. A loop invariant is an invariant of
`Rounds`, and a measure that every such round lowers makes the loop total.
-/

namespace GpuDriverLab
set_option autoImplicit false

universe u v w

/-- What one round of a loop does. -/
inductive Flow (State : Type u) (Label : Type v) (Result : Type w) where
  | next (label : Label) (s : State)
  | done (label : Label) (result : Result)

variable {State : Type u} {Label : Type v} {Result : Type w}

/-- Run a body for at most `fuel` rounds: the labels in order, and the result. -/
def loop (body : State → Flow State Label Result) : Nat → State → Option (List Label × Result)
  | 0, _ => none
  | fuel + 1, s =>
    match body s with
    | .done label result => some ([label], result)
    | .next label s => (loop body fuel s).map fun p => (label :: p.1, p.2)

/-- The rounds with these labels lead from `s` to the indexed state and go on. -/
inductive Rounds (body : State → Flow State Label Result) (s : State) : List Label → State → Prop where
  | nil : Rounds body s [] s
  | snoc {labels : List Label} {a b : State} {label : Label} :
      Rounds body s labels a → body a = .next label b → Rounds body s (labels ++ [label]) b

namespace Rounds

variable {body : State → Flow State Label Result} {s : State}

theorem cons {a b : State} {label : Label} {labels : List Label} (first : body s = .next label a)
    (rest : Rounds body a labels b) : Rounds body s (label :: labels) b := by
  induction rest with
  | nil => exact .snoc .nil first
  | snoc _ last ih => exact .snoc ih last

theorem nil_inv {b : State} (h : Rounds body s [] b) : b = s := by
  generalize whole : ([] : List Label) = all at h
  cases h with
  | nil => rfl
  | snoc => simp at whole

/-- The first of several rounds. -/
theorem cons_inv {b : State} {label : Label} {labels : List Label}
    (h : Rounds body s (label :: labels) b) : ∃ a, body s = .next label a ∧ Rounds body a labels b := by
  generalize whole : label :: labels = all at h
  induction h generalizing labels with
  | nil => cases whole
  | @snoc before a b last earlier step ih =>
    cases before with
    | nil =>
      cases whole
      cases earlier.nil_inv
      exact ⟨b, step, .nil⟩
    | cons head tail =>
      rw [List.cons_append, List.cons.injEq] at whole
      obtain ⟨rfl, rfl⟩ := whole
      obtain ⟨first, start, rest⟩ := ih rfl
      exact ⟨first, start, .snoc rest step⟩

/-- **Loop invariants**, over the labels so far and the state. -/
theorem history {I : List Label → State → Prop} {labels : List Label} {b : State}
    (h : Rounds body s labels b) (init : I [] s)
    (step : ∀ labels a label b, I labels a → body a = .next label b → I (labels ++ [label]) b) : I labels b := by
  induction h with
  | nil => exact init
  | snoc _ last ih => exact step _ _ _ _ ih last

end Rounds

variable {body : State → Flow State Label Result}

/-- A loop returns exactly what a round after some rounds within its fuel returns. -/
theorem loop_eq_some {fuel : Nat} {s : State} {labels : List Label} {result : Result} :
    loop body fuel s = some (labels, result) ↔
      ∃ earlier last a, labels = earlier ++ [last] ∧ earlier.length < fuel ∧
        Rounds body s earlier a ∧ body a = .done last result := by
  induction fuel generalizing s labels with
  | zero => simp [loop]
  | succ fuel ih =>
    unfold loop
    cases first : body s with
    | done label r =>
      simp only [Option.some.injEq, Prod.mk.injEq]
      constructor
      · rintro ⟨rfl, rfl⟩
        exact ⟨[], label, s, rfl, Nat.succ_pos _, .nil, first⟩
      · rintro ⟨earlier, last, a, rfl, -, rounds, final⟩
        cases earlier with
        | nil =>
          cases rounds.nil_inv
          rw [first] at final
          cases final
          exact ⟨rfl, rfl⟩
        | cons head tail =>
          obtain ⟨b, step, -⟩ := rounds.cons_inv
          rw [first] at step
          cases step
    | next label b =>
      simp only [Option.map_eq_some_iff, Prod.mk.injEq]
      constructor
      · rintro ⟨⟨rest, r⟩, run, rfl, rfl⟩
        obtain ⟨earlier, last, a, rfl, short, rounds, final⟩ := ih.mp run
        exact ⟨label :: earlier, last, a, rfl, Nat.succ_lt_succ short, .cons first rounds, final⟩
      · rintro ⟨earlier, last, a, rfl, short, rounds, final⟩
        cases earlier with
        | nil =>
          cases rounds.nil_inv
          rw [first] at final
          cases final
        | cons head tail =>
          obtain ⟨c, step, rest⟩ := rounds.cons_inv
          rw [first] at step
          cases step
          exact ⟨(tail ++ [last], result), ih.mpr ⟨tail, last, a, rfl, Nat.lt_of_succ_lt_succ short, rest, final⟩,
            rfl, rfl⟩

/-- **Termination.** A measure that falls in every round that goes on bounds
their number, and the loop returns on any fuel above it. -/
theorem loop_terminates {I : List Label → State → Prop} (measure : State → Nat)
    (step : ∀ labels a label b, I labels a → body a = .next label b →
      I (labels ++ [label]) b ∧ measure b < measure a)
    {labels : List Label} {s a : State} (rounds : Rounds body s labels a) (holds : I labels a) :
    ∃ earlier last b result, Rounds body s earlier b ∧ I earlier b ∧ body b = .done last result ∧
      earlier.length ≤ labels.length + measure a ∧
      ∀ fuel, labels.length + measure a < fuel → loop body fuel s = some (earlier ++ [last], result) := by
  generalize size : measure a = n
  induction n using Nat.strongRecOn generalizing labels a with
  | ind n ih =>
    cases here : body a with
    | done last result =>
      refine ⟨labels, last, a, result, rounds, holds, here, Nat.le_add_right _ _, ?_⟩
      intro fuel enough
      exact loop_eq_some.mpr ⟨labels, last, a, rfl, by omega, rounds, here⟩
    | next label b =>
      obtain ⟨kept, falls⟩ := step labels a label b holds here
      obtain ⟨earlier, last, c, result, upto, invariant, final, bound, runs⟩ :=
        ih (measure b) (size ▸ falls) (rounds.snoc here) kept rfl
      rw [List.length_append, List.length_singleton] at bound runs
      refine ⟨earlier, last, c, result, upto, invariant, final, by omega, ?_⟩
      intro fuel enough
      exact runs fuel (by omega)

end GpuDriverLab
