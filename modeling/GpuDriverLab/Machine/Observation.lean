import GpuDriverLab.Machine.Trace

/-!
# What calls can tell apart

Two states answer alike, to the calls of a set, when every list of such calls
gets results from one that correspond to the results it gets from the other. A
simulation shows it, one step keeps it, and it composes, so that machines can be
compared through a third.
-/

namespace GpuDriverLab
set_option autoImplicit false
open Rust

universe u v w

namespace Machine

variable {Op : Type v} {State State' State'' : Type u} {Result Result' Result'' : Type w}
  {M : Machine State Op Result} {M' : Machine State' Op Result'} {M'' : Machine State'' Op Result''}
  {P P₂ : Op → Prop} {R R₂ : Result → Result' → Prop} {R' : Result' → Result'' → Prop} {s : State} {s' : State'}
  {s'' : State''}

/-- No calls that satisfy `P` tell the two states apart, as far as `R` compares results. -/
def AnswersAlike (P : Op → Prop) (M : Machine State Op Result) (M' : Machine State' Op Result')
    (R : Result → Result' → Prop) (s : State) (s' : State') : Prop :=
  ∀ ops, (∀ op ∈ ops, P op) → (M.run s ops).Rel (fun p q => List.Forall₂ R p.1 q.1) (M'.run s' ops)

namespace AnswersAlike

/-- **Simulation** is enough. -/
theorem of_step {S : State → State' → Prop}
    (step : ∀ a a' op, S a a' → (M.step a op).Rel (fun p q => R p.1 q.1 ∧ S p.2 q.2) (M'.step a' op))
    (init : S s s') : AnswersAlike P M M' R s s' :=
  fun ops _ => (run_rel step init ops).mono fun _ _ both => both.1

/-- **One more call.** Its results correspond, and the states after it answer alike again. -/
theorem step (alike : AnswersAlike P M M' R s s') {op : Op} (mine : P op) :
    (M.step s op).Rel (fun p q => R p.1 q.1 ∧ AnswersAlike P M M' R p.2 q.2) (M'.step s' op) := by
  have more := fun ops (all : ∀ later ∈ ops, P later) => alike (op :: ops) (List.forall_mem_cons.mpr ⟨mine, all⟩)
  simp only [run] at more
  have once := more [] (List.forall_mem_nil P)
  cases first : M.step s op with
  | panic why =>
    rw [first] at once
    cases first' : M'.step s' op with
    | panic why' => trivial
    | ret q =>
      rw [first'] at once
      exact once.elim
  | ret p =>
    rw [first] at once more
    cases first' : M'.step s' op with
    | panic why' =>
      rw [first'] at once
      exact once.elim
    | ret q =>
      rw [first'] at once more
      obtain ⟨r, a⟩ := p
      obtain ⟨r', a'⟩ := q
      have same : List.Forall₂ R [r] [r'] := once
      refine ⟨(List.forall₂_cons.mp same).1, ?_⟩
      intro ops all
      -- the results of the longer calls, without the first
      have longer := more ops all
      simp only [Exec.ret_bind] at longer
      cases rest : M.run a ops <;> cases rest' : M'.run a' ops <;> rw [rest, rest'] at longer
      · exact (List.forall₂_cons.mp longer).2
      · exact longer
      · exact longer
      · exact longer

theorem mono (weaker : ∀ r r', R r r' → R₂ r r') (alike : AnswersAlike P M M' R s s') : AnswersAlike P M M' R₂ s s' :=
  fun ops all => (alike ops all).mono fun _ _ same => same.imp weaker

/-- Fewer calls tell less apart. -/
theorem restrict (fewer : ∀ op, P₂ op → P op) (alike : AnswersAlike P M M' R s s') : AnswersAlike P₂ M M' R s s' :=
  fun ops all => alike ops fun op member => fewer op (all op member)

theorem flip (alike : AnswersAlike P M M' R s s') : AnswersAlike P M' M (fun r' r => R r r') s' s :=
  fun ops all => (alike ops all).flip.mono fun _ _ same => List.Forall₂.flip same

theorem trans (left : AnswersAlike P M M' R s s') (right : AnswersAlike P M' M'' R' s' s'') :
    AnswersAlike P M M'' (fun r r'' => ∃ r', R r r' ∧ R' r' r'') s s'' := by
  intro ops all
  apply ((left ops all).comp (right ops all)).mono
  rintro ⟨rs, a⟩ ⟨rs'', c⟩ ⟨⟨rs', b⟩, same, same'⟩
  dsimp only at same same' ⊢
  induction same generalizing rs'' with
  | nil =>
    cases same'
    exact .nil
  | cons first _ ih =>
    cases same' with
    | cons second rest => exact .cons ⟨_, first, second⟩ (ih _ rest)

end AnswersAlike

end Machine

end GpuDriverLab
