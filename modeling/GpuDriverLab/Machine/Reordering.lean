import GpuDriverLab.Machine.Trace
import Mathlib.Logic.Relation

/-!
# Runs up to the order of independent calls

Two neighbouring calls of a run that commute may change places. Where every
independent pair commutes, a run depends on the order of its calls only up to
such exchanges: the results move with their calls, and the last state stays.
Two clients whose calls are independent of each other therefore end alike under
every schedule.
-/

namespace GpuDriverLab
set_option autoImplicit false
open Rust

universe u v w

section Lists

variable {α β : Type v} {I : α → α → Prop}

/-- One exchange of two neighbours that `I` allows. -/
inductive Exchange (I : α → α → Prop) : List α → List α → Prop where
  | mk (before : List α) (a b : α) (after : List α) (allowed : I a b) :
      Exchange I (before ++ a :: b :: after) (before ++ b :: a :: after)

/-- Any number of exchanges. -/
abbrev Reordered (I : α → α → Prop) : List α → List α → Prop := Relation.ReflTransGen (Exchange I)

theorem Exchange.cons {xs ys : List α} (c : α) (exchange : Exchange I xs ys) : Exchange I (c :: xs) (c :: ys) := by
  obtain ⟨before, a, b, after, allowed⟩ := exchange
  exact .mk (c :: before) a b after allowed

theorem Exchange.symm (symmetric : ∀ a b, I a b → I b a) {xs ys : List α} (exchange : Exchange I xs ys) :
    Exchange I ys xs := by
  obtain ⟨before, a, b, after, allowed⟩ := exchange
  exact .mk before b a after (symmetric a b allowed)

/-- An exchange below a map is one above it. -/
theorem Exchange.of_map {f : β → α} {xs : List β} {ys : List α} (exchange : Exchange I (xs.map f) ys) :
    ∃ zs, Exchange (fun a b => I (f a) (f b)) xs zs ∧ zs.map f = ys := by
  generalize image : xs.map f = mapped at exchange
  obtain ⟨before, a, b, after, allowed⟩ := exchange
  obtain ⟨before, rest, rfl, rfl, image₁⟩ := List.map_eq_append_iff.mp image
  obtain ⟨a, rest, rfl, rfl, image₂⟩ := List.map_eq_cons_iff.mp image₁
  obtain ⟨b, after, rfl, rfl, rfl⟩ := List.map_eq_cons_iff.mp image₂
  exact ⟨before ++ b :: a :: after, .mk before a b after allowed, by rw [List.map_append, List.map_cons, List.map_cons]⟩

theorem Reordered.cons {xs ys : List α} (c : α) (reordered : Reordered I xs ys) : Reordered I (c :: xs) (c :: ys) :=
  Relation.ReflTransGen.lift (p := Exchange I) (c :: ·) (fun _ _ exchange => Exchange.cons c exchange) xs ys reordered

theorem Reordered.symm (symmetric : ∀ a b, I a b → I b a) {xs ys : List α} (reordered : Reordered I xs ys) :
    Reordered I ys xs := by
  have flips : Std.Symm (Exchange I) := ⟨fun _ _ exchange => exchange.symm symmetric⟩
  exact Relation.ReflTransGen.stdSymm.symm _ _ reordered

/-- `zs` is a schedule of the programs `xs` and `ys`. -/
inductive Schedule : List α → List α → List α → Prop where
  | nil : Schedule [] [] []
  | left (a : α) {xs ys zs : List α} : Schedule xs ys zs → Schedule (a :: xs) ys (a :: zs)
  | right (b : α) {xs ys zs : List α} : Schedule xs ys zs → Schedule xs (b :: ys) (b :: zs)

/-- A call passes a program that it is independent of. -/
theorem Reordered.pass {b : α} {xs : List α} (ys : List α) (independent : ∀ a ∈ xs, I b a) :
    Reordered I (b :: xs ++ ys) (xs ++ b :: ys) := by
  induction xs with
  | nil => exact .refl
  | cons a xs ih =>
    have first : Exchange I (b :: a :: (xs ++ ys)) (a :: b :: (xs ++ ys)) :=
      .mk [] b a (xs ++ ys) (independent a List.mem_cons_self)
    exact .head first ((ih fun c member => independent c (List.mem_cons_of_mem a member)).cons a)

/-- Every schedule of independent programs comes down to one after the other. -/
theorem Schedule.reordered {xs ys zs : List α} (schedule : Schedule xs ys zs)
    (independent : ∀ a ∈ xs, ∀ b ∈ ys, I b a) : Reordered I zs (xs ++ ys) := by
  induction schedule with
  | nil => exact .refl
  | left a _ ih =>
    exact (ih fun c member => independent c (List.mem_cons_of_mem a member)).cons a
  | @right b xs ys zs _ ih =>
    have below := ih fun c mine d theirs => independent c mine d (List.mem_cons_of_mem b theirs)
    exact (below.cons b).trans (Reordered.pass ys fun a mine => independent a mine b List.mem_cons_self)

end Lists

namespace Machine

variable {State : Type u} {Op : Type v} {Result : Type v} {M : Machine State Op Result} {I : Op → Op → Prop}

/-- The two calls end alike in the other order. -/
def Commute (M : Machine State Op Result) (s : State) (op op' : Op) : Prop :=
  ∀ r a r' b, M.step s op = .ret (r, a) → M.step a op' = .ret (r', b) →
    ∃ a', M.step s op' = .ret (r', a') ∧ M.step a' op = .ret (r, b)

/-- One exchange of independent calls. -/
theorem Trace.exchange {J : State → Prop} (keeps : ∀ a op r b, J a → M.step a op = .ret (r, b) → J b)
    (commute : ∀ a op op', J a → I op op' → M.Commute a op op') {s s' : State} (init : J s)
    {t t' : List (Op × Result)} (h : M.Trace s t s') (exchange : Exchange (fun c d => I c.1 d.1) t t') :
    M.Trace s t' s' := by
  obtain ⟨before, ⟨op, r⟩, ⟨op', r'⟩, after, allowed⟩ := exchange
  obtain ⟨a, b, upto, first, rest⟩ := h.step_at
  obtain ⟨b', c, nothing, second, rest⟩ := rest.step_at (t := [])
  cases nothing.unique .nil
  obtain ⟨a', first', second'⟩ := commute a op op' (upto.invariant init keeps) allowed r b r' c first second
  have swapped := (upto.snoc first').snoc second'
  have whole := swapped.append rest
  simpa using whole

/-- **Reordering.** Independent calls may be made in any order. -/
theorem run_reordered {J : State → Prop} (keeps : ∀ a op r b, J a → M.step a op = .ret (r, b) → J b)
    (commute : ∀ a op op', J a → I op op' → M.Commute a op op') {s s' : State} (init : J s) {ops ops' : List Op}
    {rs : List Result} (run : M.run s ops = .ret (rs, s')) (reordered : Reordered I ops ops') :
    ∃ rs', M.run s ops' = .ret (rs', s') ∧ Reordered (fun c d => I c.1 d.1) (ops.zip rs) (ops'.zip rs') := by
  induction reordered with
  | refl => exact ⟨rs, run, .refl⟩
  | @tail middle last _ exchange ih =>
    obtain ⟨rs', run', moved⟩ := ih
    obtain ⟨t, trace, rfl, rfl⟩ := run_eq_ret.mp run'
    obtain ⟨t', swap, rfl⟩ := exchange.of_map
    refine ⟨t'.map Prod.snd, run_eq_ret.mpr ⟨t', trace.exchange keeps commute init swap, rfl, rfl⟩, ?_⟩
    have halves : ∀ t : List (Op × Result), (t.map Prod.fst).zip (t.map Prod.snd) = t :=
      fun t => (List.zip_of_prod rfl rfl).symm
    rw [halves] at moved ⊢
    exact moved.tail swap

/-- **Schedules.** Independent programs end alike under every schedule. -/
theorem run_schedule {J : State → Prop} (keeps : ∀ a op r b, J a → M.step a op = .ret (r, b) → J b)
    (commute : ∀ a op op', J a → I op op' → M.Commute a op op') (symmetric : ∀ a b, I a b → I b a) {s s' : State}
    (init : J s) {xs ys zs zs' : List Op} (independent : ∀ a ∈ xs, ∀ b ∈ ys, I a b) (first : Schedule xs ys zs)
    (second : Schedule xs ys zs') {rs : List Result} (run : M.run s zs = .ret (rs, s')) :
    ∃ rs', M.run s zs' = .ret (rs', s') ∧ Reordered (fun c d => I c.1 d.1) (zs.zip rs) (zs'.zip rs') := by
  have apart : ∀ a ∈ xs, ∀ b ∈ ys, I b a := fun a mine b theirs => symmetric a b (independent a mine b theirs)
  have across : Reordered I zs zs' := (first.reordered apart).trans ((second.reordered apart).symm symmetric)
  exact run_reordered keeps commute init run across

end Machine

end GpuDriverLab
