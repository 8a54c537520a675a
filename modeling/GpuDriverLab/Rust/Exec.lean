import Mathlib.Tactic.Common

/-!
# Calls that return or panic

A call of safe code returns a value or panics; there is no third outcome, since
the memory that a collection asks for is taken to be there.
`Exec` keeps the panic in the result, so that the absence of panics is a
theorem about a function and not a convention of its translation. `Exec.Rel`
relates two calls that end alike; simulations between programs are stated
with it.
-/

namespace GpuDriverLab.Rust
set_option autoImplicit false

universe u v w

/-- The reason a checked operation panicked. -/
inductive Panic where
  | addOverflow
  | subOverflow
  | divisionByZero
  | indexOutOfBounds
  | sliceInverted
  | sliceOutOfRange
  | copyLengthMismatch
deriving DecidableEq, Repr

/-- The outcome of a call. -/
inductive Exec (α : Type u) : Type u where
  | ret (a : α)
  | panic (why : Panic)
deriving DecidableEq, Repr

namespace Exec

variable {α : Type u} {β : Type v} {γ : Type w}

/-- Sequencing: a panic ends the caller too. -/
def bind (x : Exec α) (f : α → Exec β) : Exec β :=
  match x with
  | ret a => f a
  | panic why => panic why

instance : Monad Exec where
  pure := ret
  bind := bind

@[simp] theorem pure_def (a : α) : (pure a : Exec α) = ret a := rfl

@[simp] theorem bind_def {α β : Type u} (x : Exec α) (f : α → Exec β) : (x >>= f) = x.bind f := rfl

@[simp] theorem ret_bind (a : α) (f : α → Exec β) : (ret a).bind f = f a := rfl

@[simp] theorem panic_bind (why : Panic) (f : α → Exec β) : (panic why : Exec α).bind f = panic why := rfl

instance : LawfulMonad Exec := LawfulMonad.mk' Exec
  (by rintro _ (_ | _) <;> rfl) (by intros; rfl) (by rintro _ _ _ (_ | _) _ _ <;> rfl)

theorem bind_bind (x : Exec α) (f : α → Exec β) (g : β → Exec γ) :
    (x.bind f).bind g = x.bind fun a => (f a).bind g := by
  cases x <;> rfl

/-- A sequence returns exactly when both halves do. -/
theorem bind_eq_ret {x : Exec α} {f : α → Exec β} {b : β} :
    x.bind f = ret b ↔ ∃ a, x = ret a ∧ f a = ret b := by
  cases x <;> simp

/-- The call does not panic. -/
def Returns (x : Exec α) : Prop := ∃ a, x = ret a

@[simp] theorem returns_ret (a : α) : Returns (ret a) := ⟨a, rfl⟩

/-- Two calls end alike: both return related values, or both panic. -/
def Rel (R : α → β → Prop) : Exec α → Exec β → Prop
  | ret a, ret b => R a b
  | panic _, panic _ => True
  | _, _ => False

theorem Rel.mono {R S : α → β → Prop} (weaker : ∀ a b, R a b → S a b) {x : Exec α} {y : Exec β}
    (h : Rel R x y) : Rel S x y := by
  cases x <;> cases y
  · exact weaker _ _ h
  all_goals exact h

/-- What two related calls return may be used to relate it more closely. -/
theorem Rel.mono_of_ret {R S : α → β → Prop} {x : Exec α} {y : Exec β} (h : Rel R x y)
    (stronger : ∀ a b, x = ret a → y = ret b → R a b → S a b) : Rel S x y := by
  cases x <;> cases y
  · exact stronger _ _ rfl rfl h
  all_goals exact h

/-- A simulation of the first call, then of every continuation. -/
theorem Rel.bind {α' : Type u} {β' : Type v} {R : α → α' → Prop} {S : β → β' → Prop}
    {x : Exec α} {y : Exec α'} {f : α → Exec β} {g : α' → Exec β'}
    (first : Rel R x y) (next : ∀ a b, R a b → Rel S (f a) (g b)) :
    Rel S (x.bind f) (y.bind g) := by
  cases x with
  | ret a =>
    cases y with
    | ret b => exact next a b first
    | panic why => exact first.elim
  | panic why =>
    cases y with
    | ret b => exact first.elim
    | panic why' => trivial

/-- A returning call is related only to a returning one. -/
theorem Rel.ret_left {R : α → β → Prop} {a : α} {y : Exec β} (h : Rel R (ret a) y) :
    ∃ b, y = ret b ∧ R a b := by
  cases y with
  | ret b => exact ⟨b, rfl, h⟩
  | panic why => exact h.elim

theorem Rel.ret_right {R : α → β → Prop} {b : β} {x : Exec α} (h : Rel R x (ret b)) :
    ∃ a, x = ret a ∧ R a b := by
  cases x with
  | ret a => exact ⟨a, rfl, h⟩
  | panic why => exact h.elim

/-- What the first call returns may be reshaped before the comparison. -/
theorem Rel.map_left {α' : Type u} {R : α' → β → Prop} {f : α → α'} {x : Exec α} {y : Exec β}
    (h : Rel (fun a b => R (f a) b) x y) : Rel R (x.bind fun a => ret (f a)) y := by
  cases x <;> cases y <;> exact h

theorem Rel.flip {R : α → β → Prop} {x : Exec α} {y : Exec β} (h : Rel R x y) : Rel (fun b a => R a b) y x := by
  cases x <;> cases y <;> exact h

/-- Calls that end as a third one does end alike. -/
theorem Rel.comp {R : α → β → Prop} {S : β → γ → Prop} {x : Exec α} {y : Exec β} {z : Exec γ}
    (first : Rel R x y) (second : Rel S y z) : Rel (fun a c => ∃ b, R a b ∧ S b c) x z := by
  cases x with
  | ret a =>
    obtain ⟨b, rfl, left⟩ := first.ret_left
    obtain ⟨c, rfl, right⟩ := second.ret_left
    exact ⟨b, left, right⟩
  | panic why =>
    cases y with
    | ret b => exact first.elim
    | panic why' =>
      cases z with
      | ret c => exact second.elim
      | panic why'' => trivial

end Exec

end GpuDriverLab.Rust
