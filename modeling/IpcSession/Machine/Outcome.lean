import Mathlib.Logic.Basic
import Mathlib.Tactic.Common

/-!
# Outcomes of a step

What one step of a program comes to: it is `done` in a new state, it is `disabled` (the step
cannot be taken in this state), or it has `failed` (an assertion, an exception, undefined
behaviour).  `Outcome ε` is a monad whose `bind` stops at the first `disabled` or `failed`;
`bind_eq_done` is the one inversion lemma through which every proof about a sequence of calls
takes the calls apart.
-/

/-- What a step comes to; `ε` says how it can fail. -/
inductive Outcome (ε α : Type*) where
  /-- The step was taken. -/
  | done (a : α)
  /-- The step cannot be taken here. -/
  | disabled
  /-- The step ends the program. -/
  | failed (e : ε)
  deriving DecidableEq, Repr

namespace Outcome

variable {ε α β : Type*}

instance : Monad (Outcome ε) where
  pure := done
  bind
    | done a, f => f a
    | disabled, _ => disabled
    | failed e, _ => failed e

/-- `pure` in a program is `done`. -/
@[simp] theorem pure_eq (a : α) : (pure a : Outcome ε α) = done a := rfl
@[simp] theorem done_bind {α β : Type _} (a : α) (f : α → Outcome ε β) :
    ((done a : Outcome ε α) >>= f) = f a := rfl
/-- Once a program is not enabled, no more of it runs. -/
@[simp] theorem disabled_bind {α β : Type _} (f : α → Outcome ε β) :
    ((disabled : Outcome ε α) >>= f) = disabled := rfl
/-- A failed assertion ends the program. -/
@[simp] theorem failed_bind {α β : Type _} (e : ε) (f : α → Outcome ε β) :
    ((failed e : Outcome ε α) >>= f) = failed e := rfl

/-- A sequence is done exactly when each part is. -/
@[simp] theorem bind_eq_done {α β : Type _} {x : Outcome ε α} {f : α → Outcome ε β} {b : β} :
    (x >>= f) = done b ↔ ∃ a, x = done a ∧ f a = done b := by
  cases x <;> simp

/-- A sequence fails exactly when its first part does, or the first is done and the rest fails. -/
theorem bind_eq_failed {α β : Type _} {x : Outcome ε α} {f : α → Outcome ε β} {e : ε} :
    (x >>= f) = failed e ↔ x = failed e ∨ ∃ a, x = done a ∧ f a = failed e := by
  cases x <;> simp

/-- Go on only where the step is possible. -/
def require (c : Bool) : Outcome ε Unit := if c then done () else disabled

/-- Go on only where the program does not fail. -/
def check (e : ε) (c : Bool) : Outcome ε Unit := if c then done () else failed e

/-- A requirement that is met does nothing. -/
theorem require_true : (require true : Outcome ε Unit) = done () := rfl
/-- An assertion that holds does nothing. -/
theorem check_true {e : ε} : check e true = done () := rfl

/-- A requirement lets the program through if it is met, and only then. -/
@[simp] theorem require_eq_done {c : Bool} {u : Unit} :
    (require c : Outcome ε Unit) = done u ↔ c = true := by
  cases c <;> simp [require]

/-- An assertion lets the program through if it holds, and only then. -/
@[simp] theorem check_eq_done {e : ε} {c : Bool} {u : Unit} :
    check e c = done u ↔ c = true := by
  cases c <;> simp [check]

/-- An unmet requirement is not a failure: the step just cannot be taken. -/
@[simp] theorem require_ne_failed {c : Bool} {e : ε} :
    (require c : Outcome ε Unit) ≠ failed e := by
  cases c <;> simp [require]

/-- The failure of an assertion names that assertion. -/
theorem check_eq_failed {e e' : ε} {c : Bool} :
    check e c = failed e' ↔ c = false ∧ e = e' := by
  cases c <;> simp [check]

/-- Whether the step was taken, to a state with property `p`. -/
def any (p : α → Bool) : Outcome ε α → Bool
  | done a => p a
  | _ => false

/-- The Boolean test of a result, as a proposition about the value. -/
theorem any_iff {p : α → Bool} {x : Outcome ε α} :
    x.any p = true ↔ ∃ a, x = done a ∧ p a = true := by
  cases x <;> simp [any]

/-! ### Steps that can be taken -/

/-- `x` is not disabled, and where it is done, `Q` holds. -/
def Goes (Q : α → Prop) : Outcome ε α → Prop
  | done a => Q a
  | disabled => False
  | failed _ => True

variable {Q : α → Prop}

@[simp] theorem goes_done (a : α) : (done a : Outcome ε α).Goes Q ↔ Q a := Iff.rfl
@[simp] theorem goes_disabled : (disabled : Outcome ε α).Goes Q ↔ False := Iff.rfl
@[simp] theorem goes_failed (e : ε) : (failed e : Outcome ε α).Goes Q ↔ True := Iff.rfl

@[simp] theorem goes_check {e : ε} {c : Bool} {Q : Unit → Prop} :
    (check e c).Goes Q ↔ (c = true → Q ()) := by
  cases c <;> simp [check]

@[simp] theorem goes_require {c : Bool} {Q : Unit → Prop} :
    (require c : Outcome ε Unit).Goes Q ↔ c = true ∧ Q () := by
  cases c <;> simp [require]

/-- A sequence can be taken, if its parts can. -/
@[simp] theorem goes_bind {α β : Type _} {x : Outcome ε α} {f : α → Outcome ε β} {Q : β → Prop} :
    (x >>= f).Goes Q ↔ x.Goes fun a => (f a).Goes Q := by
  cases x <;> rfl

/-- A program that goes through with one property goes through with a weaker one. -/
theorem Goes.mono {x : Outcome ε α} {R : α → Prop} (h : x.Goes Q) (hQR : ∀ a, Q a → R a) :
    x.Goes R := by
  cases x with
  | done a => exact hQR a h
  | disabled => exact h
  | failed e => trivial

/-- A program that goes through is enabled. -/
theorem Goes.ne_disabled {x : Outcome ε α} (h : x.Goes Q) : x ≠ disabled := by
  rintro rfl
  exact h

/-! ### What a step can fail with -/

/-- `x` fails, if at all, with `P`. -/
def FailsOnly (P : ε → Prop) (x : Outcome ε α) : Prop := ∀ e, x = failed e → P e

variable {P : ε → Prop}

@[simp] theorem failsOnly_done (a : α) : (done a : Outcome ε α).FailsOnly P := by
  intro e h
  cases h

@[simp] theorem failsOnly_disabled : (disabled : Outcome ε α).FailsOnly P := by
  intro e h
  cases h

@[simp] theorem failsOnly_failed {e : ε} : (failed e : Outcome ε α).FailsOnly P ↔ P e :=
  ⟨fun h => h e rfl, fun h e' he => by cases he; exact h⟩

@[simp] theorem failsOnly_require (c : Bool) : (require c : Outcome ε Unit).FailsOnly P := by
  intro e h
  exact absurd h require_ne_failed

@[simp] theorem failsOnly_check {e : ε} {c : Bool} :
    (check e c).FailsOnly P ↔ (c = false → P e) := by
  cases c <;> simp [check]

/-- A sequence fails with `P` only, if its parts do. -/
@[simp] theorem failsOnly_bind {α β : Type _} {x : Outcome ε α} {f : α → Outcome ε β} :
    (x >>= f).FailsOnly P ↔ x.FailsOnly P ∧ ∀ a, x = done a → (f a).FailsOnly P := by
  cases x with
  | done a => simp
  | disabled => simp
  | failed e => simp

/-! ### What a step yields -/

/-- `x` does not fail, and where it is done, `Q` holds. -/
def Yields (Q : α → Prop) : Outcome ε α → Prop
  | done a => Q a
  | disabled => True
  | failed _ => False

@[simp] theorem yields_done (a : α) : (done a : Outcome ε α).Yields Q ↔ Q a := Iff.rfl
@[simp] theorem yields_disabled : (disabled : Outcome ε α).Yields Q ↔ True := Iff.rfl
@[simp] theorem yields_failed (e : ε) : (failed e : Outcome ε α).Yields Q ↔ False := Iff.rfl

@[simp] theorem yields_check {e : ε} {c : Bool} {Q : Unit → Prop} :
    (check e c).Yields Q ↔ c = true ∧ Q () := by
  cases c <;> simp [check]

@[simp] theorem yields_require {c : Bool} {Q : Unit → Prop} :
    (require c : Outcome ε Unit).Yields Q ↔ (c = true → Q ()) := by
  cases c <;> simp [require]

/-- A sequence yields what its last part does. -/
@[simp] theorem yields_bind {α β : Type _} {x : Outcome ε α} {f : α → Outcome ε β} {Q : β → Prop} :
    (x >>= f).Yields Q ↔ x.Yields fun a => (f a).Yields Q := by
  cases x <;> rfl

/-- A program that yields one property yields a weaker one. -/
theorem Yields.mono {x : Outcome ε α} {R : α → Prop} (h : x.Yields Q) (hQR : ∀ a, Q a → R a) :
    x.Yields R := by
  cases x with
  | done a => exact hQR a h
  | disabled => trivial
  | failed e => exact h

/-- To yield a property is to fail in no way, and to have it of every value. -/
theorem yields_iff {x : Outcome ε α} :
    x.Yields Q ↔ (∀ e, x ≠ failed e) ∧ ∀ a, x = done a → Q a := by
  cases x <;> simp

end Outcome
