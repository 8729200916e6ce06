/-
# Checked arithmetic and early exits

Fixed-width unsigned arithmetic is modelled on natural numbers with an explicit
exclusive bound, and a computation that may stop early is an `Except`.  The
lemmas here turn a successful run of such a computation into the facts its
guards checked, so that later proofs never unfold the monad.
-/

import Mathlib.Data.Nat.Notation
import Mathlib.Tactic.Common

namespace Basilisk.Math

universe u v w

/-- Addition that fails when the result does not fit below `bound`. -/
def checkedAdd (bound a b : ℕ) : Option ℕ :=
  if a + b < bound then some (a + b) else none

/-- Subtraction that fails on underflow. -/
def checkedSub (a b : ℕ) : Option ℕ :=
  if b ≤ a then some (a - b) else none

/-- Multiplication that fails when the result does not fit below `bound`. -/
def checkedMul (bound a b : ℕ) : Option ℕ :=
  if a * b < bound then some (a * b) else none

/-- Truncating division that fails on a zero divisor. -/
def checkedDiv (a b : ℕ) : Option ℕ :=
  if b = 0 then none else some (a / b)

/-- Subtraction on a machine word of `bound` values, without a check. -/
def wrappingSub (bound a b : ℕ) : ℕ :=
  (a + (bound - b % bound)) % bound

/-- Addition on a machine word of `bound` values, without a check. -/
def wrappingAdd (bound a b : ℕ) : ℕ :=
  (a + b) % bound

/-- Multiplication on a machine word of `bound` values, without a check. -/
def wrappingMul (bound a b : ℕ) : ℕ :=
  (a * b) % bound

/-- A sum that fits the word is exact. -/
theorem wrappingAdd_of_lt {bound a b : ℕ} (fits : a + b < bound) :
    wrappingAdd bound a b = a + b :=
  Nat.mod_eq_of_lt fits

section Arithmetic

variable {bound a b c : ℕ}

@[simp]
theorem checkedAdd_eq_some :
    checkedAdd bound a b = some c ↔ a + b < bound ∧ a + b = c := by
  unfold checkedAdd
  split_ifs with fits <;> simp [fits]

@[simp]
theorem checkedSub_eq_some : checkedSub a b = some c ↔ b ≤ a ∧ a - b = c := by
  unfold checkedSub
  split_ifs with fits <;> simp [fits]

@[simp]
theorem checkedMul_eq_some :
    checkedMul bound a b = some c ↔ a * b < bound ∧ a * b = c := by
  unfold checkedMul
  split_ifs with fits <;> simp [fits]

@[simp]
theorem checkedDiv_eq_some : checkedDiv a b = some c ↔ b ≠ 0 ∧ a / b = c := by
  unfold checkedDiv
  split_ifs with fits <;> simp [fits]

end Arithmetic

section EarlyExit

variable {ε : Type u} {α : Type v} {β : Type v}

/-- Stop with `error` unless `condition` holds. -/
def ensure {ε : Type u} (condition : Prop) [Decidable condition] (error : ε) :
    Except ε Unit :=
  if condition then .ok () else .error error

/-- Read an optional value, stopping with `error` when it is absent. -/
def okOr {ε : Type u} {α : Type v} (value : Option α) (error : ε) : Except ε α :=
  match value with
  | some a => .ok a
  | none => .error error

@[simp]
theorem ensure_eq_ok {condition : Prop} [Decidable condition] {error : ε}
    {done : Unit} : ensure condition error = .ok done ↔ condition := by
  unfold ensure
  split_ifs with met <;> simp [met]

@[simp]
theorem okOr_eq_ok {value : Option α} {error : ε} {a : α} :
    okOr value error = .ok a ↔ value = some a := by
  cases value <;> simp [okOr]

/-- A sequenced computation succeeds exactly when both of its parts do. -/
@[simp]
theorem bind_eq_ok {first : Except ε α} {next : α → Except ε β} {b : β} :
    (first >>= next) = .ok b ↔ ∃ a, first = .ok a ∧ next a = .ok b := by
  cases first <;> simp [bind, Except.bind]

@[simp]
theorem return_eq_ok {a b : α} : (pure a : Except ε α) = .ok b ↔ a = b :=
  Except.ok.injEq a b ▸ Iff.rfl

/-- A failed guard stops the computation with its own error. -/
@[simp]
theorem ensure_eq_error {condition : Prop} [Decidable condition] {error e : ε} :
    ensure condition error = .error e ↔ ¬ condition ∧ error = e := by
  unfold ensure
  split_ifs with met <;> simp [met]

@[simp]
theorem okOr_eq_error {value : Option α} {error e : ε} :
    okOr value error = .error e ↔ value = none ∧ error = e := by
  cases value <;> simp [okOr]

/-- A sequenced computation fails in its first part or, after it, in its
second. -/
@[simp]
theorem bind_eq_error {first : Except ε α} {next : α → Except ε β} {e : ε} :
    (first >>= next) = .error e ↔
      first = .error e ∨ ∃ a, first = .ok a ∧ next a = .error e := by
  cases first <;> simp [bind, Except.bind]

@[simp]
theorem return_ne_error {a : α} {e : ε} : (pure a : Except ε α) ≠ .error e :=
  nofun

/-- Renaming errors keeps results. -/
@[simp]
theorem mapError_eq_ok {ε' : Type w} {f : ε → ε'} {computation : Except ε α} {a : α} :
    computation.mapError f = .ok a ↔ computation = .ok a := by
  cases computation <;> simp [Except.mapError]

/-- The option that forgets the error keeps exactly the result. -/
theorem toOption_eq_some {computation : Except ε α} {a : α} :
    computation.toOption = some a ↔ computation = .ok a := by
  cases computation <;> simp [Except.toOption]

theorem ok_bind {a : α} {next : α → Except ε β} : (.ok a >>= next) = next a := rfl

theorem error_bind {e : ε} {next : α → Except ε β} : (.error e >>= next) = .error e := rfl

/-- Translating the result of a sequenced computation translates its second part. -/
theorem map_bind {γ : Type v} {first : Except ε α} {next : α → Except ε β} {f : β → γ} :
    (first >>= next).map f = first >>= fun a => (next a).map f := by
  cases first <;> rfl

/-- Translated results agree if they do after every result of the first part. -/
theorem map_bind_congr {γ : Type v} {first : Except ε α} {next next' : α → Except ε β}
    {f : β → γ} (same : ∀ a, (next a).map f = (next' a).map f) :
    (first >>= next).map f = (first >>= next').map f := by
  rw [map_bind, map_bind]
  exact bind_congr same

theorem map_return {f : α → β} {a : α} :
    (pure a : Except ε α).map f = pure (f a) := rfl

/-- What follows a translated computation can translate by itself. -/
theorem bind_map {γ : Type v} {computation : Except ε α} {f : α → β}
    {next : β → Except ε γ} :
    computation.map f >>= next = computation >>= fun a => next (f a) := by
  cases computation <;> rfl

/-- The computation does not stop with the error `e`. -/
def Avoids (e : ε) (computation : Except ε α) : Prop :=
  computation ≠ .error e

@[simp]
theorem avoids_ok {a : α} {e : ε} : Avoids e (.ok a) := nofun

@[simp]
theorem avoids_return {a : α} {e : ε} : Avoids e (pure a : Except ε α) := nofun

@[simp]
theorem avoids_ensure {condition : Prop} [Decidable condition] {error e : ε} :
    Avoids e (ensure condition error) ↔ (error = e → condition) := by
  unfold Avoids
  rw [Ne, ensure_eq_error]
  tauto

@[simp]
theorem avoids_okOr {value : Option α} {error e : ε} :
    Avoids e (okOr value error) ↔ (error = e → value ≠ none) := by
  unfold Avoids
  rw [Ne, okOr_eq_error]
  tauto

/-- Both parts of a sequenced computation have to avoid the error. -/
@[simp]
theorem avoids_bind {first : Except ε α} {next : α → Except ε β} {e : ε} :
    Avoids e (first >>= next) ↔
      Avoids e first ∧ ∀ a, first = .ok a → Avoids e (next a) := by
  unfold Avoids
  rw [Ne, bind_eq_error]
  push Not
  rfl

/-- A decidable test of a computation's result: it succeeds, and the result
passes. -/
def succeedsWith (computation : Except ε α) (test : α → Bool) : Bool :=
  match computation with
  | .ok a => test a
  | .error _ => false

theorem succeedsWith_iff {computation : Except ε α} {test : α → Bool} :
    succeedsWith computation test = true ↔
      ∃ a, computation = .ok a ∧ test a = true := by
  cases computation <;> simp [succeedsWith]

/-- A decidable test of a computation's failure. -/
def failsWith [DecidableEq ε] (computation : Except ε α) (e : ε) : Bool :=
  match computation with
  | .ok _ => false
  | .error error => error = e

theorem failsWith_iff [DecidableEq ε] {computation : Except ε α} {e : ε} :
    failsWith computation e = true ↔ computation = .error e := by
  cases computation <;> simp [failsWith]

end EarlyExit

/-- `try_mutate` on a stored value: what a failed change has written to it is dropped. -/
def tryMutate {ε σ α : Type} (change : σ → Except ε α × σ) : StateM σ (Except ε α) :=
  fun value =>
    match change value with
    | (.ok a, changed) => (.ok a, changed)
    | (.error e, _) => (.error e, value)

end Basilisk.Math
