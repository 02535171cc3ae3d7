import Mathlib.Logic.Basic

/-!
# Guards of fallible code

Fallible code is a sequence of checks, each of which ends the call with its
own message, followed by the result. `require` is one check and `found` a
lookup that must succeed. The lemmas invert a SUCCESSFUL call: they list what
it has passed on the way. Those of the last section invert a FAILED one: it
failed here, or in the rest.
-/

namespace HermesToken.Lib

variable {p : Prop}

universe u v

variable {α : Type u} {ε : Type v}

/-- Continue if `p` holds, fail with `e` otherwise. -/
def require (p : Prop) [Decidable p] (e : ε) : Except ε PUnit.{u + 1} :=
  if p then .ok ⟨⟩ else .error e

/-- The value of a lookup, or the error `e` when there is none. -/
def found (x : Option α) (e : ε) : Except ε α :=
  match x with
  | some a => .ok a
  | none => .error e

@[simp] theorem seq_ok {f : α → Except ε β} : (x >>= f) = .ok b ↔ ∃ a, x = .ok a ∧ f a = .ok b := by
  constructor
  · intro h
    cases x with
    | error => cases h
    | ok a => exact ⟨a, rfl, h⟩
  · rintro ⟨a, rfl, h⟩
    exact h

@[simp] theorem require_ok [Decidable p] : require p e = .ok u ↔ p := by
  unfold require
  split <;> simp_all

@[simp] theorem found_ok : found x e = .ok a ↔ x = some a := by
  cases x <;> simp [found]

@[simp] theorem return_ok : (pure a : Except ε α) = .ok b ↔ a = b :=
  ⟨fun h => Except.ok.inj h, fun h => congrArg _ h⟩

theorem map_ok {x : Except ε α} {b : β} : x.map f = .ok b ↔ ∃ a, x = .ok a ∧ f a = b := by
  cases x with
  | error | ok => simp [Except.map]

@[simp] theorem require_seq_ok [Decidable p] {f : PUnit.{u + 1} → Except ε β} :
    (require p e >>= f) = .ok b ↔ p ∧ f ⟨⟩ = .ok b := by
  rw [seq_ok]
  exact ⟨fun ⟨_, hp, hf⟩ => ⟨require_ok.mp hp, hf⟩, fun ⟨hp, hf⟩ => ⟨⟨⟩, require_ok.mpr hp, hf⟩⟩

@[simp] theorem found_seq_ok {e : ε} {f : α → Except ε β} :
    (found x e >>= f) = .ok b ↔ ∃ a, x = some a ∧ f a = .ok b := by
  simp only [seq_ok, found_ok]

/-! ## Failed calls -/

theorem seq_error {f : α → Except ε β} (h : (x >>= f) = .error e) :
    x = .error e ∨ ∃ a, x = .ok a ∧ f a = .error e := by
  cases x with
  | error =>
    cases h
    exact .inl rfl
  | ok a => exact .inr ⟨a, rfl, h⟩

theorem map_error_iff {x : Except ε α} {f : α → β} : x.map f = .error e ↔ x = .error e := by
  cases x <;> simp [Except.map]

theorem require_seq_error [Decidable p] {f : PUnit.{u + 1} → Except ε β}
    (h : (require p e >>= f) = .error e') : e' = e ∨ f ⟨⟩ = .error e' := by
  unfold require at h
  split at h
  · exact .inr h
  · cases h
    exact .inl rfl

theorem found_seq_error (h : (found x e >>= f) = .error e') :
    x = none ∧ e' = e ∨ ∃ a, x = some a ∧ f a = .error e' := by
  cases x with
  | none =>
    cases h
    exact .inl ⟨rfl, rfl⟩
  | some a => exact .inr ⟨a, rfl, h⟩

/-- An error of the call is an allowed one. -/
def ErrorsIn (allowed : ε → Prop) (x : Except ε α) : Prop := ∀ e, x = .error e → allowed e

theorem errorsIn_pure : ErrorsIn allowed (pure a : Except ε α) := by
  intro e he
  cases he

theorem errorsIn_error (h : allowed e) : ErrorsIn allowed (.error e : Except ε α) := by
  rintro e' ⟨⟩
  exact h

theorem errorsIn_seq {f : α → Except ε β} (hx : ErrorsIn allowed x)
    (hf : ∀ a, ErrorsIn allowed (f a)) : ErrorsIn allowed (x >>= f) := by
  intro e he
  rcases seq_error he with hx' | ⟨a, -, hf'⟩
  · exact hx e hx'
  · exact hf a e hf'

theorem errorsIn_require [Decidable p] (h : ¬ p → allowed e) :
    ErrorsIn allowed (require p e : Except ε PUnit.{u + 1}) := by
  intro e' he
  unfold require at he
  split at he
  · cases he
  · cases he
    exact h ‹_›

theorem errorsIn_require_seq [Decidable p] {f : PUnit.{u + 1} → Except ε β}
    (h : ¬ p → allowed e) (hf : ErrorsIn allowed (f ⟨⟩)) : ErrorsIn allowed (require p e >>= f) :=
  errorsIn_seq (errorsIn_require h) fun _ => hf

theorem errorsIn_found (h : allowed e) : ErrorsIn allowed (found x e) := by
  cases x with
  | none => exact errorsIn_error h
  | some => exact errorsIn_pure

end HermesToken.Lib
