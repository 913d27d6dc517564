import Mathlib.Logic.Basic

/-! Outcomes of Go functions with results `(T, error)`.

A call either returns a value with a nil error, returns a non-nil error, or
panics. A panic is not an error value: it unwinds the goroutine until a
deferred `recover` stops it. Slice indexing and single-result type assertions
are the two ways a panic arises in the code modelled here.
-/

set_option autoImplicit false

namespace Go

inductive Outcome (ε α : Type) where
  | ok (value : α)
  | error (err : ε)
  | panic (message : String)
  deriving Repr, DecidableEq

namespace Outcome

variable {ε α β γ : Type}

def bind : Outcome ε α → (α → Outcome ε β) → Outcome ε β
  | ok value, next => next value
  | error err, _ => error err
  | panic message, _ => panic message

instance : Monad (Outcome ε) where
  pure := ok
  bind := bind

instance : LawfulMonad (Outcome ε) := LawfulMonad.mk' (Outcome ε)
  (fun x => by cases x <;> rfl)
  (fun _ _ => rfl)
  (fun x _ _ => by cases x <;> rfl)

@[simp] theorem pure_eq (value : α) : (pure value : Outcome ε α) = ok value := rfl

@[simp] theorem ok_bind (value : α) (next : α → Outcome ε β) : ok value >>= next = next value := rfl

@[simp] theorem error_bind (err : ε) (next : α → Outcome ε β) : error err >>= next = error err := rfl

@[simp] theorem panic_bind (message : String) (next : α → Outcome ε β) :
    panic message >>= next = panic message := rfl

theorem bind_eq_ok {x : Outcome ε α} {next : α → Outcome ε β} {result : β} :
    x >>= next = ok result ↔ ∃ value, x = ok value ∧ next value = ok result := by
  cases x <;> simp [Bind.bind, bind]

theorem bind_eq_error {x : Outcome ε α} {next : α → Outcome ε β} {err : ε} :
    x >>= next = error err ↔ x = error err ∨ ∃ value, x = ok value ∧ next value = error err := by
  cases x <;> simp [Bind.bind, bind]

/-- Replace the error of a failed call; Go's `fmt.Errorf("...: %w", err)` on the
way out of a caller. Values and panics pass through. -/
def mapError (wrap : ε → ε) : Outcome ε α → Outcome ε α
  | ok value => ok value
  | error err => error (wrap err)
  | panic message => panic message

@[simp] theorem mapError_ok (wrap : ε → ε) (value : α) : (ok value).mapError wrap = ok value := rfl

@[simp] theorem mapError_error (wrap : ε → ε) (err : ε) :
    (error err : Outcome ε α).mapError wrap = error (wrap err) := rfl

@[simp] theorem mapError_panic (wrap : ε → ε) (message : String) :
    (panic message : Outcome ε α).mapError wrap = panic message := rfl

@[simp] theorem mapError_eq_ok {wrap : ε → ε} {x : Outcome ε α} {value : α} :
    x.mapError wrap = ok value ↔ x = ok value := by
  cases x <;> simp [mapError]

/-- A call into code that returns `(T, error)` and never panics, with its
error wrapped on the way out. -/
def ofExcept (wrap : ε → ε) : Except ε α → Outcome ε α
  | .ok value => ok value
  | .error err => error (wrap err)

@[simp] theorem ofExcept_ok (wrap : ε → ε) (value : α) : ofExcept wrap (.ok value) = ok value := rfl

@[simp] theorem ofExcept_error (wrap : ε → ε) (err : ε) :
    (ofExcept wrap (.error err) : Outcome ε α) = error (wrap err) := rfl

/-- The call returned, with a value or with an error. -/
def Returns : Outcome ε α → Prop
  | panic _ => False
  | _ => True

instance (x : Outcome ε α) : Decidable x.Returns :=
  match x with
  | ok _ => isTrue trivial
  | error _ => isTrue trivial
  | panic _ => isFalse id

@[simp] theorem returns_ok (value : α) : (ok value : Outcome ε α).Returns := trivial

@[simp] theorem returns_error (err : ε) : (error err : Outcome ε α).Returns := trivial

@[simp] theorem not_returns_panic (message : String) : ¬(panic message : Outcome ε α).Returns := id

theorem returns_iff {x : Outcome ε α} : x.Returns ↔ ∀ message, x ≠ panic message := by
  cases x <;> simp [Returns]

@[simp] theorem returns_ofExcept (wrap : ε → ε) (x : Except ε α) : (ofExcept wrap x).Returns := by
  cases x <;> trivial

@[simp] theorem returns_mapError (wrap : ε → ε) (x : Outcome ε α) :
    (x.mapError wrap).Returns ↔ x.Returns := by
  cases x <;> simp [mapError, Returns]

/-- A sequenced call returns exactly when its first part returns and every
continuation it can reach returns. -/
theorem returns_bind {x : Outcome ε α} {next : α → Outcome ε β} :
    (x >>= next).Returns ↔ x.Returns ∧ ∀ value, x = ok value → (next value).Returns := by
  cases x <;> simp [Bind.bind, bind, Returns]

theorem returns_bind_of {x : Outcome ε α} {next : α → Outcome ε β} (first : x.Returns)
    (rest : ∀ value, (next value).Returns) : (x >>= next).Returns :=
  returns_bind.mpr ⟨first, fun value _ => rest value⟩

/-- Go's `s[i]`: a value inside the bounds, a runtime panic outside them. -/
def index (xs : List α) (i : Nat) : Outcome ε α :=
  match xs[i]? with
  | some value => ok value
  | none => panic ("runtime error: index out of range [" ++ toString i ++ "] with length " ++
      toString xs.length)

/-- Go's `s[low:]`: the suffix, or a runtime panic past the end. -/
def sliceFrom (xs : List α) (low : Nat) : Outcome ε (List α) :=
  if low ≤ xs.length then ok (xs.drop low)
  else panic ("runtime error: slice bounds out of range [" ++ toString low ++ ":" ++
    toString xs.length ++ "]")

theorem index_of_lt {xs : List α} {i : Nat} (bound : i < xs.length) :
    (index xs i : Outcome ε α) = ok xs[i] := by
  simp [index, List.getElem?_eq_getElem bound]

theorem index_of_getElem? {xs : List α} {i : Nat} {value : α} (h : xs[i]? = some value) :
    (index xs i : Outcome ε α) = ok value := by
  simp [index, h]

theorem index_of_le {xs : List α} {i : Nat} (bound : xs.length ≤ i) :
    ∃ message, (index xs i : Outcome ε α) = panic message := by
  simp [index, List.getElem?_eq_none bound]

/-- A loop that stops at the first failing element, as `List.mapM` does. -/
theorem mapM_returns {xs : List α} {step : α → Outcome ε β}
    (each : ∀ x ∈ xs, (step x).Returns) : (xs.mapM step).Returns := by
  induction xs with
  | nil => trivial
  | cons head tail ih =>
    rw [List.mapM_cons]
    refine returns_bind_of (each head (by simp)) fun _ => ?_
    exact returns_bind_of (ih fun x member => each x (by simp [member])) fun _ => trivial

theorem mapM_eq_ok {xs : List α} {step : α → Outcome ε β} {decoded : α → β}
    (each : ∀ x ∈ xs, step x = ok (decoded x)) : xs.mapM step = ok (xs.map decoded) := by
  induction xs with
  | nil => rfl
  | cons head tail ih =>
    rw [List.mapM_cons, each head (by simp), ih fun x member => each x (by simp [member])]
    rfl

/-- A loop over the encodings of some values that reads each one back. -/
theorem mapM_map_eq_ok {xs : List α} {encode : α → β} {step : β → Outcome ε γ} {decoded : α → γ}
    (each : ∀ x ∈ xs, step (encode x) = ok (decoded x)) : (xs.map encode).mapM step = ok (xs.map decoded) := by
  induction xs with
  | nil => rfl
  | cons head tail ih =>
    rw [List.map_cons, List.mapM_cons, each head (by simp), ih fun x member => each x (by simp [member])]
    rfl

/-- A fold whose every step returns a value returns a value. -/
theorem foldlM_eq_ok_of_forall {xs : List β} {step : α → β → Outcome ε α}
    (each : ∀ acc, ∀ x ∈ xs, ∃ next, step acc x = ok next) (init : α) :
    ∃ result, xs.foldlM step init = ok result := by
  induction xs generalizing init with
  | nil => exact ⟨init, rfl⟩
  | cons x xs ih =>
    obtain ⟨next, hnext⟩ := each init x (by simp)
    obtain ⟨result, hresult⟩ := ih (fun acc y member => each acc y (by simp [member])) next
    exact ⟨result, by rw [List.foldlM_cons, hnext, ok_bind, hresult]⟩

end Outcome

end Go
