/-
  Us8/Outcome.lean
  ================
  **How a C++ call can end.**

  A call that may throw is an `Except StdException`, with the class of the
  exception and the text `what()` returns.  Where a call can also run into
  undefined behaviour (a precondition of a library function that nothing checks
  in a release build), its result is an `Except Failure`: `undefinedBehaviour`
  is no exception, and no `catch` clause sees it.
-/
import Mathlib.Init

namespace Us8

/-! ### Sequencing calls that may fail -/

section Sequencing

variable {ε α β : Type}

@[simp] theorem ok_bind (a : α) (f : α → Except ε β) : (Except.ok a >>= f) = f a := rfl

@[simp] theorem error_bind (e : ε) (f : α → Except ε β) :
    ((Except.error e : Except ε α) >>= f) = .error e := rfl

@[simp] theorem map_ok (f : α → β) (a : α) : (f <$> (Except.ok a : Except ε α)) = .ok (f a) := rfl

@[simp] theorem map_error (f : α → β) (e : ε) :
    (f <$> (Except.error e : Except ε α)) = .error e := rfl

@[simp] theorem pure_eq_ok (a : α) : (pure a : Except ε α) = .ok a := rfl

@[simp] theorem throw_eq_error (e : ε) : (throw e : Except ε α) = .error e := rfl

theorem bind_eq_ok_iff {x : Except ε α} {f : α → Except ε β} {b : β} :
    (x >>= f) = .ok b ↔ ∃ a, x = .ok a ∧ f a = .ok b := by
  cases x <;> simp

end Sequencing

/-- The classes derived from `std::exception` that the program throws or meets. -/
inductive StdException where
  | invalidArgument (what : String)
  | runtimeError (what : String)
  | outOfRange (what : String)
  | lengthError (what : String)
  | jsonTypeError (id : Nat) (what : String)
  | jsonParseError (what : String)
deriving DecidableEq, Repr

def StdException.what : StdException → String
  | .invalidArgument what => what
  | .runtimeError what => what
  | .outOfRange what => what
  | .lengthError what => what
  | .jsonTypeError _ what => what
  | .jsonParseError what => what

/-- Why a call did not return a value. -/
inductive Failure where
  | thrown (e : StdException)
  | undefinedBehaviour
deriving DecidableEq, Repr

def Failure.lift {α : Type} : Except StdException α → Except Failure α
  | .ok a => .ok a
  | .error e => .error (.thrown e)

@[simp] theorem Failure.lift_ok {α : Type} (a : α) : Failure.lift (.ok a) = .ok a := rfl

@[simp] theorem Failure.lift_error {α : Type} (e : StdException) :
    Failure.lift (.error e : Except StdException α) = .error (.thrown e) := rfl

@[simp] theorem Failure.lift_eq_ok_iff {α : Type} {x : Except StdException α} {a : α} :
    Failure.lift x = .ok a ↔ x = .ok a := by
  cases x <;> simp

@[simp] theorem Failure.lift_map {α β : Type} (f : α → β) (x : Except StdException α) :
    Failure.lift (f <$> x) = f <$> Failure.lift x := by
  cases x <;> rfl

@[simp] theorem Failure.lift_bind {α β : Type} (x : Except StdException α)
    (f : α → Except StdException β) :
    Failure.lift (x >>= f) = Failure.lift x >>= fun a => Failure.lift (f a) := by
  cases x <;> rfl

end Us8
