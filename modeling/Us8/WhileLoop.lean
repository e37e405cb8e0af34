/-
  Us8/WhileLoop.lean
  ==================
  **Loops that a guard ends and that may throw, and the rules to prove things of them.**

  A `WhileLoop` has a guard and a body, which gives the state after it and an exception
  where it throws.  `run` evaluates the guard at most as often as it has fuel, so a loop
  that does not end is one that is still running whatever the fuel.

  `ends_run` is the rule for an invariant: it says what is known of the state where the
  loop returns, where it throws and where it still runs.  `run_returns_or_throws` is the
  rule for a variant.
-/
import Mathlib.Init

namespace Us8

structure WhileLoop (σ ε : Type*) where
  guard : σ → Bool
  body : σ → σ × Option ε

namespace WhileLoop

variable {σ ε : Type*}

inductive End (σ ε : Type*) where
  | returned (s : σ)
  | threw (s : σ) (e : ε)
  | running (s : σ)

@[simp] def End.state : End σ ε → σ
  | .returned s => s
  | .threw s _ => s
  | .running s => s

def run (loop : WhileLoop σ ε) : Nat → σ → End σ ε
  | 0, s => .running s
  | fuel + 1, s =>
      if loop.guard s then
        match loop.body s with
        | (t, none) => loop.run fuel t
        | (t, some e) => .threw t e
      else .returned s

variable (loop : WhileLoop σ ε)

theorem run_of_not_guard {s : σ} (h : loop.guard s = false) (fuel : Nat) :
    loop.run (fuel + 1) s = .returned s := by
  rw [run, h]
  rfl

theorem run_of_body {s t : σ} (hguard : loop.guard s = true) (hbody : loop.body s = (t, none))
    (fuel : Nat) : loop.run (fuel + 1) s = loop.run fuel t := by
  rw [run, if_pos hguard, hbody]

theorem run_of_throw {s t : σ} {e : ε} (hguard : loop.guard s = true)
    (hbody : loop.body s = (t, some e)) (fuel : Nat) :
    loop.run (fuel + 1) s = .threw t e := by
  rw [run, if_pos hguard, hbody]

/-- What an invariant says where a run stands. -/
def Ends (I : σ → Prop) : End σ ε → Prop
  | .returned t => I t ∧ loop.guard t = false
  | .threw t e => ∃ s, I s ∧ loop.guard s = true ∧ loop.body s = (t, some e)
  | .running t => I t

/-- The invariant rule. -/
theorem ends_run {I : σ → Prop}
    (hstep : ∀ s t, I s → loop.guard s = true → loop.body s = (t, none) → I t)
    {s : σ} (hs : I s) (fuel : Nat) : loop.Ends I (loop.run fuel s) := by
  induction fuel generalizing s with
  | zero => exact hs
  | succ fuel ih =>
    cases hguard : loop.guard s with
    | false =>
      rw [run_of_not_guard loop hguard]
      exact ⟨hs, hguard⟩
    | true =>
      rcases hbody : loop.body s with ⟨t, _ | e⟩
      · rw [run_of_body loop hguard hbody]
        exact ih (hstep s t hs hguard hbody)
      · rw [run_of_throw loop hguard hbody]
        exact ⟨s, hs, hguard, hbody⟩

/-- The variant rule: a natural number that every turn lowers bounds the turns. -/
theorem run_returns_or_throws {I : σ → Prop} {variant : σ → Nat}
    (hstep : ∀ s t, I s → loop.guard s = true → loop.body s = (t, none) →
      I t ∧ variant t < variant s)
    {s : σ} (hs : I s) {fuel : Nat} (hfuel : variant s < fuel) :
    (∃ t, loop.run fuel s = .returned t) ∨ ∃ t e, loop.run fuel s = .threw t e := by
  induction fuel generalizing s with
  | zero => omega
  | succ fuel ih =>
    cases hguard : loop.guard s with
    | false => exact Or.inl ⟨s, run_of_not_guard loop hguard fuel⟩
    | true =>
      rcases hbody : loop.body s with ⟨t, _ | e⟩
      · rw [run_of_body loop hguard hbody]
        obtain ⟨ht, hless⟩ := hstep s t hs hguard hbody
        exact ih ht (by omega)
      · exact Or.inr ⟨t, e, run_of_throw loop hguard hbody fuel⟩

end WhileLoop

end Us8
