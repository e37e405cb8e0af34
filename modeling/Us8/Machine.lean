/-
  Us8/Machine.lean
  ================
  **Deterministic machines, their runs, and the induction rules for them.**

  A `Machine` turns a state and an input into a new state and an output.  A
  program that is called again and again on one object is such a machine (the
  calls are the inputs, the verdicts the outputs); so is a system of threads
  once the scheduler's choices are read as inputs.  A run is a finite list of
  inputs, so "every run" and "every interleaving" are both a `∀` over lists.  Where calls
  are numbered, a run that never ends is easier to speak of (`stateAt`).

  A few rules carry every whole-run argument: `after_invariant` (an invariant of
  the state, with `after_invariant_of_always` for runs that meet a condition at
  each step), `always_iff_of_invariant` (two conditions that are met throughout
  together), `history_invariant` and `after_invariant_of_prefix` (an invariant that
  relates the state to what has been submitted, and answered, so far),
  `eq_zero_after_iff` (a quantity that counts how often something went wrong) and
  `rank_eq_zero_after` (something comes to an end).
  `forall_history_iff_of_prefix` says when all answers are as wanted;
  `forall_history_iff_of_simulation` and `history_filter` compare two runs.  What a
  machine emits that does not answer every input is `emitted`, and `emitted_sublist` says
  when that is an ordered part of what went in.  Any number of machines of one kind make a
  `pool`, in which each runs as if it were alone (`pool_after`).
-/
import Mathlib.Data.List.Induction

namespace Us8

structure Machine (σ ι ο : Type*) where
  step : σ → ι → σ × ο

namespace Machine

variable {σ ι ο : Type*}

def after (m : Machine σ ι ο) (s : σ) : List ι → σ
  | [] => s
  | i :: rest => m.after (m.step s i).1 rest

def history (m : Machine σ ι ο) (s : σ) : List ι → List (ι × ο)
  | [] => []
  | i :: rest => (i, (m.step s i).2) :: m.history (m.step s i).1 rest

variable (m : Machine σ ι ο)

@[simp] theorem after_nil (s : σ) : m.after s [] = s := rfl

@[simp] theorem after_cons (s : σ) (i : ι) (rest : List ι) :
    m.after s (i :: rest) = m.after (m.step s i).1 rest := rfl

theorem after_append (s : σ) (inputs later : List ι) :
    m.after s (inputs ++ later) = m.after (m.after s inputs) later := by
  induction inputs generalizing s with
  | nil => rfl
  | cons i rest ih => exact ih _

@[simp] theorem history_nil (s : σ) : m.history s [] = [] := rfl

@[simp] theorem history_cons (s : σ) (i : ι) (rest : List ι) :
    m.history s (i :: rest) =
      (i, (m.step s i).2) :: m.history (m.step s i).1 rest := rfl

theorem history_append (s : σ) (inputs later : List ι) :
    m.history s (inputs ++ later) =
      m.history s inputs ++ m.history (m.after s inputs) later := by
  induction inputs generalizing s with
  | nil => rfl
  | cons i rest ih => simp [ih]

@[simp] theorem map_fst_history (s : σ) (inputs : List ι) :
    (m.history s inputs).map Prod.fst = inputs := by
  induction inputs generalizing s with
  | nil => rfl
  | cons i rest ih => simp [ih]

/-! ### Invariants of runs -/

/-- What every step preserves holds after every run. -/
theorem after_invariant {I : σ → Prop} (hstep : ∀ s i, I s → I (m.step s i).1)
    {s : σ} (hs : I s) (inputs : List ι) : I (m.after s inputs) := by
  induction inputs generalizing s with
  | nil => exact hs
  | cons i rest ih => exact ih (hstep s i hs)

/-- `C` holds of the state and the input at every step of the run. -/
def Always (m : Machine σ ι ο) (C : σ → ι → Prop) : σ → List ι → Prop
  | _, [] => True
  | s, i :: rest => C s i ∧ m.Always C (m.step s i).1 rest

instance Always.decidable (m : Machine σ ι ο) (C : σ → ι → Prop) [∀ s i, Decidable (C s i)] :
    ∀ s inputs, Decidable (m.Always C s inputs)
  | _, [] => isTrue trivial
  | s, i :: rest =>
      have := decidable m C (m.step s i).1 rest
      inferInstanceAs (Decidable (C s i ∧ m.Always C (m.step s i).1 rest))

theorem always_and_iff {C D : σ → ι → Prop} {s : σ} {inputs : List ι} :
    m.Always (fun s i => C s i ∧ D s i) s inputs ↔
      m.Always C s inputs ∧ m.Always D s inputs := by
  induction inputs generalizing s with
  | nil => simp [Always]
  | cons i rest ih =>
    simp only [Always, ih]
    exact and_and_and_comm

variable {m} in
theorem Always.of_prefix {C : σ → ι → Prop} {s : σ} {inputs past : List ι}
    (h : m.Always C s inputs) (hpast : past <+: inputs) : m.Always C s past := by
  induction past generalizing s inputs with
  | nil => trivial
  | cons i past ih =>
    obtain ⟨rest, rfl⟩ := hpast
    exact ⟨h.1, ih h.2 ⟨rest, rfl⟩⟩

theorem always_of_forall_mem {Q : ι → Prop} {s : σ} {inputs : List ι}
    (hQ : ∀ i ∈ inputs, Q i) : m.Always (fun _ i => Q i) s inputs := by
  induction inputs generalizing s with
  | nil => trivial
  | cons i rest ih => exact ⟨hQ i (by simp), ih fun j hj => hQ j (by simp [hj])⟩

/-- What every step that meets `C` preserves holds after every run that meets
    `C` throughout. -/
theorem after_invariant_of_always {I : σ → Prop} {C : σ → ι → Prop}
    (hstep : ∀ s i, I s → C s i → I (m.step s i).1)
    {s : σ} (hs : I s) {inputs : List ι} (hC : m.Always C s inputs) :
    I (m.after s inputs) := by
  induction inputs generalizing s with
  | nil => exact hs
  | cons i rest ih => exact ih (hstep s i hs hC.1) hC.2

/-- The comparison rule: where `D` keeps an invariant under which `C` and `D` say the same,
    `C` holds throughout a run exactly when `D` does. -/
theorem always_iff_of_invariant {I : σ → Prop} {C D E : σ → ι → Prop}
    (hiff : ∀ s i, I s → E s i → (C s i ↔ D s i))
    (hstep : ∀ s i, I s → E s i → D s i → I (m.step s i).1)
    {s : σ} (hs : I s) {inputs : List ι} (hE : m.Always E s inputs) :
    m.Always C s inputs ↔ m.Always D s inputs := by
  induction inputs generalizing s with
  | nil => exact Iff.rfl
  | cons i rest ih =>
    have hi := hiff s i hs hE.1
    constructor
    · rintro ⟨hC, hrest⟩
      have hD := hi.mp hC
      exact ⟨hD, (ih (hstep s i hs hE.1 hD) hE.2).mp hrest⟩
    · rintro ⟨hD, hrest⟩
      exact ⟨hi.mpr hD, (ih (hstep s i hs hE.1 hD) hE.2).mpr hrest⟩

/-- The history rule: a relation between what has happened and the state holds after
    every run that meets `C` throughout, when it holds at the start and every step
    that meets `C` extends it. -/
theorem history_invariant {P : List (ι × ο) → σ → Prop} {C : σ → ι → Prop}
    (hstep : ∀ past s i, C s i → P past s →
      P (past ++ [(i, (m.step s i).2)]) (m.step s i).1)
    {s : σ} (hs : P [] s) {inputs : List ι} (hC : m.Always C s inputs) :
    P (m.history s inputs) (m.after s inputs) := by
  -- generalise the empty past: the induction moves one input at a time into it
  suffices h : ∀ past s, P past s → m.Always C s inputs →
      P (past ++ m.history s inputs) (m.after s inputs) by
    simpa using h [] s hs hC
  clear hs hC
  induction inputs with
  | nil => intro past s hP _; simpa using hP
  | cons i rest ih =>
    intro past s hP hC
    have hrest := ih _ _ (hstep past s i hC.1 hP) hC.2
    simpa [List.append_assoc] using hrest

/-- The prefix rule: a relation between the inputs so far and the state, kept by every
    step of the run at hand. -/
theorem after_invariant_of_prefix {P : List ι → σ → Prop} {inputs : List ι}
    (hstep : ∀ past s i, past ++ [i] <+: inputs → P past s → P (past ++ [i]) (m.step s i).1)
    {s : σ} (hs : P [] s) : P inputs (m.after s inputs) := by
  suffices h : ∀ rest past s, past ++ rest = inputs → P past s →
      P inputs (m.after s rest) from h inputs [] s rfl hs
  intro rest
  induction rest with
  | nil =>
    intro past s heq hP
    rw [List.append_nil] at heq
    exact heq ▸ hP
  | cons i rest ih =>
    intro past s heq hP
    have hsplit : past ++ [i] ++ rest = inputs := by simpa using heq
    exact ih _ _ hsplit (hstep past s i ⟨rest, hsplit⟩ hP)

/-- The answer rule: when the answers so far determine whether the next one is as
    wanted, all answers are as wanted exactly when every input finds what it needs among
    the inputs before it. -/
theorem forall_history_iff_of_prefix {P : List ι → σ → Prop} {Q : ο → Prop}
    {C : List ι → ι → Prop} {inputs : List ι}
    (hanswer : ∀ past s i, past ++ [i] <+: inputs → P past s → (Q (m.step s i).2 ↔ C past i))
    (hstep : ∀ past s i, past ++ [i] <+: inputs → P past s → Q (m.step s i).2 →
      P (past ++ [i]) (m.step s i).1)
    {s : σ} (hs : P [] s) :
    (∀ e ∈ m.history s inputs, Q e.2) ↔ ∀ past i, past ++ [i] <+: inputs → C past i := by
  suffices h : ∀ rest past s, past ++ rest = inputs → P past s →
      ((∀ e ∈ m.history s rest, Q e.2) ↔
        ∀ later i, later ++ [i] <+: rest → C (past ++ later) i) from h inputs [] s rfl hs
  intro rest
  induction rest with
  | nil => simp
  | cons i rest ih =>
    intro past s heq hP
    have hsplit : past ++ [i] ++ rest = inputs := by simpa using heq
    have hown := hanswer past s i ⟨rest, hsplit⟩ hP
    rw [history_cons, List.forall_mem_cons]
    constructor
    · rintro ⟨hQ, hrest⟩ later j hpre
      have hlater := (ih _ _ hsplit (hstep past s i ⟨rest, hsplit⟩ hP hQ)).mp hrest
      cases later with
      | nil =>
        obtain rfl : j = i := (List.cons_prefix_cons.mp hpre).1
        simpa using hown.mp hQ
      | cons k later =>
        obtain ⟨rfl, htail⟩ := List.cons_prefix_cons.mp hpre
        simpa using hlater later j htail
    · intro hall
      have hQ : Q (m.step s i).2 := hown.mpr (by simpa using hall [] i (by simp))
      refine ⟨hQ, (ih _ _ hsplit (hstep past s i ⟨rest, hsplit⟩ hP hQ)).mpr ?_⟩
      intro later j hpre
      simpa using hall (i :: later) j (List.cons_prefix_cons.mpr ⟨rfl, hpre⟩)

/-- The loss rule: a quantity that a step raises by one when `L` holds and leaves alone
    otherwise is zero after a run exactly when it was zero before and `L` never held. -/
theorem eq_zero_after_iff {I : σ → Prop} {L : σ → ι → Prop} {f : σ → Int}
    (hstep : ∀ s i, I s → I (m.step s i).1)
    (hcount : ∀ s i, I s →
      (L s i ∧ f (m.step s i).1 = f s + 1) ∨ (¬ L s i ∧ f (m.step s i).1 = f s))
    {s : σ} (hs : I s) (hpos : 0 ≤ f s) (inputs : List ι) :
    f (m.after s inputs) = 0 ↔ f s = 0 ∧ m.Always (fun s i => ¬ L s i) s inputs := by
  induction inputs generalizing s with
  | nil => simp [Always]
  | cons i rest ih =>
    rcases hcount s i hs with ⟨hlose, hnext⟩ | ⟨hlose, hnext⟩
    · rw [after_cons, ih (hstep s i hs) (by omega)]
      constructor
      · rintro ⟨hzero, -⟩
        omega
      · rintro ⟨-, hnever, -⟩
        exact absurd hlose hnever
    · rw [after_cons, ih (hstep s i hs) (by omega), hnext]
      constructor
      · rintro ⟨hzero, hrest⟩
        exact ⟨hzero, hlose, hrest⟩
      · rintro ⟨hzero, -, hrest⟩
        exact ⟨hzero, hrest⟩

/-- The termination rule: a rank that an own step lowers, that no other step raises but some,
    these by `k` at most, and that stays at zero, is zero after a run with as many own steps
    as the rank and all that it can be raised by.  It is enough that this is so for the
    inputs of the run. -/
theorem rank_eq_zero_of_forall {I : σ → Prop} {Q : ι → Prop} {own raises : ι → Bool}
    {rank : σ → Nat} {k : Nat} (hstep : ∀ s i, I s → Q i → I (m.step s i).1)
    (hzero : ∀ s i, I s → Q i → rank s = 0 → rank (m.step s i).1 = 0)
    (hown : ∀ s i, I s → Q i → own i = true → rank (m.step s i).1 ≤ rank s - 1)
    (hother : ∀ s i, I s → Q i → own i = false → rank (m.step s i).1 ≤ rank s + k ∧
      (raises i = false → rank (m.step s i).1 ≤ rank s))
    {s : σ} (hs : I s) {inputs : List ι} (hinputs : ∀ i ∈ inputs, Q i)
    (hcount : rank s + k * inputs.countP raises ≤ inputs.countP own) :
    rank (m.after s inputs) = 0 := by
  induction inputs generalizing s with
  | nil => simpa using hcount
  | cons i rest ih =>
    rw [List.countP_cons, List.countP_cons, Nat.mul_add] at hcount
    rcases List.forall_mem_cons.mp hinputs with ⟨hi, hrest⟩
    rcases Nat.eq_zero_or_pos (rank s) with hdone | hpos
    · exact m.after_invariant_of_always (I := fun s => I s ∧ rank s = 0) (C := fun _ i => Q i)
        (fun s i h hi => ⟨hstep s i h.1 hi, hzero s i h.1 hi h.2⟩)
        ⟨hstep s i hs hi, hzero s i hs hi hdone⟩ (m.always_of_forall_mem hrest) |>.2
    · apply ih (hstep s i hs hi) hrest
      cases hturn : own i with
      | true =>
        have hlower := hown s i hs hi hturn
        rw [hturn, if_pos rfl] at hcount
        omega
      | false =>
        obtain ⟨hraise, hkeep⟩ := hother s i hs hi hturn
        simp only [hturn, Bool.false_eq_true, if_false, Nat.add_zero] at hcount
        cases hraises : raises i with
        | true =>
          rw [hraises, if_pos rfl] at hcount
          omega
        | false =>
          have hlower := hkeep hraises
          omega

theorem rank_eq_zero_after {I : σ → Prop} {own raises : ι → Bool} {rank : σ → Nat} {k : Nat}
    (hstep : ∀ s i, I s → I (m.step s i).1)
    (hzero : ∀ s i, I s → rank s = 0 → rank (m.step s i).1 = 0)
    (hown : ∀ s i, I s → own i = true → rank (m.step s i).1 ≤ rank s - 1)
    (hother : ∀ s i, I s → own i = false → rank (m.step s i).1 ≤ rank s + k ∧
      (raises i = false → rank (m.step s i).1 ≤ rank s))
    {s : σ} (hs : I s) {inputs : List ι}
    (hcount : rank s + k * inputs.countP raises ≤ inputs.countP own) :
    rank (m.after s inputs) = 0 :=
  m.rank_eq_zero_of_forall (Q := fun _ => True) (fun s i h _ => hstep s i h)
    (fun s i h _ => hzero s i h) (fun s i h _ => hown s i h) (fun s i h _ => hother s i h) hs
    (fun _ _ => trivial) hcount

/-! ### Machines that emit -/

/-- What a machine that answers some of its inputs only has emitted. -/
def emitted (m : Machine σ ι (Option ο)) (s : σ) (inputs : List ι) : List ο :=
  (m.history s inputs).filterMap Prod.snd

@[simp] theorem emitted_nil (m : Machine σ ι (Option ο)) (s : σ) : m.emitted s [] = [] := rfl

theorem emitted_concat (m : Machine σ ι (Option ο)) (s : σ) (inputs : List ι) (i : ι) :
    m.emitted s (inputs ++ [i]) =
      m.emitted s inputs ++ (m.step (m.after s inputs) i).2.toList := by
  rw [emitted, history_append, List.filterMap_append, emitted]
  cases hout : (m.step (m.after s inputs) i).2 <;> simp [hout]

theorem emitted_cons (m : Machine σ ι (Option ο)) (s : σ) (i : ι) (rest : List ι) :
    m.emitted s (i :: rest) = (m.step s i).2.toList ++ m.emitted (m.step s i).1 rest := by
  rw [emitted, history_cons, emitted]
  cases (m.step s i).2 <;> simp

/-- The conveyor rule: when a step emits from the front of a line, loses some of it and adds
    what is fresh at its end, what has been emitted and what is in the line are, in order, a
    part of what was in it and all that was fresh. -/
theorem emitted_sublist {m : Machine σ ι (Option ο)} {I : σ → Prop} {line : σ → List ο}
    {fresh : ι → List ο} (hinvariant : ∀ s i, I s → I (m.step s i).1)
    (hline : ∀ s i, I s →
      ((m.step s i).2.toList ++ line (m.step s i).1).Sublist (line s ++ fresh i))
    {s : σ} (hs : I s) (inputs : List ι) :
    (m.emitted s inputs ++ line (m.after s inputs)).Sublist (line s ++ inputs.flatMap fresh) := by
  induction inputs generalizing s with
  | nil => simp
  | cons i rest ih =>
    have hrest := (ih (hinvariant s i hs)).append_left (m.step s i).2.toList
    have hfirst := (hline s i hs).append_right (rest.flatMap fresh)
    rw [List.append_assoc] at hfirst
    simpa only [emitted_cons, after_cons, List.flatMap_cons, List.append_assoc] using
      hrest.trans hfirst

theorem after_concat (s : σ) (inputs : List ι) (i : ι) :
    m.after s (inputs ++ [i]) = (m.step (m.after s inputs) i).1 :=
  m.after_append s inputs [i]

/-! ### Many machines of one kind -/

/-- An input adds a fresh machine, or is for the machine at a position. -/
def pool (m : Machine σ ι ο) (fresh : σ) : Machine (List σ) (Option (Nat × ι)) Unit where
  step states
    | none => (states ++ [fresh], ())
    | some (position, i) => (states.modify position fun s => (m.step s i).1, ())

def inputFor (position : Nat) : Option (Nat × ι) → Option ι
  | none => none
  | some (other, i) => if other = position then some i else none

variable {fresh : σ}

theorem pool_step_none (states : List σ) :
    ((m.pool fresh).step states none).1 = states ++ [fresh] := rfl

theorem pool_step_some (states : List σ) (position : Nat) (i : ι) :
    ((m.pool fresh).step states (some (position, i))).1 =
      states.modify position fun s => (m.step s i).1 := rfl

theorem length_pool_after (inputs : List (Option (Nat × ι))) :
    ((m.pool fresh).after [] inputs).length = inputs.countP Option.isNone := by
  induction inputs using List.reverseRecOn with
  | nil => rfl
  | append_singleton inputs input ih =>
    rw [after_concat, List.countP_append, ← ih]
    cases input with
    | none => simp [pool_step_none]
    | some entry =>
      rcases entry with ⟨position, i⟩
      simp [pool_step_some]

theorem pool_after_of_getElem {states : List σ} {position : Nat} {s : σ}
    (h : states[position]? = some s) (inputs : List (Option (Nat × ι))) :
    ((m.pool fresh).after states inputs)[position]? =
      some (m.after s (inputs.filterMap (inputFor position))) := by
  induction inputs generalizing states s with
  | nil => exact h
  | cons input inputs ih =>
    rw [after_cons]
    cases input with
    | none =>
      have hposition : position < states.length := (List.getElem?_eq_some_iff.mp h).1
      rw [pool_step_none]
      exact ih ((List.getElem?_append_left hposition).trans h)
    | some entry =>
      rcases entry with ⟨other, i⟩
      rw [pool_step_some]
      by_cases hmine : other = position
      · have hstep : (states.modify other fun s => (m.step s i).1)[position]? =
            some (m.step s i).1 := by
          rw [hmine, List.getElem?_modify_eq, h]
          rfl
        have hmineFor : inputFor position (some (other, i)) = some i := if_pos hmine
        rw [ih hstep, List.filterMap_cons_some hmineFor, after_cons]
      · have hstep : (states.modify other fun s => (m.step s i).1)[position]? = some s :=
          (List.getElem?_modify_ne _ states hmine).trans h
        have hnotFor : inputFor position (some (other, i)) = none := if_neg hmine
        rw [ih hstep, List.filterMap_cons_none hnotFor]

/-- A machine of the pool runs on the inputs of its own since it was made, as if it were
    alone. -/
theorem pool_after (before later : List (Option (Nat × ι))) :
    ((m.pool fresh).after [] (before ++ none :: later))[before.countP Option.isNone]? =
      some (m.after fresh (later.filterMap (inputFor (before.countP Option.isNone)))) := by
  have hlength : ((m.pool fresh).after [] before).length = before.countP Option.isNone :=
    m.length_pool_after before
  rw [after_append, after_cons, pool_step_none, ← hlength]
  exact m.pool_after_of_getElem List.getElem?_concat_length later

/-! ### Two runs side by side -/

/-- The simulation rule: when related inputs keep the states of two machines related and
    get answers that are as wanted together, all answers of one run are as wanted exactly
    when those of the other are. -/
theorem forall_history_iff_of_simulation {σ' ι' ο' : Type*} {n : Machine σ' ι' ο'}
    {R : σ → σ' → Prop} {A : ι → ι' → Prop} {Q : ο → Prop} {B : ο' → Prop}
    (hstep : ∀ s s' i i', R s s' → A i i' →
      R (m.step s i).1 (n.step s' i').1 ∧ (Q (m.step s i).2 ↔ B (n.step s' i').2))
    {s : σ} {s' : σ'} (hs : R s s') {inputs : List ι} {inputs' : List ι'}
    (hinputs : List.Forall₂ A inputs inputs') :
    (∀ e ∈ m.history s inputs, Q e.2) ↔ ∀ e ∈ n.history s' inputs', B e.2 := by
  induction hinputs generalizing s s' with
  | nil => simp
  | cons hi _ ih =>
    obtain ⟨hnext, hanswer⟩ := hstep s s' _ _ hs hi
    rw [history_cons, history_cons, List.forall_mem_cons, List.forall_mem_cons, hanswer,
      ih hnext]

/-- The projection rule: where the inputs of one kind keep two runs related and answer
    alike, and the other inputs do not break the relation, the answers to the inputs of
    that kind are those of a run over them alone. -/
theorem history_filter {σ' ι' : Type*} {n : Machine σ' ι' ο} {R : σ → σ' → Prop}
    {p : ι → Bool} {A : ι → ι' → Prop} {inputs : List ι}
    (hin : ∀ s s' i i', i ∈ inputs → p i = true → A i i' → R s s' →
      R (m.step s i).1 (n.step s' i').1 ∧ (m.step s i).2 = (n.step s' i').2)
    (hout : ∀ s s' i, i ∈ inputs → p i = false → R s s' → R (m.step s i).1 s')
    {s : σ} {s' : σ'} (hs : R s s') {inputs' : List ι'}
    (hinputs : List.Forall₂ A (inputs.filter p) inputs') :
    ((m.history s inputs).filter fun e => p e.1).map Prod.snd =
      (n.history s' inputs').map Prod.snd := by
  induction inputs generalizing s s' inputs' with
  | nil =>
    cases hinputs
    rfl
  | cons i rest ih =>
    have ih := @ih (fun s s' j j' hj => hin s s' j j' (by simp [hj]))
      (fun s s' j hj => hout s s' j (by simp [hj]))
    rw [history_cons]
    cases hp : p i with
    | false =>
      rw [List.filter_cons_of_neg (by simp [hp])] at hinputs
      rw [List.filter_cons_of_neg (by simp [hp])]
      exact ih (hout s s' i (by simp) hp hs) hinputs
    | true =>
      rw [List.filter_cons_of_pos hp] at hinputs
      cases hinputs with
      | cons hi hrest =>
        obtain ⟨hnext, hanswer⟩ := hin s s' i _ (by simp) hp hi hs
        rw [List.filter_cons_of_pos (by simpa using hp), List.map_cons, history_cons,
          List.map_cons, hanswer, ih hnext hrest]

/-! ### Runs without end -/

/-- The state before the input `n`. -/
def stateAt (m : Machine σ ι ο) (s : σ) (inputs : Nat → ι) : Nat → σ
  | 0 => s
  | n + 1 => (m.step (m.stateAt s inputs n) (inputs n)).1

def outputAt (m : Machine σ ι ο) (s : σ) (inputs : Nat → ι) (n : Nat) : ο :=
  (m.step (m.stateAt s inputs n) (inputs n)).2

/-- Every finite part of such a run is a run. -/
theorem stateAt_eq_after (s : σ) (inputs : Nat → ι) (n : Nat) :
    m.stateAt s inputs n = m.after s ((List.range n).map inputs) := by
  induction n with
  | zero => rfl
  | succ n ih =>
    rw [List.range_succ, List.map_append, after_append, ← ih]
    rfl

theorem stateAt_invariant {I : σ → Prop} (hstep : ∀ s i, I s → I (m.step s i).1)
    {s : σ} (hs : I s) (inputs : Nat → ι) (n : Nat) : I (m.stateAt s inputs n) := by
  rw [stateAt_eq_after]
  exact m.after_invariant hstep hs _

end Machine

end Us8
