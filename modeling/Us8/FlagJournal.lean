/-
  Us8/FlagJournal.lean
  ====================
  **Flags that are collected and reported from time to time, and the rule to show that none
  is lost.**

  Calls are numbered.  A call may flag things, of several kinds, and may write messages; what
  is flagged and in no message yet is pending.  A `Journal` is what can be seen of such calls.

  `Reports` is what the messages are for: a flag is pending until the next message of its
  kind and is in that one, a message has no older flags, messages keep a distance in time, and
  what is pending is written as soon as that has passed.  `reports_of_collects` is the rule: it
  is enough to show of each single call that it collects its flags or writes out all of them,
  and when it does which (`Collects`).
-/
import Mathlib.Data.Set.Basic
import Mathlib.Order.Nat

namespace Us8

/-- `logs` are the calls that come to the writing of messages. -/
structure Journal (κ γ : Type*) where
  time : Nat → Int
  logs : Nat → Prop
  flagged : Nat → κ → Set γ
  messages : Nat → κ → List (Set γ)
  /-- Before the call. -/
  pending : Nat → κ → Set γ

namespace Journal

variable {κ γ : Type*} (journal : Journal κ γ)

def Emits (n : Nat) : Prop := ∃ kind, journal.messages n kind ≠ []

/-- From the call `i` on there is no message of the kind before the call `n`. -/
def Quiet (kind : κ) (i n : Nat) : Prop :=
  ∀ k, i ≤ k → k < n → journal.messages k kind = []

structure Reports (interval : Int) : Prop where
  reported : ∀ kind i, ∀ c ∈ journal.flagged i kind, ∀ n, i ≤ n → journal.Quiet kind i n →
    (journal.messages n kind = [] ∧ c ∈ journal.pending (n + 1) kind) ∨
      (journal.messages n kind ≠ [] ∧ ∀ message ∈ journal.messages n kind, c ∈ message)
  recent : ∀ kind n, ∀ message ∈ journal.messages n kind, ∀ c ∈ message,
    ∃ i, i ≤ n ∧ c ∈ journal.flagged i kind ∧ journal.Quiet kind i n
  apart : ∀ i n, i < n → journal.Emits i → journal.Emits n →
    journal.time i + interval ≤ journal.time n
  due : ∀ kind n, journal.logs n → (journal.pending n kind ∪ journal.flagged n kind).Nonempty →
    interval ≤ journal.time n →
    (∀ i, i < n → journal.Emits i → journal.time i + interval ≤ journal.time n) →
    journal.messages n kind ≠ []

/-- What the call `n` does: it keeps its flags, or it writes out all that is pending, if only
    of some kinds there is something.  `lastTime` is the time of the last message. -/
inductive CallCase (interval : Int) (lastTime : Nat → Int) (n : Nat) : Prop where
  | kept (hnone : ∀ kind, journal.messages n kind = [])
      (hpending : ∀ kind,
        journal.pending (n + 1) kind = journal.pending n kind ∪ journal.flagged n kind)
      (hlast : lastTime (n + 1) = lastTime n)
      (hnothing : journal.logs n → lastTime n + interval ≤ journal.time n →
        ∀ kind, journal.pending n kind ∪ journal.flagged n kind = ∅)
  | written (hdue : lastTime n + interval ≤ journal.time n) (hemits : journal.Emits n)
      (hmessages : ∀ kind,
        journal.messages n kind = [journal.pending n kind ∪ journal.flagged n kind] ∨
        (journal.messages n kind = [] ∧
          journal.pending n kind ∪ journal.flagged n kind = ∅))
      (hpending : ∀ kind, journal.pending (n + 1) kind = ∅)
      (hlast : lastTime (n + 1) = journal.time n)

structure Collects (interval : Int) (lastTime : Nat → Int) : Prop where
  start : ∀ kind, journal.pending 0 kind = ∅
  epoch : lastTime 0 = 0
  call : ∀ n, journal.CallCase interval lastTime n

variable {journal} {interval : Int} {lastTime : Nat → Int} {kind : κ} {i n : Nat} {c : γ}

theorem Quiet.extend (h : journal.Quiet kind i n) (hnone : journal.messages n kind = []) :
    journal.Quiet kind i (n + 1) := by
  intro k hik hkn
  rcases Nat.lt_succ_iff_lt_or_eq.mp hkn with hlt | rfl
  · exact h k hik hlt
  · exact hnone

namespace Collects

/-- A call without a message keeps what is pending and adds its flags. -/
theorem pending_of_quiet (h : journal.Collects interval lastTime)
    (hnone : journal.messages n kind = []) :
    journal.pending (n + 1) kind = journal.pending n kind ∪ journal.flagged n kind := by
  cases h.call n with
  | kept _ hpending _ _ => exact hpending kind
  | written _ _ hmessages hpending _ =>
    rcases hmessages kind with hone | ⟨-, hempty⟩
    · rw [hnone] at hone
      cases hone
    · rw [hpending, hempty]

/-- A message has everything that is pending and what the call flags itself, and nothing
    stays pending. -/
theorem message_eq (h : journal.Collects interval lastTime) {message : Set γ}
    (hmessage : message ∈ journal.messages n kind) :
    message = journal.pending n kind ∪ journal.flagged n kind ∧
      journal.pending (n + 1) kind = ∅ := by
  cases h.call n with
  | kept hnone _ _ _ =>
    rw [hnone] at hmessage
    cases hmessage
  | written _ _ hmessages hpending _ =>
    refine ⟨?_, hpending kind⟩
    rcases hmessages kind with hone | ⟨hnone, -⟩
    · rw [hone] at hmessage
      exact List.mem_singleton.mp hmessage
    · rw [hnone] at hmessage
      cases hmessage

/-- What is flagged stays pending while there is no message. -/
theorem mem_pending (h : journal.Collects interval lastTime) (hflag : c ∈ journal.flagged i kind)
    (hle : i ≤ n) (hquiet : journal.Quiet kind i (n + 1)) :
    c ∈ journal.pending (n + 1) kind := by
  rw [h.pending_of_quiet (hquiet n hle n.lt_succ_self)]
  induction n, hle using Nat.le_induction with
  | base => exact Or.inr hflag
  | succ n hle ih =>
    apply Or.inl
    rw [h.pending_of_quiet (hquiet n hle (by omega))]
    exact ih fun k hik hkn => hquiet k hik (by omega)

/-- What is pending before a call was flagged after the last message. -/
theorem flagged_of_mem_pending (h : journal.Collects interval lastTime)
    (hpending : c ∈ journal.pending n kind) :
    ∃ i, i < n ∧ c ∈ journal.flagged i kind ∧ journal.Quiet kind i n := by
  induction n with
  | zero =>
    rw [h.start] at hpending
    exact absurd hpending (Set.notMem_empty c)
  | succ n ih =>
    cases hmessages : journal.messages n kind with
    | nil =>
      rw [h.pending_of_quiet hmessages] at hpending
      rcases hpending with hold | hnew
      · obtain ⟨i, hlt, hflag, hquiet⟩ := ih hold
        exact ⟨i, by omega, hflag, hquiet.extend hmessages⟩
      · refine ⟨n, by omega, hnew, ?_⟩
        intro k hnk hkn
        obtain rfl : k = n := by omega
        exact hmessages
    | cons message rest =>
      have hmem : message ∈ journal.messages n kind := by simp [hmessages]
      rw [(h.message_eq hmem).2] at hpending
      exact absurd hpending (Set.notMem_empty c)

/-- A call that writes was due, and its time is the last time from then on. -/
theorem waits (h : journal.Collects interval lastTime) (hemits : journal.Emits n) :
    lastTime n + interval ≤ journal.time n ∧ lastTime (n + 1) = journal.time n := by
  cases h.call n with
  | kept hnone _ _ _ =>
    obtain ⟨kind, hsome⟩ := hemits
    exact absurd (hnone kind) hsome
  | written hdue _ _ _ hlast => exact ⟨hdue, hlast⟩

/-- The last time never falls, and no message is later than it. -/
theorem time_le_lastTime (h : journal.Collects interval lastTime) (hinterval : 0 ≤ interval)
    (hemits : journal.Emits i) (hlt : i < n) : journal.time i ≤ lastTime n := by
  induction n, hlt using Nat.le_induction with
  | base => exact (h.waits hemits).2.ge
  | succ n hlt ih =>
    cases h.call n with
    | kept _ _ hlast _ =>
      rw [hlast]
      exact ih
    | written hdue _ _ _ hlast =>
      rw [hlast]
      omega

/-- The last time is that of a message, if there has been one. -/
theorem lastTime_cases (h : journal.Collects interval lastTime) (n : Nat) :
    lastTime n = 0 ∨ ∃ i, i < n ∧ journal.Emits i ∧ lastTime n = journal.time i := by
  induction n with
  | zero => exact Or.inl h.epoch
  | succ n ih =>
    cases h.call n with
    | kept _ _ hlast _ =>
      rw [hlast]
      rcases ih with hzero | ⟨i, hlt, hemits, htime⟩
      · exact Or.inl hzero
      · exact Or.inr ⟨i, by omega, hemits, htime⟩
    | written _ hemits _ _ hlast => exact Or.inr ⟨n, n.lt_succ_self, hemits, hlast⟩

/-- A message is due, and there is something to write. -/
theorem written_of_due (h : journal.Collects interval lastTime) (hlogs : journal.logs n)
    (hsome : (journal.pending n kind ∪ journal.flagged n kind).Nonempty)
    (hdue : lastTime n + interval ≤ journal.time n) : journal.messages n kind ≠ [] := by
  cases h.call n with
  | kept _ _ _ hnothing =>
    rw [hnothing hlogs hdue kind] at hsome
    exact absurd hsome Set.not_nonempty_empty
  | written _ _ hmessages _ _ =>
    rcases hmessages kind with hone | ⟨-, hempty⟩
    · rw [hone]
      exact List.cons_ne_nil _ _
    · rw [hempty] at hsome
      exact absurd hsome Set.not_nonempty_empty

end Collects

/-- The rule. -/
theorem reports_of_collects (h : journal.Collects interval lastTime) (hinterval : 0 ≤ interval) :
    journal.Reports interval where
  reported := by
    intro kind i c hflag n hle hquiet
    by_cases hnone : journal.messages n kind = []
    · exact Or.inl ⟨hnone, h.mem_pending hflag hle (hquiet.extend hnone)⟩
    · refine Or.inr ⟨hnone, ?_⟩
      intro message hmessage
      rw [(h.message_eq hmessage).1]
      rcases Nat.lt_or_eq_of_le hle with hlt | rfl
      · obtain ⟨m, rfl⟩ : ∃ m, n = m + 1 := ⟨n - 1, by omega⟩
        exact Or.inl (h.mem_pending hflag (by omega) hquiet)
      · exact Or.inr hflag
  recent := by
    intro kind n message hmessage c hc
    rw [(h.message_eq hmessage).1] at hc
    rcases hc with hold | hnew
    · obtain ⟨i, hlt, hflag, hquiet⟩ := h.flagged_of_mem_pending hold
      exact ⟨i, by omega, hflag, hquiet⟩
    · exact ⟨n, le_refl n, hnew, fun k hnk hkn => absurd hkn (by omega)⟩
  apart := by
    intro i n hlt hfirst hsecond
    have hlast := h.time_le_lastTime hinterval hfirst hlt
    have hwaited := (h.waits hsecond).1
    omega
  due := by
    intro kind n hlogs hsome hepoch hpassed
    apply h.written_of_due hlogs hsome
    rcases h.lastTime_cases n with hzero | ⟨i, hlt, hemits, htime⟩
    · omega
    · rw [htime]
      exact hpassed i hlt hemits

end Journal

end Us8
