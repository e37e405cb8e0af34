/-
  Us8/ClosedInterval.lean
  =======================
  **Closed intervals over a linear order, and lists of pairwise disjoint ones.**

  A `Span` is a pair of end points.  The relations below are the relative
  positions two closed intervals can have: one `Precedes` the other, they `Meet`,
  one `Covers` the other strictly on both sides, or one `Touches` the other with
  one of its own end points.  `meets_iff` is the fact an overlap test rests on:
  looking only at the end points of one interval finds every overlap except the
  covering one.

  `Ordered` lists (each interval ends before the next one begins) are the
  canonical form of a set of disjoint intervals.  They are closed under appending
  a later interval (`Ordered.concat`) and under inserting a disjoint one by
  sorting on the start points (`Ordered.insertionSort_concat`).
-/
import Mathlib.Data.List.Sort
import Mathlib.Order.CompletePartialOrder
import Mathlib.Order.Interval.Set.Disjoint

namespace Us8

structure Span (T : Type*) where
  start : T
  stop : T

namespace Span

variable {T : Type*} [LinearOrder T] {a b c : Span T}

def Proper (a : Span T) : Prop := a.start ≤ a.stop

def Precedes (a b : Span T) : Prop := a.stop < b.start

def Meets (a b : Span T) : Prop := a.start ≤ b.stop ∧ b.start ≤ a.stop

/-- `a` contains `b` strictly on both sides. -/
def Covers (a b : Span T) : Prop := a.start < b.start ∧ b.stop < a.stop

/-- An end point of `a` lies in `b`. -/
def Touches (a b : Span T) : Prop :=
  (b.start ≤ a.start ∧ a.start ≤ b.stop) ∨ (b.start ≤ a.stop ∧ a.stop ≤ b.stop)

def points (a : Span T) : Set T := Set.Icc a.start a.stop

theorem not_meets_iff : ¬ a.Meets b ↔ b.Precedes a ∨ a.Precedes b := by
  simp only [Meets, Precedes, not_and_or, not_le]

theorem Meets.symm (h : a.Meets b) : b.Meets a := ⟨h.2, h.1⟩

theorem Precedes.not_meets (h : a.Precedes b) : ¬ a.Meets b :=
  not_meets_iff.mpr (Or.inr h)

theorem Precedes.trans (hab : a.Precedes b) (hb : b.Proper) (hbc : b.Precedes c) :
    a.Precedes c :=
  lt_trans (lt_of_lt_of_le hab hb) hbc

/-- The four ways two intervals can overlap, seen from the first one. -/
theorem meets_iff (ha : a.Proper) (hb : b.Proper) :
    a.Meets b ↔ a.Touches b ∨ a.Covers b := by
  constructor
  · rintro ⟨hleft, hright⟩
    rcases le_or_gt b.start a.start with hstart | hstart
    · exact Or.inl (Or.inl ⟨hstart, hleft⟩)
    · rcases le_or_gt a.stop b.stop with hstop | hstop
      · exact Or.inl (Or.inr ⟨hright, hstop⟩)
      · exact Or.inr ⟨hstart, hstop⟩
  · rintro ((⟨hstart, hstop⟩ | ⟨hstart, hstop⟩) | ⟨hstart, hstop⟩)
    · exact ⟨hstop, le_trans hstart ha⟩
    · exact ⟨le_trans ha hstop, hstart⟩
    · exact ⟨le_trans (le_of_lt hstart) hb, le_trans hb (le_of_lt hstop)⟩

/-- Two closed intervals are disjoint when one is empty or one ends before the other
    begins. -/
theorem disjoint_Icc_iff {w x y z : T} :
    Disjoint (Set.Icc w x) (Set.Icc y z) ↔ x < w ∨ z < y ∨ x < y ∨ z < w := by
  rw [Set.disjoint_left]
  constructor
  · intro hdisj
    by_contra hmeets
    simp only [not_or, not_lt] at hmeets
    obtain ⟨hwx, hyz, hyx, hwz⟩ := hmeets
    exact hdisj ⟨le_max_left w y, max_le hwx hyx⟩ ⟨le_max_right w y, max_le hwz hyz⟩
  · rintro (hempty | hempty | hbefore | hbefore) t ⟨hwt, htx⟩ ⟨hyt, htz⟩
    · exact absurd hempty (not_lt.mpr (le_trans hwt htx))
    · exact absurd hempty (not_lt.mpr (le_trans hyt htz))
    · exact absurd hbefore (not_lt.mpr (le_trans hyt htx))
    · exact absurd hbefore (not_lt.mpr (le_trans hwt htz))

theorem disjoint_points_iff (ha : a.Proper) (hb : b.Proper) :
    Disjoint a.points b.points ↔ ¬ a.Meets b := by
  simp only [points, disjoint_Icc_iff, not_lt.mpr ha, not_lt.mpr hb, false_or, not_meets_iff,
    Precedes]
  exact or_comm

/-! ### Lists of intervals in order -/

variable {ι : Type*} {span : ι → Span T} {l : List ι} {x y : ι}

/-- Every interval of the list ends before the later ones begin. -/
def Ordered (span : ι → Span T) (l : List ι) : Prop :=
  l.Pairwise fun x y => (span x).Precedes (span y)

theorem ordered_of_sorted (hproper : ∀ x ∈ l, (span x).Proper)
    (hsorted : l.Pairwise fun x y => (span x).start ≤ (span y).start)
    (hapart : l.Pairwise fun x y => ¬ (span x).Meets (span y)) :
    Ordered span l := by
  apply (hsorted.and hapart).imp_of_mem
  rintro x y _ hy ⟨hstart, hmeets⟩
  rcases not_meets_iff.mp hmeets with hyx | hxy
  · -- `y` cannot end before `x` begins: it begins no earlier and is proper
    exact absurd (lt_of_lt_of_le hyx hstart) (not_lt.mpr (hproper y hy))
  · exact hxy

theorem Ordered.apart (hl : Ordered span l) :
    l.Pairwise fun x y => ¬ (span x).Meets (span y) :=
  hl.imp fun h => h.not_meets

theorem Ordered.concat (hl : Ordered span l) (hlast : ∀ y ∈ l, (span y).Precedes (span x)) :
    Ordered span (l ++ [x]) := by
  refine List.pairwise_append.mpr ⟨hl, List.pairwise_singleton _ _, ?_⟩
  intro y hy z hz
  rw [List.mem_singleton.mp hz]
  exact hlast y hy

/-- In an ordered list of proper intervals it is enough to look at the last one
    to know that something comes after all of them. -/
theorem Ordered.precedes_of_getLast (hl : Ordered span l) (hproper : ∀ y ∈ l, (span y).Proper)
    (hne : l ≠ []) (hlast : (span (l.getLast hne)).Precedes (span x)) :
    ∀ y ∈ l, (span y).Precedes (span x) := by
  intro y hy
  have hsplit := List.dropLast_concat_getLast hne
  rw [← hsplit, List.mem_append, List.mem_singleton] at hy
  rcases hy with hy | rfl
  · unfold Ordered at hl
    rw [← hsplit] at hl
    have hbefore := (List.pairwise_append.mp hl).2.2 y hy _ (List.mem_singleton_self _)
    exact hbefore.trans (hproper _ (List.getLast_mem hne)) hlast
  · exact hlast

/-- An interval disjoint from every member finds its place by sorting, whatever way
    the start points are compared. -/
theorem Ordered.insertionSort_concat (r : ι → ι → Prop) [DecidableRel r]
    (hr : ∀ y z, r y z ↔ (span y).start ≤ (span z).start) (hl : Ordered span l)
    (hproper : ∀ y ∈ l, (span y).Proper) (hx : (span x).Proper)
    (hapart : ∀ y ∈ l, ¬ (span x).Meets (span y)) :
    Ordered span ((l ++ [x]).insertionSort r) := by
  have hperm := List.perm_insertionSort r (l ++ [x])
  have : Std.Total r := ⟨fun y z => by simpa only [hr] using le_total _ _⟩
  have : IsTrans ι r := ⟨fun y z w => by simpa only [hr] using le_trans⟩
  refine ordered_of_sorted ?_ ((List.pairwise_insertionSort r _).imp fun h => (hr _ _).mp h) ?_
  · intro y hy
    rcases List.mem_append.mp (hperm.mem_iff.mp hy) with hy | hy
    · exact hproper y hy
    · rw [List.mem_singleton.mp hy]; exact hx
  · -- disjointness is symmetric, so it survives any reordering
    have hall : (l ++ [x]).Pairwise fun y z => ¬ (span y).Meets (span z) := by
      refine List.pairwise_append.mpr ⟨hl.apart, List.pairwise_singleton _ _, ?_⟩
      intro y hy z hz hmeets
      rw [List.mem_singleton.mp hz] at hmeets
      exact hapart y hy hmeets.symm
    exact hperm.symm.pairwise hall fun hyz hzy => hyz hzy.symm

end Span

end Us8
