/-
  Us8/Tokens.lean
  ===============
  **Trimming and splitting sequences.**

  `trim p` removes what satisfies `p` at both ends, as `boost::algorithm::trim` does for
  white space.  Splitting at the separators is `List.splitOnP`, which like `boost::split`
  leaves an empty part between two neighbouring separators.

  `Joined p parts l` is the other direction: `l` consists of these parts with one
  separator, any that satisfies `p`, between neighbours.  Splitting reads the parts back
  where they contain no separator (`splitOnP_of_joined`).
-/
import Mathlib.Data.List.DropRight

namespace Us8

namespace Tokens

variable {α : Type*} {p : α → Bool}

/-! ### Trimming -/

def trim (p : α → Bool) (l : List α) : List α := (l.dropWhile p).rdropWhile p

/-- What is trimmed away satisfies the predicate. -/
theorem mem_trim_of_mem {l : List α} {x : α} (hx : x ∈ l) (hp : p x = false) : x ∈ trim p l := by
  have hfront : x ∈ l.dropWhile p := by
    rw [← List.takeWhile_append_dropWhile (p := p) (l := l), List.mem_append] at hx
    rcases hx with htaken | hleft
    · rw [List.mem_takeWhile_imp htaken] at hp
      cases hp
    · exact hleft
  rw [← List.rdropWhile_append_rtakeWhile (p := p) (l := l.dropWhile p), List.mem_append] at hfront
  rcases hfront with hleft | htaken
  · exact hleft
  · rw [List.mem_rtakeWhile_imp htaken] at hp
    cases hp

/-! ### Joining and splitting -/

/-- The parts one after another, with one separator between neighbours. -/
inductive Joined (p : α → Bool) : List (List α) → List α → Prop where
  | single (part : List α) : Joined p [part] part
  | cons {parts : List (List α)} {l : List α} (part : List α) (separator : α)
      (hseparator : p separator = true) (hrest : Joined p parts l) :
      Joined p (part :: parts) (part ++ separator :: l)

theorem splitOnP_of_joined {parts : List (List α)} {l : List α} (h : Joined p parts l)
    (hclean : ∀ part ∈ parts, ∀ x ∈ part, p x = false) : l.splitOnP p = parts := by
  induction h with
  | single part => exact List.splitOnP_eq_singleton (hclean part (by simp))
  | cons part separator hseparator _ ih =>
    rw [List.splitOnP_append_cons_of_forall_mem (hclean part (by simp)) separator hseparator,
      ih fun other hother => hclean other (by simp [hother])]

theorem Joined.mem {parts : List (List α)} {l : List α} (h : Joined p parts l) {x : α}
    (hx : x ∈ l) : p x = true ∨ ∃ part ∈ parts, x ∈ part := by
  induction h with
  | single part => exact Or.inr ⟨part, by simp, hx⟩
  | cons part separator hseparator _ ih =>
    rcases List.mem_append.mp hx with hpart | htail
    · exact Or.inr ⟨part, by simp, hpart⟩
    · rcases List.mem_cons.mp htail with rfl | hrest
      · exact Or.inl hseparator
      · rcases ih hrest with hsep | ⟨other, hother, hin⟩
        · exact Or.inl hsep
        · exact Or.inr ⟨other, by simp [hother], hin⟩

/-- Parts that are not empty, and the separators between them, take up room. -/
theorem Joined.two_mul_length_le {parts : List (List α)} {l : List α} (h : Joined p parts l)
    (hne : ∀ part ∈ parts, part ≠ []) : 2 * parts.length ≤ l.length + 1 := by
  induction h with
  | single part =>
    have hpos := List.length_pos_iff.mpr (hne part (by simp))
    rw [List.length_singleton]
    omega
  | cons part separator _ _ ih =>
    have hpos := List.length_pos_iff.mpr (hne part (by simp))
    have hrest := ih fun other hother => hne other (by simp [hother])
    rw [List.length_cons, List.length_append, List.length_cons]
    omega

end Tokens

end Us8
