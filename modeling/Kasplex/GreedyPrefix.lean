import Mathlib.Data.List.Infix

/-!
# Longest prefixes with a property

A property that passes from a list to its prefixes has, on every list, a
longest prefix that satisfies it. Taking one element after the other, and
stopping at the first one that would break the property, finds it.
-/

namespace GreedyPrefix

variable {α : Type*}

/-- The prefix that satisfies the property and has every other such prefix as a
prefix of its own. -/
structure IsLongestPrefix (P : List α → Prop) (all best : List α) : Prop where
  isPrefix : best <+: all
  holds : P best
  longest : ∀ p, p <+: all → P p → p <+: best

/-- Go on until the next element would break the property. -/
def greedy (P : List α → Prop) [DecidablePred P] (taken : List α) : List α → List α
  | [] => taken
  | x :: rest => if P (taken ++ [x]) then greedy P (taken ++ [x]) rest else taken

theorem isLongestPrefix_congr {P Q : List α → Prop} {all best : List α}
    (same : ∀ p, p <+: all → (P p ↔ Q p)) (best_P : IsLongestPrefix P all best) :
    IsLongestPrefix Q all best where
  isPrefix := best_P.isPrefix
  holds := (same best best_P.isPrefix).mp best_P.holds
  longest p hp hQ := best_P.longest p hp ((same p hp).mpr hQ)

variable {P : List α → Prop} [DecidablePred P]

/-- The greedy choice is the longest one. -/
theorem greedy_isLongestPrefix (closed : ∀ p q, p <+: q → P q → P p) {taken : List α}
    (start : P taken) (rest : List α) :
    IsLongestPrefix P (taken ++ rest) (greedy P taken rest) := by
  induction rest generalizing taken with
  | nil =>
    rw [List.append_nil]
    exact ⟨List.prefix_rfl, start, fun p hp _ => hp⟩
  | cons x rest ih =>
    have hmore : taken ++ [x] <+: taken ++ x :: rest := ⟨rest, by simp⟩
    unfold greedy
    split
    · rename_i hnext
      have h := ih hnext
      rwa [List.append_assoc, List.singleton_append] at h
    · rename_i hstop
      refine ⟨List.prefix_append _ _, start, ?_⟩
      intro p hp hP
      by_cases hlength : p.length ≤ taken.length
      · exact List.prefix_of_prefix_length_le hp (List.prefix_append _ _) hlength
      · have hlonger : taken ++ [x] <+: p := by
          apply List.prefix_of_prefix_length_le hmore hp
          rw [List.length_append, List.length_singleton]
          omega
        exact absurd (closed _ _ hlonger hP) hstop

end GreedyPrefix
