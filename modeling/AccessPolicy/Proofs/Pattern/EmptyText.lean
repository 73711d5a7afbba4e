import AccessPolicy.Pattern.Basic
import Mathlib.Tactic.SplitIfs

/-!
# Patterns and the empty text

The empty text is a subject and a pattern like any other. As a subject it is covered by the wildcard
patterns that have nothing but asterisks, the empty pattern among them (`like_empty_subject`). As a
wildcard pattern it covers itself alone (`like_empty_pattern`), but as a regular expression it
matches every text, since each has a part that is empty (`matches?_empty_pattern`).
-/

namespace AccessPolicy.Pattern

/-! ## Wildcard patterns -/

/-- A text is covered by a wildcard pattern that is not too large. -/
theorem like_iff {pattern subject : String} :
    like pattern subject = true ↔
      (wildcardRegex pattern.toList).fits = true ∧ glob pattern.toList subject.toList = true := by
  rw [like, wildcard?]
  split_ifs with hfits
  · exact (and_iff_right hfits).symm
  · exact iff_of_false Bool.false_ne_true fun h => hfits h.1

/-- Where no text is left, a pattern leaves none. -/
theorem leftOver_nil (pattern : List Char) : leftOver pattern [] = [] := by
  induction pattern with
  | nil => rfl
  | cons c pattern ih =>
    rw [leftOver]
    split_ifs with hstar
    · rfl
    · exact ih

/-- The empty text is covered by the patterns of nothing but asterisks. -/
theorem glob_nil_iff {pattern : List Char} : glob pattern [] = true ↔ ∀ c ∈ pattern, c = '*' := by
  unfold glob
  induction pattern with
  | nil => exact iff_of_true rfl nofun
  | cons c pattern ih =>
    rw [leftOver, List.forall_mem_cons]
    split_ifs with hstar
    · -- An asterisk can leave of the empty text only that text.
      rw [and_iff_right hstar]
      exact ih
    · have hnone : leftOver pattern ([[]].filterMap (behind? c)) = [] := leftOver_nil pattern
      rw [hnone]
      exact iff_of_false Bool.false_ne_true fun h => hstar h.1

/-- The empty pattern covers the empty text alone. -/
theorem nil_glob_iff {subject : List Char} : glob [] subject = true ↔ subject = [] := by
  rw [glob, leftOver, List.contains_iff_mem, List.mem_singleton, eq_comm]

/-- The empty text is like a wildcard pattern that has nothing but asterisks and is not too
large. -/
theorem like_empty_subject {pattern : String} :
    like pattern "" = true ↔
      (wildcardRegex pattern.toList).fits = true ∧ ∀ c ∈ pattern.toList, c = '*' := by
  rw [like_iff, String.toList_empty, glob_nil_iff]

/-- Only the empty text is like the empty wildcard pattern. -/
theorem like_empty_pattern {subject : String} : like "" subject = true ↔ subject = "" := by
  have hfits : (wildcardRegex "".toList).fits = true := by decide +kernel
  rw [like_iff, and_iff_right hfits, String.toList_empty, nil_glob_iff, String.toList_eq_nil_iff]

/-! ## Regular expressions -/

/-- The empty regular expression matches every text at its start. -/
theorem search_empty (subject : List Char) : Regex.empty.search subject = true := by
  cases subject with
  | nil => rfl
  | cons c subject => rfl

/-- The empty regular expression matches every text. -/
theorem matches?_empty_pattern (subject : String) : matches? "" subject = some true := by
  have hcompile : compile? "" = some .empty := by decide +kernel
  rw [matches?, hcompile, Option.map_some, search_empty]

end AccessPolicy.Pattern
