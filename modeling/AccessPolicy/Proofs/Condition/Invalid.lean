import AccessPolicy.Proofs.Condition.Composition
import AccessPolicy.Proofs.Pattern.EmptyText
import AccessPolicy.Value.Literal

/-!
# Literals that could not be read

A literal that could not be read equals nothing, comes before or after nothing, and is a member of
nothing, not even of a list that has it. It has a text, however, the empty one, by which it is put
between other text. The operators that test the text of a value take it for that text: a pattern
that matches the empty text matches the literal, and the literal as a pattern matches what the empty
pattern does. `Operator.holds_invalid` says for each operator that asserts a relation what it makes
of such a literal on either side.
-/

namespace AccessPolicy

/-! ## Comparing -/

namespace Value

/-- A literal that could not be read equals nothing. -/
theorem invalid_equals (raw : String) (v : Value) : equals (.invalid raw) v = false := by
  cases v <;> simp only [equals]

/-- Nothing equals a literal that could not be read. -/
theorem equals_invalid (raw : String) (v : Value) : v.equals (.invalid raw) = false := by
  cases v <;> simp only [equals]

/-- A literal that could not be read is comparable to nothing. -/
theorem invalid_order? (raw : String) (v : Value) : order? (.invalid raw) v = none := by
  cases v <;> rfl

/-- Nothing is comparable to a literal that could not be read. -/
theorem order?_invalid (raw : String) (v : Value) : order? v (.invalid raw) = none := by
  cases v <;> simp [order?, number?]

/-- An invalid literal is not at least any value. -/
theorem invalid_atLeast (raw : String) (v : Value) : atLeast (.invalid raw) v = false := by
  rw [atLeast, invalid_order?]
  rfl

/-- No value is at least an invalid literal. -/
theorem atLeast_invalid (raw : String) (v : Value) : v.atLeast (.invalid raw) = false := by
  rw [atLeast, order?_invalid]
  rfl

/-- An invalid literal is not at most any value. -/
theorem invalid_atMost (raw : String) (v : Value) : atMost (.invalid raw) v = false := by
  rw [atMost, invalid_order?]
  rfl

/-- No value is at most an invalid literal. -/
theorem atMost_invalid (raw : String) (v : Value) : v.atMost (.invalid raw) = false := by
  rw [atMost, order?_invalid]
  rfl

end Value

namespace Condition

/-! ## Ranges and lists -/

/-- An invalid literal lies between no bounds, however many there are. -/
theorem invalid_withinBounds (raw : String) (bounds : List Value) :
    withinBounds (.invalid raw) bounds = false := by
  cases bounds with
  | nil => rfl
  | cons low rest => rw [withinBounds, Value.invalid_atLeast, Bool.false_and]

/-- An invalid literal lies in no range. -/
theorem invalid_withinRange (raw : String) (range : Value) :
    withinRange (.invalid raw) range = false := by
  unfold withinRange
  split <;> exact invalid_withinBounds raw _

/-- A literal that could not be read lies in no range. -/
theorem invalid_between (raw : String) (range : Value) : between (.invalid raw) range = false := by
  unfold between
  split
  · rw [List.any_eq_false]
    exact fun range _ => Bool.eq_false_iff.mp (invalid_withinRange raw range)
  · exact invalid_withinRange raw range

/-- Nothing lies in the range that a literal is that could not be read. -/
theorem between_invalid (raw : String) (v : Value) : between v (.invalid raw) = false := by
  show withinBounds v [.invalid raw] = false
  rw [withinBounds, Value.atLeast_invalid, Bool.false_and]

/-- A literal that could not be read is a member of nothing. -/
theorem invalid_isMember (raw : String) (v : Value) : isMember (.invalid raw) v = false := by
  unfold isMember
  split
  · rw [List.any_eq_false]
    exact fun item _ => Bool.eq_false_iff.mp (Value.invalid_equals raw item)
  · exact Value.invalid_equals raw v

/-- Nothing is a member of a literal that could not be read. -/
theorem isMember_invalid (raw : String) (v : Value) : isMember v (.invalid raw) = false :=
  Value.equals_invalid raw v

/-! ## Patterns -/

/-- The values one of which has to cover a text: the elements of an array, or the value itself. -/
def alternatives : Value → List Value
  | .arr items => items
  | v => [v]

/-- A value is like a pattern if its text is covered by one of the alternatives. -/
theorem isLike_of_text? {v : Value} {subject : String} (hv : v.text? = some subject)
    (pattern : Value) : isLike v pattern = (alternatives pattern).any (likeOne subject) := by
  rw [isLike.eq_def, hv]
  cases pattern with
  | arr patterns => rfl
  | _ =>
    rw [alternatives, List.any_cons, List.any_nil, Bool.or_false]
    exact nofun

/-- A text is covered by a value that has a text, which as a pattern covers it. -/
theorem likeOne_iff {subject : String} {pattern : Value} :
    likeOne subject pattern = true ↔
      ∃ p, pattern.text? = some p ∧ Pattern.like p subject = true := by
  rw [likeOne]
  cases pattern.text? with
  | none => exact iff_of_false Bool.false_ne_true nofun
  | some p => simp only [Option.some.injEq, exists_eq_left']

/-- A value is matched by a pattern if its text is matched by the text of the pattern. -/
theorem isMatched_iff {v pattern : Value} :
    isMatched v pattern = true ↔ ∃ subject, v.text? = some subject ∧
      ∃ p, pattern.text? = some p ∧ Pattern.matches? p subject = some true := by
  rw [isMatched]
  cases v.text? with
  | none => exact iff_of_false Bool.false_ne_true nofun
  | some subject =>
    cases pattern.text? with
    | none => exact iff_of_false Bool.false_ne_true nofun
    | some p =>
      simp only [Option.some.injEq, exists_eq_left', Option.getD_eq_iff, Bool.false_eq_true,
        and_false, or_false]

/-- A literal that could not be read is covered by a value if one of its alternatives has a text of
nothing but asterisks that is not too long to be a pattern. -/
theorem invalid_isLike_iff {raw : String} {pattern : Value} :
    isLike (.invalid raw) pattern = true ↔
      ∃ alternative ∈ alternatives pattern, ∃ p, alternative.text? = some p ∧
        (Pattern.wildcardRegex p.toList).fits = true ∧ ∀ ch ∈ p.toList, ch = '*' := by
  rw [isLike_of_text? (v := .invalid raw) rfl, List.any_eq_true]
  simp only [likeOne_iff, Pattern.like_empty_subject]

/-- A literal that could not be read covers the values whose text is empty. -/
theorem isLike_invalid_iff {raw : String} {v : Value} :
    isLike v (.invalid raw) = true ↔ v.text? = some "" := by
  cases hv : v.text? with
  | none =>
    have hlike : isLike v (.invalid raw) = false := by rw [isLike.eq_def, hv]
    exact iff_of_false (Bool.eq_false_iff.mp hlike) nofun
  | some subject =>
    -- Such a literal is an alternative of its own, and as a pattern it is the empty text.
    have hlike : likeOne subject (.invalid raw) = Pattern.like "" subject := rfl
    rw [isLike_of_text? hv, alternatives, List.any_cons, List.any_nil, Bool.or_false, hlike,
      Pattern.like_empty_pattern, Option.some.injEq]
    exact nofun

/-- A literal that could not be read is matched by the expressions that match the empty text. -/
theorem invalid_isMatched_iff {raw : String} {pattern : Value} :
    isMatched (.invalid raw) pattern = true ↔
      ∃ p, pattern.text? = some p ∧ Pattern.matches? p "" = some true := by
  have htext : (Value.invalid raw).text? = some "" := rfl
  rw [isMatched_iff, htext]
  simp only [Option.some.injEq, exists_eq_left']

/-- As an expression, a literal that could not be read matches every value that has a text. -/
theorem isMatched_invalid_iff {raw : String} {v : Value} :
    isMatched v (.invalid raw) = true ↔ ∃ subject, v.text? = some subject := by
  have htext : (Value.invalid raw).text? = some "" := rfl
  rw [isMatched_iff, htext]
  simp only [Option.some.injEq, exists_eq_left', Pattern.matches?_empty_pattern, and_true]

/-! ## Operators -/

namespace Operator

/-- An operator that asserts a relation holds of one pair exactly if the relation does. -/
theorem holds_singleton_of_not_negated {op : Operator} (h : op.negated = false) (c : Combinator)
    (v w : Value) : op.holds c [(v, w)] = op.relates v w := by
  rw [holds_singleton, h, Bool.bne_false]

/-- No value stands to a literal that could not be read, nor such a literal to it, in a relation
that compares values or looks one up among others. -/
theorem relates_invalid {op : Operator}
    (h : op ∈ [Operator.equals, .between, .greater, .less, .greaterOrEquals, .lessOrEquals, .isIn])
    (raw : String) (v : Value) :
    op.relates (.invalid raw) v = false ∧ op.relates v (.invalid raw) = false := by
  -- Each relation compares, and nothing compares with such a literal on either side.
  cases op with
  | equals => exact ⟨Value.invalid_equals raw v, Value.equals_invalid raw v⟩
  | between => exact ⟨invalid_between raw v, between_invalid raw v⟩
  | greater =>
    simp only [relates, Value.invalid_order?, Value.order?_invalid, Option.none_beq_some, and_self]
  | less =>
    simp only [relates, Value.invalid_order?, Value.order?_invalid, Option.none_beq_some, and_self]
  | greaterOrEquals => exact ⟨Value.invalid_atLeast raw v, Value.atLeast_invalid raw v⟩
  | lessOrEquals => exact ⟨Value.invalid_atMost raw v, Value.atMost_invalid raw v⟩
  | isIn => exact ⟨invalid_isMember raw v, isMember_invalid raw v⟩
  | _ => exact absurd h (by decide)

/-- Of one pair with a literal that could not be read on either side, no operator holds that
compares values or looks one up among others. `Like` holds of such a literal and a pattern if one of
the alternatives of the pattern has a text of nothing but asterisks, which may be empty, but not too
long to be a pattern, and of a value and such a literal if the text of the value is empty. `RegEx`
holds of such a literal and an expression that matches the empty text, and of any value that has a
text and such a literal. -/
theorem holds_invalid (c : Combinator) (raw : String) (v : Value) :
    (∀ op ∈ [Operator.equals, .between, .greater, .less, .greaterOrEquals, .lessOrEquals, .isIn],
      op.holds c [(.invalid raw, v)] = false ∧ op.holds c [(v, .invalid raw)] = false) ∧
    (Operator.like.holds c [(.invalid raw, v)] = true ↔
      ∃ alternative ∈ alternatives v, ∃ p, alternative.text? = some p ∧
        (Pattern.wildcardRegex p.toList).fits = true ∧ ∀ ch ∈ p.toList, ch = '*') ∧
    (Operator.like.holds c [(v, .invalid raw)] = true ↔ v.text? = some "") ∧
    (Operator.regEx.holds c [(.invalid raw, v)] = true ↔
      ∃ p, v.text? = some p ∧ Pattern.matches? p "" = some true) ∧
    (Operator.regEx.holds c [(v, .invalid raw)] = true ↔ ∃ subject, v.text? = some subject) := by
  refine ⟨fun op hop => ?_, ?_, ?_, ?_, ?_⟩
  · -- None of these operators is negated, so that a pair holds as its relation does.
    have hassert : op.negated = false := by
      revert hop
      cases op <;> decide
    rw [holds_singleton_of_not_negated hassert, holds_singleton_of_not_negated hassert]
    exact relates_invalid hop raw v
  · rw [holds_singleton_of_not_negated rfl]
    exact invalid_isLike_iff
  · rw [holds_singleton_of_not_negated rfl]
    exact isLike_invalid_iff
  · rw [holds_singleton_of_not_negated rfl]
    exact invalid_isMatched_iff
  · rw [holds_singleton_of_not_negated rfl]
    exact isMatched_invalid_iff

/-- A literal that could not be read neither equals itself nor is a member of itself, but it is like
itself. -/
theorem holds_invalid_self :
    Operator.equals.holds .any [(.invalid "(*ip)x", .invalid "(*ip)x")] = false ∧
      Operator.isIn.holds .any [(.invalid "(*ip)x", .invalid "(*ip)x")] = false ∧
      Operator.like.holds .any [(.invalid "(*ip)x", .invalid "(*ip)x")] = true := by
  obtain ⟨hnever, -, hlike, -, -⟩ := holds_invalid .any "(*ip)x" (.invalid "(*ip)x")
  exact ⟨(hnever .equals (by decide)).1, (hnever .isIn (by decide)).1, hlike.mpr rfl⟩

/-- An address with a number out of range is a literal that could not be read. The pattern of one
asterisk covers it, and as an expression it matches an address. -/
theorem holds_invalid_address :
    Value.ofLiteral "(*ip)10.0.0.256" = .invalid "(*ip)10.0.0.256" ∧
      Operator.like.holds .all [(.invalid "(*ip)10.0.0.256", .str "*")] = true ∧
      Operator.regEx.holds .all [(.str "10.0.0.1", .invalid "(*ip)10.0.0.256")] = true := by
  refine ⟨rfl, ?_⟩
  decide +kernel

end Operator
end Condition
end AccessPolicy
