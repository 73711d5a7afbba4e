import AccessPolicy.Proofs.Condition.Ranges
import AccessPolicy.Proofs.Value.Order

/-!
# Operators that order values

The operators that compare the values of a pair go by one order of values. `Greater` is `Less` of
the exchanged pair, `GreaterOrEquals` is `LessOrEquals` of it, and `Between` of a range is both of
these at once, one for each bound (`Operator.holds_exchanged`). `LessOrEquals` passes from a bound
to a greater one, and no value lies in a range with the greater bound in front, but for the chains
of values that break the order (`Operator.holds_chain`).
-/

namespace AccessPolicy.Condition

/-- A value lies in a range if it is between the bounds. -/
theorem between_pair_iff (v : Value) {low : Value} (hlow : isBound low = true) (high : Value) :
    between v (.arr [low, high]) = true ↔ low.atMost v = true ∧ v.atMost high = true := by
  rw [between_cons_of_isBound v hlow, Bool.and_eq_true_iff, Value.atLeast_eq]
  rfl

namespace Operator

/-- The order of two values is reversed if they are exchanged, and they are not comparable if they
are not the other way round. So of one pair `Greater` and `GreaterOrEquals` hold exactly if `Less`
and `LessOrEquals` hold of the exchanged pair. `Between` holds of a value and a range exactly if
`GreaterOrEquals` holds of it and the first bound and `LessOrEquals` of it and the second one. -/
theorem holds_exchanged (c : Combinator) (a b : Value) :
    b.order? a = (a.order? b).map Ordering.swap ∧
    (b.order? a = none ↔ a.order? b = none) ∧
    (Operator.greater.holds c [(a, b)] = true ↔ Operator.less.holds c [(b, a)] = true) ∧
    (Operator.greaterOrEquals.holds c [(a, b)] = true ↔
      Operator.lessOrEquals.holds c [(b, a)] = true) ∧
    ∀ low high, isBound low = true →
      (Operator.between.holds c [(a, .arr [low, high])] = true ↔
        Operator.greaterOrEquals.holds c [(a, low)] = true ∧
          Operator.lessOrEquals.holds c [(a, high)] = true) := by
  have hswap := Value.order?_swap a b
  refine ⟨hswap, ?_, ?_, ?_, fun low high hlow => ?_⟩
  · -- `Less` of the exchanged pair asks for the same order, read the other way round.
    rw [hswap, Option.map_eq_none_iff]
  · rw [holds_singleton_of_not_negated rfl, holds_singleton_of_not_negated rfl, relates, relates,
      beq_iff_eq, beq_iff_eq]
    exact Value.order?_eq_gt_iff_lt
  · rw [holds_singleton_of_not_negated rfl, holds_singleton_of_not_negated rfl, relates, relates,
      Value.atLeast_eq]
  · rw [holds_singleton_of_not_negated rfl, holds_singleton_of_not_negated rfl,
      holds_singleton_of_not_negated rfl, relates, relates, relates, between_pair_iff a hlow,
      Value.atLeast_eq]

/-- Nine and a half is greater than the numeral nine, and lies between it and the integer ten. -/
theorem holds_exchanged_numeral :
    Operator.greater.holds .all [(.float 9.5, .str "9")] = true ∧
      Operator.between.holds .all [(.float 9.5, .arr [.str "9", .int 10])] = true := by
  obtain ⟨-, -, hgreater, -, hbetween⟩ := holds_exchanged .all (.float 9.5) (.str "9")
  refine ⟨hgreater.mpr ?_, (hbetween (.str "9") (.int 10) rfl).mpr ⟨?_, ?_⟩⟩ <;> decide +kernel

/-- Of three values, each at most the next one and the first comparable to the last, the first is at
most the last unless the chain is one of those that break the order, and then it comes after it.
`LessOrEquals` passes from a bound to a greater one with just these exceptions, and just these are
the ranges that a value lies in although the first bound is greater than the second one. -/
theorem holds_chain (k : Combinator) {a b c : Value} (ha : a.WellFormed) (hb : b.WellFormed)
    (hc : c.WellFormed) :
    (a.order? b = some .lt ∨ a.order? b = some .eq →
      b.order? c = some .lt ∨ b.order? c = some .eq → a.order? c ≠ none →
        (a.order? c = some .lt ∨ a.order? c = some .eq ↔ ¬Value.Breaks a b c)) ∧
    (Operator.lessOrEquals.holds k [(a, b)] = true →
      Operator.lessOrEquals.holds k [(b, c)] = true → a.order? c ≠ none →
        (Operator.lessOrEquals.holds k [(a, c)] = true ↔ ¬Value.Breaks a b c)) ∧
    (Operator.between.holds k [(b, .arr [a, c])] = true →
      (a.order? c = some .gt ↔ Value.Breaks a b c)) := by
  -- Of comparable values the first is at most the other one or greater.
  have hchain : a.atMost b = true → b.atMost c = true → a.order? c ≠ none →
      (a.atMost c = true ↔ ¬Value.Breaks a b c) := by
    intro hab hbc hac
    rw [← Value.order?_eq_gt_iff_breaks ha hb hc hab hbc, Value.order?_eq_gt_iff_not_atMost hac,
      not_not]
  simp only [← Value.atMost_iff_lt_or_eq, @holds_singleton_of_not_negated .lessOrEquals rfl,
    @holds_singleton_of_not_negated .between rfl]
  refine ⟨hchain, hchain, fun hbetween => ?_⟩
  cases hbound : isBound a with
  | true =>
    obtain ⟨hab, hbc⟩ := (between_pair_iff b hbound c).mp hbetween
    exact Value.order?_eq_gt_iff_breaks ha hb hc hab hbc
  | false =>
    -- A list in front makes the right side a list of ranges, and is comparable to nothing.
    obtain ⟨bounds, rfl⟩ : ∃ bounds, a = .arr bounds := by
      cases a with
      | arr bounds => exact ⟨bounds, rfl⟩
      | _ => exact absurd hbound Bool.false_ne_true.symm
    refine iff_of_false ?_ nofun
    rw [Value.order?_eq_gt_iff_lt, order?_arr]
    exact nofun

/-- The numeral nine is at most nine and a half, which is at most ten, and so it is at most ten. -/
theorem holds_chain_numeral :
    Operator.lessOrEquals.holds .any [(.str "9", .int 10)] = true ∧
      Value.order? (.str "9") (.int 10) ≠ some .gt := by
  have hint : (Value.int 10).WellFormed :=
    Value.wellFormed_scalar rfl (show Decimal.FitsInt64 10 by decide)
  obtain ⟨-, hle, hrange⟩ := holds_chain .any (a := .str "9") (b := .float 9.5) (c := .int 10)
    (Value.wellFormed_scalar rfl trivial) (Value.wellFormed_scalar rfl trivial) hint
  refine ⟨(hle ?_ ?_ ?_).mpr nofun, fun hgt => ?_⟩
  · decide +kernel
  · decide +kernel
  · decide +kernel
  · have hbreaks := (hrange (by decide +kernel)).mp hgt
    exact nomatch hbreaks

/-- As texts, the numeral ten is less than a text that is no numeral and that is less than the
numeral two. An integer that is no floating-point number may be level with one, and that with a
lesser integer. -/
theorem lessOrEquals_not_transitive :
    (Value.order? (.str "10") (.str "1a") = some .lt ∧
      Value.order? (.str "1a") (.str "2") = some .lt ∧
      Value.order? (.str "10") (.str "2") = some .gt ∧
      Operator.lessOrEquals.holds .all [(.str "10", .str "1a")] = true ∧
      Operator.lessOrEquals.holds .all [(.str "10", .str "2")] = false ∧
      Operator.between.holds .all [(.str "1a", .arr [.str "10", .str "2"])] = true) ∧
    (Value.order? (.int 9007199254740993) (.float 9007199254740992) = some .eq ∧
      Value.order? (.float 9007199254740992) (.int 9007199254740992) = some .eq ∧
      Value.order? (.int 9007199254740993) (.int 9007199254740992) = some .gt) := by
  decide +kernel

end Operator
end AccessPolicy.Condition
