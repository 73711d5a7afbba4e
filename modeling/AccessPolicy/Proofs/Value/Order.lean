import AccessPolicy.Proofs.Calendar.Order
import AccessPolicy.Proofs.Decimal.Monotone
import AccessPolicy.Proofs.Value.Parts
import AccessPolicy.Value.Order

/-!
# The order of values

Two values compare the other way round if they are exchanged (`order?_swap`). Values that are
comparable at all are of one kind, or both are numbers (`Comparable`), and then they compare as
their numbers do, integers among themselves apart.

The order is transitive but for the chains that `Breaks` lists, and in each of these the first value
comes after the last (`order?_eq_gt_iff_breaks`). An integer lies at or below a greater one by
value, and its nearest number then lies at or below that of the other, but different integers may
have one nearest number, and what is level with it is level with both. Texts that are numerals
compare as numbers, and with any other text as texts: a chain of two numerals and another text goes
by both orders, which need not agree on the numerals.
-/

namespace AccessPolicy

/-! ## Orders that values are compared by -/

/-- The order of addresses is transitive. -/
theorem Net.Address.order_isLE_trans {a b c : Net.Address} (hab : (a.order b).isLE = true)
    (hbc : (b.order c).isLE = true) : (a.order c).isLE = true := by
  cases a <;> cases b <;> cases c
  case v4.v4.v4 => exact Std.TransOrd.isLE_trans (α := Nat) hab hbc
  case v6.v6.v6 => exact Std.TransOrd.isLE_trans (α := Nat) hab hbc
  case v4.v4.v6 | v4.v6.v6 => rfl
  case v4.v6.v4 | v6.v6.v4 => exact absurd hbc Bool.false_ne_true
  case v6.v4.v4 | v6.v4.v6 => exact absurd hab Bool.false_ne_true

namespace Decimal

/-- Numbers compare as their places do. -/
theorem order?_eq_some_iff {x y : Float} {o : Ordering} :
    order? x y = some o ↔ ∃ p q, place? x = some p ∧ place? y = some q ∧ compare p q = o := by
  unfold order?
  cases place? x with
  | none => exact iff_of_false nofun fun ⟨_, _, hp, _⟩ => nomatch hp
  | some p =>
    cases place? y with
    | none => exact iff_of_false nofun fun ⟨_, _, _, hq, _⟩ => nomatch hq
    | some q =>
      simp only [Option.some.injEq, exists_and_left, exists_eq_left']

end Decimal

namespace Value

open Decimal (place? ofInteger sameNumber)

/-! ## Exchanging two values -/

/-- The order of two values by their numbers. -/
def numberOrder? (v w : Value) : Option Ordering :=
  match number? v, number? w with
  | some x, some y => Decimal.order? x y
  | _, _ => none

/-- Exchanged values compare the other way round as numbers. -/
theorem numberOrder?_swap (v w : Value) :
    numberOrder? w v = (numberOrder? v w).map Ordering.swap := by
  unfold numberOrder?
  cases number? v with
  | none => cases number? w <;> rfl
  | some x =>
    cases number? w with
    | none => rfl
    | some y => exact Decimal.order?_swap x y

/-- Exchanged texts compare the other way round. -/
theorem textOrder?_swap (s t : String) : textOrder? t s = (textOrder? s t).map Ordering.swap := by
  have htexts : some (compare t s) = (some (compare s t)).map Ordering.swap :=
    congrArg some Std.OrientedOrd.eq_swap
  unfold textOrder?
  cases numeral? s with
  | none => cases numeral? t <;> exact htexts
  | some x =>
    cases numeral? t with
    | none => exact htexts
    | some y => exact Decimal.order?_swap x y

/-- Exchanging two values reverses their order; if they are not comparable, they are not comparable
the other way round either. -/
theorem order?_swap (v w : Value) : order? w v = (order? v w).map Ordering.swap := by
  rw [order?.eq_def v w]
  split
  · rfl
  · exact congrArg some Std.OrientedOrd.eq_swap
  · exact congrArg some Std.OrientedOrd.eq_swap
  · exact congrArg some (Net.Address.order_swap _ _)
  · exact congrArg some (Calendar.Instant.order_swap _ _)
  · exact textOrder?_swap _ _
  · next hnull hbool hint haddress hinstant hstr =>
    -- The values are of no one kind the other way round either.
    rw [order?.eq_7 w v (fun hw hv => hnull hv hw) (fun b a hw hv => hbool a b hv hw)
      (fun j i hw hv => hint i j hv hw) (fun b a hw hv => haddress a b hv hw)
      (fun t s hw hv => hinstant s t hv hw) (fun t s hw hv => hstr s t hv hw)]
    exact numberOrder?_swap v w

/-- A value is greater than another one if that is less than it. -/
theorem order?_eq_gt_iff_lt {v w : Value} : order? v w = some .gt ↔ order? w v = some .lt := by
  rw [order?_swap v w]
  cases order? v w with
  | none => exact iff_of_false nofun nofun
  | some o => cases o <;> decide

/-- A value is at most another when they compare and it is not the greater one. -/
theorem atMost_iff_lt_or_eq {v w : Value} :
    v.atMost w = true ↔ order? v w = some .lt ∨ order? v w = some .eq := by
  rw [atMost, Bool.or_eq_true, beq_iff_eq, beq_iff_eq]

/-- A value is at most another one if they are in order. -/
theorem atMost_iff {v w : Value} :
    v.atMost w = true ↔ ∃ o, order? v w = some o ∧ o.isLE = true := by
  unfold atMost
  cases order? v w with
  | none => exact iff_of_false Bool.false_ne_true fun ⟨_, ho, _⟩ => nomatch ho
  | some o => cases o <;> simp

/-- Whether a value is at most a comparable one is seen from their order. -/
theorem atMost_eq {v w : Value} {o : Ordering} (ho : order? v w = some o) :
    v.atMost w = o.isLE := by
  rw [Bool.eq_iff_iff, atMost_iff, ho]
  simp only [Option.some.injEq, exists_eq_left']

/-- A comparable value that is not at most another one is greater. -/
theorem order?_eq_gt_iff_not_atMost {v w : Value} (h : order? v w ≠ none) :
    order? v w = some .gt ↔ ¬v.atMost w = true := by
  obtain ⟨o, ho⟩ := Option.ne_none_iff_exists'.mp h
  rw [ho, atMost_eq ho]
  cases o <;> decide

/-- Values of one kind are in order transitively if the orders of that kind are. -/
theorem atMost_trans_of_orders {a b c : Value} {o₁ o₂ o₃ : Ordering} (h₁ : order? a b = some o₁)
    (h₂ : order? b c = some o₂) (h₃ : order? a c = some o₃)
    (htrans : o₁.isLE = true → o₂.isLE = true → o₃.isLE = true) (hab : a.atMost b = true)
    (hbc : b.atMost c = true) : a.atMost c = true := by
  rw [atMost_eq h₁] at hab
  rw [atMost_eq h₂] at hbc
  rw [atMost_eq h₃]
  exact htrans hab hbc

/-- A value is at least another one if that is at most the first one. -/
theorem atLeast_eq (v w : Value) : v.atLeast w = w.atMost v := by
  unfold atLeast atMost
  rw [order?_swap v w]
  cases order? v w with
  | none => rfl
  | some o => cases o <;> rfl

/-! ## Comparable values -/

/-- The pairs of values that can be comparable. -/
inductive Comparable : Value → Value → Prop where
  | null : Comparable .null .null
  | bool (a b : Bool) : Comparable (.bool a) (.bool b)
  | str (s t : String) : Comparable (.str s) (.str t)
  | address (a b : Net.Address) : Comparable (.address a) (.address b)
  | instant (s t : Calendar.Instant) : Comparable (.instant s) (.instant t)
  /-- Two numbers, be they integers, floating-point numbers or texts that are numerals. -/
  | number {v w : Value} {x y : Float} (hv : v.number? = some x) (hw : w.number? = some y) :
    Comparable v w

/-- Values that compare by their numbers have numbers. -/
theorem comparable_of_numberOrder? {v w : Value} (h : numberOrder? v w ≠ none) :
    Comparable v w := by
  unfold numberOrder? at h
  cases hv : v.number? with
  | none =>
    rw [hv] at h
    exact absurd rfl h
  | some x =>
    cases hw : w.number? with
    | none =>
      rw [hv, hw] at h
      exact absurd rfl h
    | some y => exact .number hv hw

/-- Comparable values are of one kind, or both are numbers. -/
theorem comparable_of_order? {v w : Value} (h : order? v w ≠ none) : Comparable v w := by
  rw [order?.eq_def v w] at h
  split at h
  · exact .null
  · exact .bool _ _
  · exact .number rfl rfl
  · exact .address _ _
  · exact .instant _ _
  · exact .str _ _
  · exact comparable_of_numberOrder? h

/-- Values of which one is at most the other can be compared. -/
theorem comparable_of_atMost {v w : Value} (h : v.atMost w = true) : Comparable v w := by
  obtain ⟨o, ho, -⟩ := atMost_iff.mp h
  exact comparable_of_order? (ho ▸ Option.some_ne_none o)

/-- Values with numbers compare as these do, unless both are integers. -/
theorem order?_of_numbers {v w : Value} {x y : Float} (hv : v.number? = some x)
    (hw : w.number? = some y) :
    (∃ i j, v = .int i ∧ w = .int j) ∨ order? v w = Decimal.order? x y := by
  rw [order?.eq_def v w]
  -- The rows of the comparison that come before numbers have values with no number on one side.
  split
  · exact nomatch hv
  · exact nomatch hv
  · next i j => exact .inl ⟨i, j, rfl, rfl⟩
  · exact nomatch hv
  · exact nomatch hv
  · next s t =>
    have hs : numeral? s = some x := hv
    have ht : numeral? t = some y := hw
    refine .inr ?_
    unfold textOrder?
    rw [hs, ht]
  · refine .inr ?_
    rw [hv, hw]

/-! ## Numbers -/

/-- What is at most another value has a number in no later place, also if both are integers. -/
theorem places_of_atMost {v w : Value} (hv : v.WellFormed) (hw : w.WellFormed) {x y : Float}
    (hx : v.number? = some x) (hy : w.number? = some y) (h : v.atMost w = true) :
    ∃ p q, place? x = some p ∧ place? y = some q ∧ p ≤ q := by
  obtain ⟨o, ho, hle⟩ := atMost_iff.mp h
  rcases order?_of_numbers hx hy with ⟨i, j, rfl, rfl⟩ | horder
  · -- Integers compare by value, and rounding keeps their order.
    obtain rfl := Option.some_inj.mp hx
    obtain rfl := Option.some_inj.mp hy
    obtain rfl := Option.some_inj.mp ho
    have hi : Decimal.FitsInt64 i := hv _ (List.mem_singleton_self _)
    have hj : Decimal.FitsInt64 j := hw _ (List.mem_singleton_self _)
    exact Decimal.ofInteger_mono hi hj (Std.isLE_compare.mp hle)
  · rw [horder] at ho
    obtain ⟨p, q, hp, hq, rfl⟩ := Decimal.order?_eq_some_iff.mp ho
    exact ⟨p, q, hp, hq, Std.isLE_compare.mp hle⟩

/-- Of three numbers in order the first is at most the last, unless these are integers that have one
nearest number. -/
theorem atMost_trans_of_numbers {a b c : Value} (ha : a.WellFormed) (hb : b.WellFormed)
    (hc : c.WellFormed) {x y z : Float} (hx : a.number? = some x) (hy : b.number? = some y)
    (hz : c.number? = some z) (hab : a.atMost b = true) (hbc : b.atMost c = true) :
    a.atMost c = true ∨ ∃ i j, a = .int i ∧ c = .int j ∧ j < i ∧
      sameNumber (ofInteger i) (ofInteger j) = true := by
  obtain ⟨p, q, hp, hq, hpq⟩ := places_of_atMost ha hb hx hy hab
  obtain ⟨q', r, hq', hr, hqr⟩ := places_of_atMost hb hc hy hz hbc
  obtain rfl := Option.some_inj.mp (hq.symm.trans hq')
  rcases order?_of_numbers hx hz with ⟨i, j, rfl, rfl⟩ | horder
  · obtain rfl := Option.some_inj.mp hx
    obtain rfl := Option.some_inj.mp hz
    rcases Int.lt_or_le j i with hlt | hle
    · -- The nearest numbers lie in the order of the integers, which is the opposite one.
      have hi : Decimal.FitsInt64 i := ha _ (List.mem_singleton_self _)
      have hj : Decimal.FitsInt64 j := hc _ (List.mem_singleton_self _)
      obtain ⟨r', p', hr', hp', hrp⟩ := Decimal.ofInteger_mono hj hi hlt.le
      obtain rfl := Option.some_inj.mp (hr.symm.trans hr')
      obtain rfl := Option.some_inj.mp (hp.symm.trans hp')
      obtain rfl : p = r := by omega
      refine .inr ⟨i, j, rfl, rfl, hlt, ?_⟩
      rw [sameNumber, beq_iff_eq, Decimal.order?_eq_some_iff]
      exact ⟨p, p, hp, hr, Std.ReflOrd.compare_self⟩
    · exact .inl ((atMost_eq rfl).trans (Std.isLE_compare.mpr hle))
  · have hcompare : order? a c = some (compare p r) := by
      rw [horder, Decimal.order?_eq_some_iff]
      exact ⟨p, r, hp, hr, rfl⟩
    exact .inl ((atMost_eq hcompare).trans (Std.isLE_compare.mpr (hpq.trans hqr)))

/-! ## Texts -/

/-- Texts compare as such if one of them is no numeral. -/
theorem order?_str {s t : String} (h : numeral? s = none ∨ numeral? t = none) :
    order? (.str s) (.str t) = some (compare s t) := by
  show textOrder? s t = some (compare s t)
  unfold textOrder?
  rcases h with h | h
  · rw [h]
  · rw [h]
    cases numeral? s <;> rfl

/-- Such texts are in order as texts. -/
theorem isLE_of_atMost_str {s t : String} (h : numeral? s = none ∨ numeral? t = none)
    (hle : (str s).atMost (str t) = true) : (compare s t).isLE = true :=
  (atMost_eq (order?_str h)).symm.trans hle

/-- A numeral and a text that is none are different, so that what comes first of them is less. -/
theorem compare_eq_lt {s t : String} (h : (numeral? s).isSome ≠ (numeral? t).isSome)
    (hle : (compare s t).isLE = true) : compare s t = .lt := by
  cases hcompare : compare s t with
  | lt => rfl
  | eq =>
    obtain rfl := Std.LawfulEqOrd.eq_of_compare hcompare
    exact absurd rfl h
  | gt =>
    rw [hcompare] at hle
    exact absurd hle Bool.false_ne_true

/-- A text that is no numeral comes as a text between two numerals. -/
structure Separates (x s y : String) : Prop where
  isNumeral_left : (numeral? x).isSome = true
  isNumeral_right : (numeral? y).isSome = true
  noNumeral : numeral? s = none
  left : compare x s = .lt
  right : compare s y = .lt

/-- A text that is no numeral and lies between two numerals separates them. -/
theorem Separates.of_isLE {x s y : String} (hs : numeral? s = none)
    (hnumerals : ¬(numeral? x = none ∨ numeral? y = none))
    (hxs : (compare x s).isLE = true) (hsy : (compare s y).isLE = true) : Separates x s y := by
  obtain ⟨hx, hy⟩ := not_or.mp hnumerals
  rw [← ne_eq, ← Option.isSome_iff_ne_none] at hx hy
  exact
    { isNumeral_left := hx
      isNumeral_right := hy
      noNumeral := hs
      left := compare_eq_lt (by rw [hx, hs]; exact Bool.false_ne_true.symm) hxs
      right := compare_eq_lt (by rw [hs, hy]; exact Bool.false_ne_true) hsy }

/-- The chains of three values, each at most the next one, of which the first yet comes after the
last. -/
inductive Breaks : Value → Value → Value → Prop where
  /-- Two integers with one nearest number, and a number between them that is level with it. -/
  | rounded {i j : Int} (b : Value) (h : j < i)
    (hsame : sameNumber (ofInteger i) (ofInteger j) = true) : Breaks (.int i) b (.int j)
  /-- A text that is no numeral comes first; as a text it separates the numerals, the last one in
  front. -/
  | first {r s t : String} (h : Separates t r s) : Breaks (.str r) (.str s) (.str t)
  /-- A text that is no numeral separates the numerals around it, but the first one is greater. -/
  | middle {r s t : String} (h : Separates r s t) (hgt : order? (.str r) (.str t) = some .gt) :
    Breaks (.str r) (.str s) (.str t)
  /-- A text that is no numeral comes last; as a text it separates the numerals, the first one
  behind. -/
  | last {r s t : String} (h : Separates s t r) : Breaks (.str r) (.str s) (.str t)

/-- Of three texts that are compared as such and in order the first does not come after the last. -/
theorem not_gt_of_texts {r s t : String} (hrs : (compare r s).isLE = true)
    (hst : (compare s t).isLE = true) : compare r t ≠ .gt := by
  intro hgt
  have hrt : (compare r t).isLE = true := Std.TransOrd.isLE_trans hrs hst
  rw [hgt] at hrt
  exact Bool.false_ne_true hrt

/-- Of three texts in order, of which one is no numeral, the first comes after the last only if the
other two are numerals and it separates them. -/
theorem breaks_of_texts {r s t : String}
    (hnone : numeral? r = none ∨ numeral? s = none ∨ numeral? t = none)
    (hrs : (str r).atMost (str s) = true) (hst : (str s).atMost (str t) = true)
    (hgt : order? (.str r) (.str t) = some .gt) : Breaks (.str r) (.str s) (.str t) := by
  -- Two pairs compare as texts, and the third one does not, since the order of texts is transitive.
  rcases hnone with hr | hs | ht
  · have hrs' := isLE_of_atMost_str (.inl hr) hrs
    have hrt : compare r t = .gt := Option.some_inj.mp ((order?_str (.inl hr)).symm.trans hgt)
    have hnumerals : ¬(numeral? s = none ∨ numeral? t = none) := fun h =>
      not_gt_of_texts hrs' (isLE_of_atMost_str h hst) hrt
    have htr : (compare t r).isLE = true := by rw [Std.OrientedCmp.gt_iff_lt.mp hrt]; rfl
    exact .first (.of_isLE hr (fun h => hnumerals h.symm) htr hrs')
  · have hrs' := isLE_of_atMost_str (.inr hs) hrs
    have hst' := isLE_of_atMost_str (.inl hs) hst
    have hnumerals : ¬(numeral? r = none ∨ numeral? t = none) := fun h =>
      not_gt_of_texts hrs' hst' (Option.some_inj.mp ((order?_str h).symm.trans hgt))
    exact .middle (.of_isLE hs hnumerals hrs' hst') hgt
  · have hst' := isLE_of_atMost_str (.inr ht) hst
    have hrt : compare r t = .gt := Option.some_inj.mp ((order?_str (.inr ht)).symm.trans hgt)
    have hnumerals : ¬(numeral? r = none ∨ numeral? s = none) := fun h =>
      not_gt_of_texts (isLE_of_atMost_str h hrs) hst' hrt
    have htr : (compare t r).isLE = true := by rw [Std.OrientedCmp.gt_iff_lt.mp hrt]; rfl
    exact .last (.of_isLE ht (fun h => hnumerals h.symm) hst' htr)

/-- Of three texts in order the first comes after the last only if the chain breaks. -/
theorem breaks_of_str {r s t : String}
    (hnumbers : ∀ x y z, numeral? r = some x → numeral? s = some y → numeral? t = some z →
      Breaks (.str r) (.str s) (.str t))
    (hrs : (str r).atMost (str s) = true) (hst : (str s).atMost (str t) = true)
    (hgt : order? (.str r) (.str t) = some .gt) : Breaks (.str r) (.str s) (.str t) := by
  -- One of the texts is no numeral, or all three have numbers that the chain can be read off.
  cases hx : numeral? r with
  | none => exact breaks_of_texts (.inl hx) hrs hst hgt
  | some x =>
    cases hy : numeral? s with
    | none => exact breaks_of_texts (.inr (.inl hy)) hrs hst hgt
    | some y =>
      cases hz : numeral? t with
      | none => exact breaks_of_texts (.inr (.inr hz)) hrs hst hgt
      | some z => exact hnumbers x y z hx hy hz

/-! ## Transitivity -/

/-- In a chain that breaks, the first value comes after the last. -/
theorem Breaks.order?_eq_gt {a b c : Value} (h : Breaks a b c) : order? a c = some .gt := by
  cases h with
  | rounded b hlt _ => exact congrArg some (Int.compare_eq_gt.mpr hlt)
  | first h =>
    rw [order?_str (.inl h.noNumeral)]
    exact congrArg some (Std.OrientedCmp.gt_iff_lt.mpr h.left)
  | middle _ hgt => exact hgt
  | last h =>
    rw [order?_str (.inr h.noNumeral)]
    exact congrArg some (Std.OrientedCmp.gt_iff_lt.mpr h.right)

/-- Of three well-formed values in order the first comes after the last only if the chain breaks. -/
theorem breaks_of_order?_eq_gt {a b c : Value} (ha : a.WellFormed) (hb : b.WellFormed)
    (hc : c.WellFormed) (hab : a.atMost b = true) (hbc : b.atMost c = true)
    (hgt : order? a c = some .gt) : Breaks a b c := by
  have hnot : a.atMost c ≠ true := by
    rw [atMost_eq hgt]
    exact Bool.false_ne_true
  have hnumbers : ∀ x y z, a.number? = some x → b.number? = some y → c.number? = some z →
      Breaks a b c := by
    intro x y z hx hy hz
    obtain ⟨i, j, rfl, rfl, hlt, hsame⟩ :=
      (atMost_trans_of_numbers ha hb hc hx hy hz hab hbc).resolve_left hnot
    exact .rounded b hlt hsame
  -- Two values without a number are of one kind, so that the third one is of that kind as well.
  cases comparable_of_atMost hab with
  | null =>
    cases comparable_of_atMost hbc with
    | null => exact absurd rfl hnot
    | number hy _ => exact nomatch hy
  | bool p q =>
    cases comparable_of_atMost hbc with
    | bool _ r =>
      exact absurd (atMost_trans_of_orders rfl rfl rfl Std.TransOrd.isLE_trans hab hbc) hnot
    | number hy _ => exact nomatch hy
  | address p q =>
    cases comparable_of_atMost hbc with
    | address _ r =>
      exact absurd (atMost_trans_of_orders rfl rfl rfl Net.Address.order_isLE_trans hab hbc) hnot
    | number hy _ => exact nomatch hy
  | instant p q =>
    cases comparable_of_atMost hbc with
    | instant _ r =>
      exact absurd (atMost_trans_of_orders rfl rfl rfl Calendar.Instant.order_isLE_trans hab hbc)
        hnot
    | number hy _ => exact nomatch hy
  | str r s =>
    -- A text in the middle may be a numeral and at most a number of another kind. The first text is
    -- comparable to that one only as a numeral.
    cases comparable_of_atMost hbc with
    | str _ t => exact breaks_of_str hnumbers hab hbc hgt
    | number hy hz =>
      cases comparable_of_order? (hgt ▸ Option.some_ne_none _) with
      | str _ t => exact breaks_of_str hnumbers hab hbc hgt
      | number hx _ => exact hnumbers _ _ _ hx hy hz
  | number hx hy =>
    cases comparable_of_atMost hbc with
    | null | bool | address | instant => exact nomatch hy
    | number _ hz => exact hnumbers _ _ _ hx hy hz
    | str s t =>
      cases comparable_of_order? (hgt ▸ Option.some_ne_none _) with
      | str r _ => exact breaks_of_str hnumbers hab hbc hgt
      | number _ hz => exact hnumbers _ _ _ hx hy hz

/-- Of three well-formed values in order the first comes after the last exactly if the chain
breaks. -/
theorem order?_eq_gt_iff_breaks {a b c : Value} (ha : a.WellFormed) (hb : b.WellFormed)
    (hc : c.WellFormed) (hab : a.atMost b = true) (hbc : b.atMost c = true) :
    order? a c = some .gt ↔ Breaks a b c :=
  ⟨breaks_of_order?_eq_gt ha hb hc hab hbc, Breaks.order?_eq_gt⟩

end Value

end AccessPolicy
