import AccessPolicy.Proofs.Decimal.Positional

/-!
# Numbers that two layouts write alike

One layout writes every number positionally and shows no needless point; another one shows the point
of a whole number, writes some numbers behind an exponent, and may choose differently between two
decimals that are equally near. They write a number alike exactly if it has a fraction, is not
written behind an exponent, and has one shortest decimal for both (`write_eq_write_iff`). For the
first one to write an integer, the shortest decimal of the number has to be that integer
(`write_eq_intText_iff`).
-/

namespace AccessPolicy.Decimal

/-! ## Shortest decimals -/

/-- On which grid the shortest decimal of a number is found does not depend on the choice between
two that are equally near. -/
theorem exponent_shortest (s t : Tie) (m : Nat) (q : Int) :
    (shortest s m q).exponent = (shortest t m q).exponent := by
  -- The choice is between two multiples on one grid, and whether there is one does not depend on
  -- it.
  have hgrid : ∀ k : Int,
      (((Interval.of m q).onGrid? s k).map fun d => (⟨d, k⟩ : Scaled).exponent) =
      ((Interval.of m q).onGrid? t k).map fun d => (⟨d, k⟩ : Scaled).exponent := by
    intro k
    rw [Interval.onGrid?_eq, Interval.onGrid?_eq]
    dsimp only
    split
    · split_ifs <;> rfl
    all_goals rfl
  rw [shortest, shortest]
  dsimp only
  rw [← Option.getD_map Scaled.exponent, ← Option.getD_map Scaled.exponent, List.map_findSome?,
    List.map_findSome?]
  simp only [Function.comp_def, Option.map_map, hgrid]

/-! ## Texts -/

/-- A common sign in front does not make two texts equal. -/
theorem signed_inj {negative : Bool} {a b : List Char} :
    signed negative a = signed negative b ↔ a = b := by
  cases negative with
  | true => exact List.cons_inj_right '-'
  | false => exact Iff.rfl

/-- A text with a point determines its sign, the number that all its digits denote, and how many of
them stand behind the point. -/
theorem ArePlaces.eq_of_signed {whole fraction whole' fraction' : List Char}
    (h : ArePlaces whole fraction) (h' : ArePlaces whole' fraction') {negative negative' : Bool}
    (heq : signed negative (pointed whole fraction) = signed negative' (pointed whole' fraction')) :
    negative = negative' ∧ valueOf (whole ++ fraction) = valueOf (whole' ++ fraction') ∧
      fraction.length = fraction'.length := by
  have hsplit := congrArg Numeral.split heq
  rw [h.split_signed, h'.split_signed, Option.some.injEq, Prod.mk.injEq, Numeral.mk.injEq] at hsplit
  obtain ⟨⟨hsign, hvalue, hscale⟩, -⟩ := hsplit
  exact ⟨hsign, hvalue, by omega⟩

/-- Powers of ten put zeros behind the digits of a number. -/
theorem digits_mul_pow {d : Nat} (hd : 0 < d) (k : Nat) :
    digits (d * 10 ^ k) = digits d ++ List.replicate k '0' := by
  induction k with
  | zero => rw [Nat.pow_zero, Nat.mul_one, List.replicate_zero, List.append_nil]
  | succ k ih =>
    have hstep : digits (d * 10 ^ (k + 1)) = digits (d * 10 ^ k) ++ ['0'] := by
      have happend := Nat.toDigits_append_toDigits (b := 10) (n := d * 10 ^ k) (d := 0) (by decide)
        (Nat.mul_pos hd (Nat.pow_pos (by decide))) (by decide)
      rw [Nat.add_zero, Nat.mul_left_comm, Nat.mul_comm 10, ← Nat.pow_succ] at happend
      exact happend.symm
    rw [hstep, ih, List.append_assoc, List.replicate_succ']

/-! ## Positional texts -/

variable {l j : Layout}

/-- A number with a fraction is written alike by all layouts that write it positionally. -/
theorem positionalChars_eq_of_neg (l j : Layout) (d : Nat) {e : Int} (he : e < 0) :
    l.positionalChars (digits d) (e + (digits d).length) =
      j.positionalChars (digits d) (e + (digits d).length) := by
  have hpos := length_digits_pos d
  have hwithin : ¬(digits d).length ≤ (e + (digits d).length).toNat := by omega
  rw [Layout.positionalChars, Layout.positionalChars, if_neg hwithin, if_neg hwithin]

/-- A whole number without a point is its digits. -/
theorem positionalChars_of_nonneg (hl : l.showsPoint = false) {d : Nat} (hd : 0 < d) {e : Int}
    (he : 0 ≤ e) :
    l.positionalChars (digits d) (e + (digits d).length) = digits (d * 10 ^ e.toNat) := by
  have hpos := length_digits_pos d
  have hzeros : (e + (digits d).length).toNat - (digits d).length = e.toNat := by omega
  have hpoint : ¬l.showsPoint = true := by
    rw [hl]
    exact Bool.false_ne_true
  rw [Layout.positionalChars, if_neg (by omega), if_pos (by omega), if_neg hpoint, List.append_nil,
    hzeros, digits_mul_pow hd]

/-- A whole number with its point has a point. -/
theorem point_mem_positionalChars (hj : j.showsPoint = true) (d : Nat) {e : Int} (he : 0 ≤ e) :
    '.' ∈ j.positionalChars (digits d) (e + (digits d).length) := by
  have hpos := length_digits_pos d
  rw [Layout.positionalChars, if_neg (by omega), if_pos (by omega), if_pos hj]
  exact List.mem_append_right _ List.mem_cons_self

/-- A text behind an exponent has the letter that the exponent is behind. -/
theorem e_mem_exponentChars (ds : List Char) (place : Int) : 'e' ∈ Layout.exponentChars ds place :=
  List.mem_append_right _ List.mem_cons_self

/-- A text with a point is made up of digits and, if there are digits behind it, the point. -/
theorem ArePlaces.mem_pointed {whole fraction : List Char} (h : ArePlaces whole fraction) {c : Char}
    (hc : c ∈ pointed whole fraction) : c.isDigit ∨ (c = '.' ∧ fraction ≠ []) := by
  rw [pointed] at hc
  split_ifs at hc with hnil
  · exact .inl (h.isDigit_whole c hc)
  · rcases List.mem_append.mp hc with hc | hc
    · exact .inl (h.isDigit_whole c hc)
    · rcases List.mem_cons.mp hc with rfl | hc
      · exact .inr ⟨rfl, hnil⟩
      · exact .inl (h.isDigit_fraction c hc)

/-- A layout without bounds writes every number positionally. -/
theorem positiveChars_eq (hl : l.positional = none) (m : Nat) (q : Int) :
    l.positiveChars m q = l.positionalChars (digits (shortest l.tie m q).digits)
      ((shortest l.tie m q).exponent + (digits (shortest l.tie m q).digits).length) := by
  rw [Layout.positiveChars]
  simp only [Layout.isPositional, hl, if_true]

/-! ## Numbers -/

/-- What is no finite number is written as a word in every layout. -/
theorem write_of_not_isFinite {x : Float} (h : ¬isFinite x = true) :
    l.write x = "NaN" ∨ l.write x = "inf" ∨ l.write x = "-inf" := by
  rw [isFinite] at h
  rw [Layout.write]
  cases hparts : Binary.ofFloat x with
  | nan => exact .inl rfl
  | infinite negative =>
    cases negative with
    | false => exact .inr (.inl rfl)
    | true => exact .inr (.inr rfl)
  | finite negative m q => exact absurd (by rw [hparts]) h

/-- Whether a number other than zero has a fraction and one shortest decimal for both of two
layouts, and the second one writes it positionally. -/
structure IsPlain (l j : Layout) (m : Nat) (q : Int) : Prop where
  pos : 0 < m
  shortest_eq : shortest l.tie m q = shortest j.tie m q
  exponent_neg : (shortest j.tie m q).exponent < 0
  isPositional : j.isPositional ((shortest j.tie m q).exponent +
    (digits (shortest j.tie m q).digits).length - 1) = true

/-- A layout that writes every number positionally and no point behind whole ones, and one that
shows the point, write exactly the plain positive numbers alike. -/
theorem positiveChars_eq_iff (hl : l.positional = none) (hl' : l.showsPoint = false)
    (hj : j.showsPoint = true) {m : Nat} (hm : 0 < m) {q : Int} :
    l.positiveChars m q = j.positiveChars m q ↔ IsPlain l j m q := by
  have hexponent := exponent_shortest l.tie j.tie m q
  obtain ⟨whole, fraction, htext, hplaces, hvalue, hlength⟩ :=
    positionalChars_eq hl' (shortest l.tie m q).digits (shortest l.tie m q).exponent
  rw [positiveChars_eq hl, Layout.positiveChars]
  constructor
  · intro heq
    by_cases hpositional : j.isPositional ((shortest j.tie m q).exponent +
        (digits (shortest j.tie m q).digits).length - 1) = true
    · rw [if_pos hpositional] at heq
      rcases Int.lt_or_le (shortest j.tie m q).exponent 0 with hneg | hnonneg
      · -- Both texts have a point, and give away the digits and how many of them are behind it.
        obtain ⟨whole', fraction', htext', hplaces', hvalue', -⟩ :=
          positionalChars_eq hl' (shortest j.tie m q).digits (shortest j.tie m q).exponent
        rw [positionalChars_eq_of_neg j l _ hneg, htext, htext'] at heq
        obtain ⟨-, hdigits, -⟩ := hplaces.eq_of_signed hplaces' (congrArg (signed false) heq)
        rw [hvalue, hvalue', hexponent, Int.toNat_of_nonpos hneg.le, Nat.pow_zero, Nat.mul_one,
          Nat.mul_one] at hdigits
        exact ⟨hm, (Scaled.mk.injEq ..).mpr ⟨hdigits, hexponent⟩, hneg, hpositional⟩
      · have hpoint := point_mem_positionalChars hj (shortest j.tie m q).digits hnonneg
        rw [← heq, htext] at hpoint
        rcases hplaces.mem_pointed hpoint with hdigit | ⟨-, hne⟩
        · exact absurd hdigit (by decide)
        · exact absurd (List.length_eq_zero_iff.mp (by omega)) hne
    · have he := e_mem_exponentChars (digits (shortest j.tie m q).digits)
        ((shortest j.tie m q).exponent + (digits (shortest j.tie m q).digits).length - 1)
      rw [if_neg hpositional] at heq
      rw [← heq, htext] at he
      rcases hplaces.mem_pointed he with hdigit | ⟨hpoint, -⟩
      · exact absurd hdigit (by decide)
      · exact absurd hpoint (by decide)
  · rintro ⟨-, hshortest, hneg, hpositional⟩
    rw [if_pos hpositional, hshortest]
    exact positionalChars_eq_of_neg l j _ hneg

/-- A positional layout without needless points and one that shows them write a number alike exactly
if it is plain. -/
theorem write_eq_write_iff (hl : l.positional = none) (hl' : l.showsPoint = false)
    (hj : j.showsPoint = true) {x : Float} {negative : Bool} {m : Nat} {q : Int}
    (hx : Binary.ofFloat x = .finite negative m q) : l.write x = j.write x ↔ IsPlain l j m q := by
  rw [Layout.write, Layout.write, hx, String.ofList_inj]
  show signed negative _ = signed negative _ ↔ _
  rw [signed_inj]
  rcases Nat.eq_zero_or_pos m with rfl | hm
  · rw [if_pos rfl, if_pos rfl]
    refine iff_of_false ?_ fun h => absurd h.pos (Nat.lt_irrefl 0)
    simp [Layout.positionalChars, hl', hj]
  · rw [if_neg hm.ne', if_neg hm.ne']
    exact positiveChars_eq_iff hl hl' hj hm

/-- Whether an integer is the shortest decimal of a number other than zero. -/
structure IsWhole (l : Layout) (negative : Bool) (m : Nat) (q : Int) (i : Int) : Prop where
  pos : 0 < m
  negative_eq : negative = decide (i < 0)
  exponent_nonneg : 0 ≤ (shortest l.tie m q).exponent
  natAbs_eq : (shortest l.tie m q).digits * 10 ^ (shortest l.tie m q).exponent.toNat = i.natAbs

/-- A positional layout without needless points writes a number as an integer exactly if the integer
is the shortest decimal of the number. -/
theorem write_eq_intText_iff (hl : l.positional = none) (hl' : l.showsPoint = false) {x : Float}
    {negative : Bool} {m : Nat} {q : Int} (hx : Binary.ofFloat x = .finite negative m q) {i : Int}
    (hi : i ≠ 0) : l.write x = intText i ↔ IsWhole l negative m q i := by
  rw [Layout.write, hx, intText, String.ofList_inj, intChars_eq_signed]
  show signed negative _ = _ ↔ _
  -- An integer is spelled like a number with nothing behind its point.
  have hinteger := arePlaces_digits i.natAbs
  have hmagnitude : valueOf (digits i.natAbs ++ []) = i.natAbs := by
    rw [List.append_nil, valueOf_digits]
  rcases Nat.eq_zero_or_pos m with rfl | hm
  · -- Zero is written for zero only, which the integer is not.
    rw [if_pos rfl]
    refine iff_of_false (fun heq => ?_) fun h => absurd h.pos (Nat.lt_irrefl 0)
    obtain ⟨whole, fraction, htext, hplaces, hvalue, -⟩ := positionalChars_eq hl' 0 0
    have hzero : l.positionalChars ['0'] 1 = pointed whole fraction := htext
    rw [hzero] at heq
    obtain ⟨-, hnum, -⟩ := hplaces.eq_of_signed hinteger heq
    omega
  · rw [if_neg hm.ne', positiveChars_eq hl]
    constructor
    · intro heq
      -- The two texts spell the same sign, digits and places, and the integer has no places.
      obtain ⟨whole, fraction, htext, hplaces, hvalue, hlength⟩ :=
        positionalChars_eq hl' (shortest l.tie m q).digits (shortest l.tie m q).exponent
      rw [htext] at heq
      obtain ⟨hsign, hnum, hnone⟩ := hplaces.eq_of_signed hinteger heq
      rw [List.length_nil] at hnone
      exact ⟨hm, hsign, by omega, by rw [← hvalue, hnum, hmagnitude]⟩
    · rintro ⟨-, hsign, hnonneg, hnum⟩
      -- The integer is not zero, and neither are the digits of its shortest decimal.
      have hd : 0 < (shortest l.tie m q).digits := by
        rcases Nat.eq_zero_or_pos (shortest l.tie m q).digits with hzero | hd
        · rw [hzero, Nat.zero_mul] at hnum
          omega
        · exact hd
      rw [positionalChars_of_nonneg hl' hd hnonneg, hnum, hsign, pointed, if_pos rfl]

end AccessPolicy.Decimal
