import AccessPolicy.Proofs.Decimal.Spelling
import AccessPolicy.Proofs.Json.Scalar
import AccessPolicy.Proofs.Text.Cut
import AccessPolicy.Proofs.Value.Literal

/-!
# The number at the front of a text

`(*float)` looks for a number at the front of a text in two steps. The first takes the longest
beginning that has the form of a numeral, in digits of any script, and the second reads it, in
digits of ASCII. The two agree on a numeral that no digit follows: the first takes it as it is
spelled (`numeralPrefix_chars_append`), and the second reads all of it. A digit of another script
behind the numeral is taken with it (`mem_numeralPrefix`), and then the second step reads nothing at
all, so the number is zero (`ofLiteral_float_append`).
-/

namespace AccessPolicy.Literal

open Decimal (ExponentText NumeralText Sign pointChars)
open Json (EndsNumber)

/-! ## The prefix, part by part -/

/-- Digits of ASCII are digits of some script. -/
theorem forall_isDigit {ds : List Char} (h : ∀ c ∈ ds, c.isDigit) : ∀ c ∈ ds, Text.isDigit c :=
  fun c hc => Text.isDigit_of_isDigit (h c hc)

/-- What is taken behind the first digits: a point and the digits behind it, and the rest. -/
def fractionPrefix : List Char → List Char × List Char
  | '.' :: rest => ('.' :: rest.takeWhile Text.isDigit, rest.dropWhile Text.isDigit)
  | rest => ([], rest)

/-- What is taken behind a sign. -/
def unsignedPrefix (sign unsigned : List Char) : List Char :=
  let whole := unsigned.takeWhile Text.isDigit
  let (fraction, rest) := fractionPrefix (unsigned.dropWhile Text.isDigit)
  if whole = [] ∧ fraction.length ≤ 1 then []
  else sign ++ (whole ++ (fraction ++ exponentPrefix rest))

/-- The longest numeral at the front of a text, part by part. -/
theorem numeralPrefix_eq (cs : List Char) :
    numeralPrefix cs = unsignedPrefix (Sign.front cs).chars (Decimal.splitSign cs).2 := by
  unfold unsignedPrefix fractionPrefix
  -- Each of the three signs leaves the same parts behind.
  rcases Sign.front_cases cs with ⟨rest, rfl⟩ | ⟨rest, rfl⟩ | ⟨hfront, hsplit, hplus, hminus⟩
  · unfold numeralPrefix
    simp only [List.append_assoc]
    rfl
  · unfold numeralPrefix
    simp only [List.append_assoc]
    rfl
  · rw [numeralPrefix, hfront, hsplit]
    · simp only [List.append_assoc]
      rfl
    · exact fun rest => hplus rest
    · exact fun rest => hminus rest

/-- The exponent at the front of a text, part by part. -/
theorem exponentPrefix_cons {letter : Char} (hletter : letter = 'e' ∨ letter = 'E')
    (cs : List Char) :
    exponentPrefix (letter :: cs) =
      if (Decimal.splitSign cs).2.takeWhile Text.isDigit = [] then []
      else letter :: ((Sign.front cs).chars ++
        (Decimal.splitSign cs).2.takeWhile Text.isDigit) := by
  unfold exponentPrefix
  simp only
  rw [if_pos hletter]
  -- The sign of the exponent is taken off in the same three ways.
  rcases Sign.front_cases cs with ⟨rest, rfl⟩ | ⟨rest, rfl⟩ | ⟨hfront, hsplit, hplus, hminus⟩
  · rfl
  · rfl
  · rw [hfront, hsplit]
    split
    · exact absurd rfl (hplus _)
    · exact absurd rfl (hminus _)
    · rfl

/-- No exponent is taken where there is no `e`. -/
theorem exponentPrefix_of_endsNumber {u : List Char} (hu : EndsNumber u) :
    exponentPrefix u = [] := by
  unfold exponentPrefix
  split
  · rfl
  · next e cs =>
    obtain ⟨-, -, he, hE⟩ := hu e rfl
    exact if_neg (not_or.mpr ⟨he, hE⟩)

/-- An exponent starts with no digit and no point. -/
theorem head?_exponent (e : ExponentText) {rest : List Char} {c : Char}
    (hc : c ∈ (e.chars ++ rest).head?) : Text.isDigit c = false ∧ c ≠ '.' := by
  obtain rfl : e.letter = c := Option.some_inj.mp hc
  rcases e.letter_eq with hletter | hletter
  · rw [hletter]
    exact ⟨Text.isDigit_of_lt (by decide), by decide⟩
  · rw [hletter]
    exact ⟨Text.isDigit_of_lt (by decide), by decide⟩

/-- An exponent is taken as it is spelled, with all digits that follow. -/
theorem exponentPrefix_chars_append (e : ExponentText) (u : List Char) :
    exponentPrefix (e.chars ++ u) = e.chars ++ u.takeWhile Text.isDigit := by
  have hdigits := forall_isDigit e.isDigit_digits
  -- The first digit of the exponent is no sign.
  have hsign : e.sign = .absent → ∀ c ∈ (e.digits ++ u).head?, c ≠ '+' ∧ c ≠ '-' := by
    intro _ c hc
    rw [List.head?_append_of_ne_nil _ e.digits_ne_nil] at hc
    exact Decimal.ne_sign_of_isDigit (e.isDigit_digits c (List.mem_of_mem_head? hc))
  have hne : e.digits ++ u.takeWhile Text.isDigit ≠ [] :=
    List.append_ne_nil_of_left_ne_nil e.digits_ne_nil _
  unfold ExponentText.chars
  rw [List.cons_append, List.append_assoc, exponentPrefix_cons e.letter_eq,
    Sign.splitSign_append hsign, Sign.front_append hsign]
  simp only
  rw [List.takeWhile_append_of_pos hdigits, if_neg hne, List.cons_append, List.append_assoc]

/-- A fraction is taken as it is spelled, unless digits follow. -/
theorem fractionPrefix_pointChars {fraction : Option (List Char)}
    (hfraction : ∀ ds ∈ fraction, ∀ c ∈ ds, c.isDigit) {rest : List Char}
    (hrest : ∀ c ∈ rest.head?, Text.isDigit c = false ∧ c ≠ '.') :
    fractionPrefix (pointChars fraction ++ rest) = (pointChars fraction, rest) := by
  cases fraction with
  | none =>
    show fractionPrefix rest = ([], rest)
    unfold fractionPrefix
    split
    · exact absurd rfl (hrest '.' rfl).2
    · rfl
  | some ds =>
    have hds := forall_isDigit (hfraction ds rfl)
    -- No digit follows the fraction, so that its digits end with it.
    have hstop : ∀ c ∈ rest.head?, Text.isDigit c = false := fun c hc => (hrest c hc).1
    show ('.' :: (ds ++ rest).takeWhile Text.isDigit, (ds ++ rest).dropWhile Text.isDigit) = _
    rw [Decimal.takeWhile_isDigit_append hds hstop, Decimal.dropWhile_isDigit_append hds hstop]
    rfl

/-! ## Numerals with a text behind them -/

section Numeral

variable (t : NumeralText)

/-- The longest numeral at the front of a text that starts with the sign, the digits and the point
of one. -/
theorem numeralPrefix_signed (rest : List Char) :
    numeralPrefix (t.sign.chars ++ (t.whole ++ (pointChars t.fraction ++ rest))) =
      unsignedPrefix t.sign.chars (t.whole ++ (pointChars t.fraction ++ rest)) := by
  have hsign : t.sign = .absent →
      ∀ c ∈ (t.whole ++ (pointChars t.fraction ++ rest)).head?, c ≠ '+' ∧ c ≠ '-' :=
    fun _ _ => t.ne_sign_of_mem_head?
  rw [numeralPrefix_eq, Sign.front_append hsign, Sign.splitSign_append hsign]

/-- Where no digit follows, the digits and the point are taken as they are spelled. -/
theorem unsignedPrefix_of_parts (sign : List Char) {rest : List Char}
    (hrest : ∀ c ∈ rest.head?, Text.isDigit c = false ∧ c ≠ '.') :
    unsignedPrefix sign (t.whole ++ (pointChars t.fraction ++ rest)) =
      sign ++ (t.whole ++ (pointChars t.fraction ++ exponentPrefix rest)) := by
  -- Whether there is a fraction or not, no digit follows the whole part.
  have hstop : ∀ c ∈ (pointChars t.fraction ++ rest).head?, Text.isDigit c = false := by
    intro c hc
    cases hf : t.fraction with
    | none =>
      rw [hf] at hc
      exact (hrest c hc).1
    | some ds =>
      rw [hf] at hc
      exact Option.some_inj.mp hc ▸ Text.isDigit_point
  have hwhole := forall_isDigit t.isDigit_whole
  -- One of the two parts has a digit, so that the numeral counts as one.
  have hdigit : ¬(t.whole = [] ∧ (pointChars t.fraction).length ≤ 1) := by
    rintro ⟨hnil, hlength⟩
    have hfraction := t.has_digit.resolve_left (not_not_intro hnil)
    cases hf : t.fraction with
    | none =>
      rw [hf] at hfraction
      exact hfraction rfl
    | some ds =>
      rw [hf] at hfraction hlength
      have hnone : ds.length = 0 := Nat.le_zero.mp (Nat.le_of_succ_le_succ hlength)
      exact hfraction (List.eq_nil_of_length_eq_zero hnone)
  unfold unsignedPrefix
  simp only [Decimal.takeWhile_isDigit_append hwhole hstop,
    Decimal.dropWhile_isDigit_append hwhole hstop,
    fractionPrefix_pointChars t.isDigit_fraction hrest]
  exact if_neg hdigit

variable {u : List Char} (hu : EndsNumber u)

include hu

/-- A numeral is taken as it is spelled if no digit of any script follows it. -/
theorem numeralPrefix_chars_append (hdigit : ∀ c ∈ u.head?, Text.isDigit c = false) :
    numeralPrefix (t.chars ++ u) = t.chars := by
  have hrest : ∀ c ∈ (ExponentText.charsOf t.exponent ++ u).head?,
      Text.isDigit c = false ∧ c ≠ '.' := by
    intro c hc
    cases he : t.exponent with
    | none =>
      rw [he] at hc
      exact ⟨hdigit c hc, (hu c hc).2.1⟩
    | some e =>
      rw [he] at hc
      exact head?_exponent e hc
  -- No digit follows, so that the exponent is taken without one more.
  have hexponent : exponentPrefix (ExponentText.charsOf t.exponent ++ u) =
      ExponentText.charsOf t.exponent := by
    have hrun : ([] ++ u).takeWhile Text.isDigit = [] :=
      Decimal.takeWhile_isDigit_append nofun hdigit
    rw [List.nil_append] at hrun
    cases t.exponent with
    | none => exact exponentPrefix_of_endsNumber hu
    | some e =>
      show exponentPrefix (e.chars ++ u) = e.chars
      rw [exponentPrefix_chars_append, hrun, List.append_nil]
  unfold NumeralText.chars
  rw [List.append_assoc, List.append_assoc, List.append_assoc, numeralPrefix_signed,
    unsignedPrefix_of_parts t _ hrest, hexponent]

end Numeral

/-- What is taken among the digits on either side of the point is taken in the end. -/
theorem mem_unsignedPrefix (sign : List Char) {unsigned : List Char} {c : Char}
    (hc : c ∈ unsigned.takeWhile Text.isDigit ∨
      c ∈ (fractionPrefix (unsigned.dropWhile Text.isDigit)).1.tail) :
    c ∈ unsignedPrefix sign unsigned := by
  -- There is a digit on one side of the point, so that something is taken at all.
  have hdigit : ¬(unsigned.takeWhile Text.isDigit = [] ∧
      (fractionPrefix (unsigned.dropWhile Text.isDigit)).1.length ≤ 1) := by
    rintro ⟨hnil, hlength⟩
    rcases hc with hwhole | hfraction
    · rw [hnil] at hwhole
      exact nomatch hwhole
    · have hpos := List.length_pos_of_mem hfraction
      rw [List.length_tail] at hpos
      omega
  unfold unsignedPrefix
  simp only
  rw [if_neg hdigit]
  refine List.mem_append_right _ ?_
  rcases hc with hwhole | hfraction
  · exact List.mem_append_left _ hwhole
  · exact List.mem_append_right _ (List.mem_append_left _ (List.mem_of_mem_tail hfraction))

/-- A digit of any script behind a numeral is taken with it. -/
theorem mem_numeralPrefix (t : NumeralText) {c : Char} (hc : Text.isDigit c) (u : List Char) :
    c ∈ numeralPrefix (t.chars ++ c :: u) := by
  have hrun : ∀ {ds : List Char}, (∀ d ∈ ds, Text.isDigit d) →
      c ∈ (ds ++ c :: u).takeWhile Text.isDigit := by
    intro ds hds
    rw [List.takeWhile_append_of_pos hds, List.takeWhile_cons_of_pos hc]
    exact List.mem_append_right _ List.mem_cons_self
  unfold NumeralText.chars
  rw [List.append_assoc, List.append_assoc, List.append_assoc, numeralPrefix_signed]
  -- The digit goes on with the last part of the numeral, be that the exponent, the fraction or the
  -- whole.
  cases he : t.exponent with
  | some e =>
    show c ∈ unsignedPrefix t.sign.chars (t.whole ++ (pointChars t.fraction ++ (e.chars ++ c :: u)))
    rw [unsignedPrefix_of_parts t _ fun _ => head?_exponent e, exponentPrefix_chars_append]
    refine List.mem_append_right _ (List.mem_append_right _ (List.mem_append_right _ ?_))
    have hbehind : c ∈ ([] ++ c :: u).takeWhile Text.isDigit := hrun nofun
    exact List.mem_append_right _ hbehind
  | none =>
    apply mem_unsignedPrefix
    cases hf : t.fraction with
    | none => exact .inl (hrun (forall_isDigit t.isDigit_whole))
    | some ds =>
      right
      have hds := forall_isDigit (t.isDigit_fraction ds hf)
      have hstop : ∀ d ∈ ('.' :: (ds ++ c :: u)).head?, Text.isDigit d = false := fun d hd =>
        Option.some_inj.mp hd ▸ Text.isDigit_point
      show c ∈ (fractionPrefix ((t.whole ++ '.' :: (ds ++ c :: u)).dropWhile Text.isDigit)).1.tail
      rw [Decimal.dropWhile_isDigit_append (forall_isDigit t.isDigit_whole) hstop]
      exact hrun hds

/-! ## Reading -/

/-- A numeral starts with no blank. -/
theorem trimStart_numeral (t : NumeralText) (u : List Char) :
    Text.trimStart (t.chars ++ u) = t.chars ++ u := by
  have hbehind : ∀ c ∈ (t.whole ++ (pointChars t.fraction ++
      (ExponentText.charsOf t.exponent ++ u))).head?, Text.isBlank c = false := by
    intro c hc
    rcases t.head?_whole_append hc with hdigit | rfl
    · exact Text.isBlank_of_isDigit hdigit
    · decide
  apply Text.trimStart_eq_self
  unfold NumeralText.chars
  rw [List.append_assoc, List.append_assoc, List.append_assoc]
  intro c hc
  -- Without a sign the numeral starts with a digit or a point, which are no blanks.
  by_cases hsign : t.sign.chars = []
  · rw [hsign] at hc
    exact hbehind c hc
  · rw [List.head?_append_of_ne_nil _ hsign] at hc
    exact t.sign.isBlank_of_mem_chars (List.mem_of_mem_head? hc)

/-- A text that is read as a numeral is one of ASCII. -/
theorem lt_of_number? {cs : List Char} {x : Float} (h : Decimal.number? cs = some x) {c : Char}
    (hc : c ∈ cs) : c.toNat < 0x80 := by
  unfold Decimal.number? at h
  split at h
  · next n hsplit =>
    obtain ⟨t, ht⟩ := NumeralText.exists_of_split hsplit
    rw [List.append_nil] at ht
    exact t.lt_of_mem_chars (ht ▸ hc)
  · exact nomatch h

/-- The number at the front of a text is that of the numeral there, if no digit of any script
follows. -/
theorem leadingFloat_chars_append (t : NumeralText) {u : List Char} (hu : EndsNumber u)
    (hdigit : ∀ c ∈ u.head?, Text.isDigit c = false) :
    leadingFloat (t.chars ++ u) = t.numeral.toFloat?.getD 0.0 := by
  rw [leadingFloat, trimStart_numeral, numeralPrefix_chars_append t hu hdigit, t.number?_chars]

/-- The number at the front of a numeral is that of the numeral. -/
theorem leadingFloat_chars (t : NumeralText) :
    leadingFloat t.chars = t.numeral.toFloat?.getD 0.0 := by
  have hnothing := leadingFloat_chars_append t (u := []) nofun nofun
  rwa [List.append_nil] at hnothing

/-- There is no number at the front of a text where a digit that is not ASCII follows the numeral
there, for it is taken with the numeral and cannot be read. -/
theorem leadingFloat_of_isDigit (t : NumeralText) {c : Char} (hc : Text.isDigit c)
    (hascii : c.isDigit = false) (u : List Char) : leadingFloat (t.chars ++ c :: u) = 0.0 := by
  have hmem := mem_numeralPrefix t hc u
  -- Were the prefix read, all of it would be ASCII, where the digits of all scripts are those of
  -- ASCII.
  have hread : Decimal.number? (numeralPrefix (t.chars ++ c :: u)) = none := by
    cases hnumber : Decimal.number? (numeralPrefix (t.chars ++ c :: u)) with
    | none => rfl
    | some x =>
      have hsame := Text.isDigit_of_lt (lt_of_number? hnumber hmem)
      rw [hc, hascii] at hsame
      exact Bool.noConfusion hsame
  rw [leadingFloat, trimStart_numeral, hread]
  rfl

/-! ## Text behind a numeral -/

/-- Behind the type of numbers a numeral stands for the number that is nearest to what it denotes,
or for zero if that is out of range. A text behind the numeral, which does not go on with it as a
numeral, counts for nothing, unless it starts with a digit that is not one of ASCII: then the whole
stands for zero, whatever the numeral is. -/
theorem ofLiteral_float_append (t : NumeralText) (u : List Char)
    (hu : ∀ c ∈ u.head?, c.isDigit = false ∧ c ≠ '.' ∧ c ≠ 'e' ∧ c ≠ 'E') :
    Value.ofLiteral ("(*float)" ++ String.ofList t.chars) =
      .float (t.numeral.toFloat?.getD 0.0) ∧
    ((∀ c ∈ u.head?, Text.isDigit c = false) →
      Value.ofLiteral ("(*float)" ++ String.ofList (t.chars ++ u)) =
        Value.ofLiteral ("(*float)" ++ String.ofList t.chars)) ∧
    ((∃ c ∈ u.head?, Text.isDigit c = true) →
      Value.ofLiteral ("(*float)" ++ String.ofList (t.chars ++ u)) = .float 0.0) := by
  have hliteral : ∀ cs,
      Value.ofLiteral ("(*float)" ++ String.ofList cs) = .float (leadingFloat cs) := by
    intro cs
    have hkind := hasKind_front .float (String.ofList cs)
    rw [String.toList_ofList] at hkind
    exact hkind.ofLiteral_eq rfl
  -- Nothing, no digit of any script, or one of another script than ASCII's follows the numeral.
  refine ⟨?_, fun hdigit => ?_, ?_⟩
  · rw [hliteral, leadingFloat_chars]
  · rw [hliteral, hliteral, leadingFloat_chars, leadingFloat_chars_append t hu hdigit]
  · rintro ⟨c, hc, hdigit⟩
    obtain ⟨u, rfl⟩ := List.head?_eq_some_iff.mp hc
    rw [hliteral, leadingFloat_of_isDigit t hdigit (hu c hc).1]

/-- Two thousand, with a letter behind it, is two thousand, and with an Arabic digit behind it is
zero. -/
theorem ofLiteral_float_append_thousands :
    Value.ofLiteral "(*float)2e3x" = .float 2000.0 ∧
    Value.ofLiteral "(*float)2e3\u0663" = .float 0.0 := by
  let thousands : NumeralText :=
    ⟨.absent, ['2'], none,
      some ⟨'e', .absent, ['3'], .inl rfl, List.cons_ne_nil _ _, List.all_eq_true.mp (by decide)⟩,
      List.all_eq_true.mp (by decide), nofun, .inl (List.cons_ne_nil _ _)⟩
  obtain ⟨halone, hletter, -⟩ := ofLiteral_float_append thousands ['x'] fun c hc =>
    Option.some_inj.mp hc ▸ (by decide)
  obtain ⟨-, -, hdigit⟩ := ofLiteral_float_append thousands ['\u0663'] fun c hc =>
    Option.some_inj.mp hc ▸ (by decide)
  have hvalue : thousands.numeral.toFloat?.getD 0.0 = 2000.0 := by decide +kernel
  have hx : ∀ c ∈ ['x'].head?, Text.isDigit c = false := fun c hc =>
    Option.some_inj.mp hc ▸ Text.isDigit_of_lt (by decide)
  constructor
  · rw [hvalue] at halone
    exact (hletter hx).trans halone
  · exact hdigit ⟨'\u0663', rfl, by decide +kernel⟩

/-- As an integer, one with an Arabic digit behind it is what one alone is, and as a number it is
not. -/
theorem ofLiteral_float_foreign_digit :
    Value.ofLiteral "(*int)1\u0663" = Value.ofLiteral "(*int)1" ∧
    Value.ofLiteral "(*float)1\u0663" ≠ Value.ofLiteral "(*float)1" := by
  have hint : leadingInt "1\u0663".toList = leadingInt "1".toList := by decide
  have hfloat : leadingFloat "1\u0663".toList ≠ leadingFloat "1".toList := by decide +kernel
  constructor
  · exact ((hasKind_front .int "1\u0663").ofLiteral_eq rfl).trans
      ((congrArg Value.int hint).trans ((hasKind_front .int "1").ofLiteral_eq rfl).symm)
  · intro heq
    have hboth := (((hasKind_front .float "1\u0663").ofLiteral_eq rfl).symm.trans heq).trans
      ((hasKind_front .float "1").ofLiteral_eq rfl)
    exact hfloat (Value.float.inj hboth)

end AccessPolicy.Literal
