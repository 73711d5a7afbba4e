import AccessPolicy.Decimal.Numeral
import AccessPolicy.Proofs.Decimal.Digits
import AccessPolicy.Text.Character
import Mathlib.Data.List.Basic

/-!
# Spelled numbers

A number can be spelled in many ways: with either sign or none (`Sign`), with a point among its
digits or none, with an exponent or none (`ExponentText`). A `NumeralText` is one such spelling,
which has to have a digit somewhere, all digits being those of ASCII. The reader of numerals takes a
spelling as a whole, for the numeral that it spells (`NumeralText.split_chars`), and takes nothing
else (`NumeralText.exists_of_split`), so what it reads is spelled in ASCII.
-/

namespace AccessPolicy.Decimal

/-! ## Signs -/

/-- What stands in the place of the sign of a number. -/
inductive Sign where
  | absent
  | plus
  | minus
  deriving DecidableEq

namespace Sign

/-- The sign as it is written. -/
def chars : Sign → List Char
  | absent => []
  | plus => ['+']
  | minus => ['-']

/-- Whether the sign makes a number negative. -/
def isMinus (s : Sign) : Bool :=
  s = minus

/-- The integer that the sign makes of a number. -/
def apply (s : Sign) (n : Nat) : Int :=
  if s.isMinus then -n else n

/-- The sign at the front of a text. -/
def front : List Char → Sign
  | '+' :: _ => plus
  | '-' :: _ => minus
  | _ => absent

/-- Only the absent sign is written with no character. -/
theorem chars_eq_nil_iff {s : Sign} : s.chars = [] ↔ s = absent := by
  cases s <;> decide

/-- A sign is a character of ASCII. -/
theorem lt_of_mem_chars {c : Char} (s : Sign) (h : c ∈ s.chars) : c.toNat < 0x80 := by
  cases s with
  | absent => exact nomatch h
  | plus => exact List.mem_singleton.mp h ▸ by decide
  | minus => exact List.mem_singleton.mp h ▸ by decide

/-- No sign is a blank. -/
theorem isBlank_of_mem_chars {c : Char} (s : Sign) (h : c ∈ s.chars) : Text.isBlank c = false := by
  cases s with
  | absent => exact nomatch h
  | plus => exact List.mem_singleton.mp h ▸ by decide
  | minus => exact List.mem_singleton.mp h ▸ by decide

/-- A text starts with one of the signs, which is taken off, or is left as it is. -/
theorem front_cases (cs : List Char) :
    (∃ rest, cs = '+' :: rest) ∨ (∃ rest, cs = '-' :: rest) ∨
      front cs = absent ∧ splitSign cs = (false, cs) ∧
        (∀ rest, cs ≠ '+' :: rest) ∧ ∀ rest, cs ≠ '-' :: rest := by
  unfold front
  split
  · next rest => exact .inl ⟨rest, rfl⟩
  · next rest => exact .inr (.inl ⟨rest, rfl⟩)
  · next hplus hminus =>
    have hsplit : splitSign cs = (false, cs) := by
      unfold splitSign
      split
      · exact absurd rfl (hminus _)
      · exact absurd rfl (hplus _)
      · rfl
    exact .inr (.inr ⟨rfl, hsplit, hplus, hminus⟩)

/-- A text is its sign and what is left when that is taken off. -/
theorem chars_front_append (cs : List Char) : (front cs).chars ++ (splitSign cs).2 = cs := by
  rcases front_cases cs with ⟨rest, rfl⟩ | ⟨rest, rfl⟩ | ⟨hfront, hsplit, -⟩
  · rfl
  · rfl
  · rw [hfront, hsplit]
    rfl

/-- The sign that is taken off a text is the one at its front. -/
theorem isMinus_front (cs : List Char) : (front cs).isMinus = (splitSign cs).1 := by
  rcases front_cases cs with ⟨rest, rfl⟩ | ⟨rest, rfl⟩ | ⟨hfront, hsplit, -⟩
  · rfl
  · rfl
  · rw [hfront, hsplit]
    rfl

variable {s : Sign} {cs : List Char}

/-- A sign is at the front of what stands behind it; where there is none, no other may stand
there. -/
theorem front_append (h : s = absent → ∀ c ∈ cs.head?, c ≠ '+' ∧ c ≠ '-') :
    front (s.chars ++ cs) = s := by
  cases s with
  | plus => rfl
  | minus => rfl
  | absent =>
    -- What stands behind no sign must not be taken for one.
    rcases front_cases cs with ⟨rest, rfl⟩ | ⟨rest, rfl⟩ | ⟨hfront, -⟩
    · exact absurd rfl (h rfl '+' rfl).1
    · exact absurd rfl (h rfl '-' rfl).2
    · exact hfront

/-- A sign is taken off. -/
theorem splitSign_append (h : s = absent → ∀ c ∈ cs.head?, c ≠ '+' ∧ c ≠ '-') :
    splitSign (s.chars ++ cs) = (s.isMinus, cs) := by
  have hsign := front_append h
  have hrest := chars_front_append (s.chars ++ cs)
  have hminus := isMinus_front (s.chars ++ cs)
  rw [hsign] at hrest hminus
  exact Prod.ext hminus.symm (List.append_cancel_left hrest)

end Sign

/-- Digits have no sign in front. -/
theorem ne_sign_of_isDigit {c : Char} (h : c.isDigit) : c ≠ '+' ∧ c ≠ '-' := by
  constructor
  · rintro rfl
    exact absurd h (by decide)
  · rintro rfl
    exact absurd h (by decide)

/-! ## Exponents -/

/-- An exponent as it is spelled: a letter, a sign or none, and digits. -/
structure ExponentText where
  letter : Char
  sign : Sign
  digits : List Char
  letter_eq : letter = 'e' ∨ letter = 'E'
  digits_ne_nil : digits ≠ []
  isDigit_digits : ∀ c ∈ digits, c.isDigit

namespace ExponentText

/-- The characters of a spelled exponent. -/
def chars (e : ExponentText) : List Char :=
  e.letter :: (e.sign.chars ++ e.digits)

/-- The exponent that is spelled. -/
def value (e : ExponentText) : Int :=
  e.sign.apply (valueOf e.digits)

/-- The characters in the place of the exponent of a numeral. -/
def charsOf : Option ExponentText → List Char
  | none => []
  | some e => e.chars

/-- What the exponent of a numeral comes to; one that is not there is zero. -/
def valueIn : Option ExponentText → Int
  | none => 0
  | some e => e.value

/-- Only a letter is in front of an exponent. -/
theorem head?_charsOf {e : Option ExponentText} {c : Char} (h : c ∈ (charsOf e).head?) :
    c = 'e' ∨ c = 'E' := by
  cases e with
  | none => exact nomatch h
  | some e => exact Option.some_inj.mp h ▸ e.letter_eq

/-- Behind an `e` the exponent is read as it is spelled. -/
theorem splitExponent_chars (e : Option ExponentText) :
    splitExponent (charsOf e) = (valueIn e, []) := by
  cases e with
  | none => rfl
  | some e =>
    -- The first digit of the exponent is no sign.
    have hsign : e.sign = .absent → ∀ c ∈ e.digits.head?, c ≠ '+' ∧ c ≠ '-' :=
      fun _ c hc => ne_sign_of_isDigit (e.isDigit_digits c (List.mem_of_mem_head? hc))
    obtain ⟨htake, hdrop⟩ := span_isDigit_self e.isDigit_digits
    unfold charsOf chars splitExponent
    simp only
    rw [if_pos e.letter_eq, Sign.splitSign_append hsign]
    simp only [htake, hdrop]
    rw [if_neg e.digits_ne_nil]
    rfl

/-- What is taken off the front of a text as an exponent is spelled as one, unless nothing is
taken. -/
theorem exists_splitExponent (cs : List Char) :
    ∃ e, cs = charsOf e ++ (splitExponent cs).2 := by
  unfold splitExponent
  split
  · exact ⟨none, rfl⟩
  · next letter after =>
    -- The letter counts only with digits behind it and the sign.
    split
    · next hletter =>
      simp only
      split
      · exact ⟨none, rfl⟩
      · next hne =>
        refine ⟨some ⟨letter, Sign.front after, (splitSign after).2.takeWhile Char.isDigit, hletter,
          hne, List.all_eq_true.mp List.all_takeWhile⟩, ?_⟩
        unfold charsOf chars
        rw [List.cons_append, List.append_assoc, List.takeWhile_append_dropWhile,
          Sign.chars_front_append]
    · exact ⟨none, rfl⟩

end ExponentText

/-! ## Fractions -/

/-- The characters in the place of the fraction of a numeral: digits behind a point, if there is
one. -/
def pointChars : Option (List Char) → List Char
  | none => []
  | some ds => '.' :: ds

/-- The fraction is read as it is spelled. -/
theorem splitFraction_pointChars {fraction : Option (List Char)}
    (hfraction : ∀ ds ∈ fraction, ∀ c ∈ ds, c.isDigit) (e : Option ExponentText) :
    splitFraction (pointChars fraction ++ ExponentText.charsOf e) =
      (fraction.getD [], ExponentText.charsOf e) := by
  -- An exponent starts with a letter, which is no digit and no point.
  have hletter : ∀ c ∈ (ExponentText.charsOf e).head?, c.isDigit = false ∧ c ≠ '.' := by
    intro c hc
    rcases ExponentText.head?_charsOf hc with rfl | rfl <;> decide
  cases fraction with
  | none =>
    show splitFraction (ExponentText.charsOf e) = _
    unfold splitFraction
    split
    · next hpoint => exact absurd rfl (hletter '.' (by rw [hpoint]; rfl)).2
    · rfl
  | some ds =>
    have hrest : ∀ c ∈ (ExponentText.charsOf e).head?, c.isDigit = false :=
      fun c hc => (hletter c hc).1
    have hds : ∀ c ∈ ds, c.isDigit := hfraction ds rfl
    show ((ds ++ ExponentText.charsOf e).takeWhile Char.isDigit,
      (ds ++ ExponentText.charsOf e).dropWhile Char.isDigit) = (ds, ExponentText.charsOf e)
    rw [takeWhile_isDigit_append hds hrest, dropWhile_isDigit_append hds hrest]

/-- What is taken off the front of a text as a fraction is spelled as one, unless nothing is
taken. -/
theorem exists_splitFraction (cs : List Char) :
    ∃ fraction, (splitFraction cs).1 = fraction.getD [] ∧ (∀ ds ∈ fraction, ∀ c ∈ ds, c.isDigit) ∧
      cs = pointChars fraction ++ (splitFraction cs).2 := by
  unfold splitFraction
  split
  · next cs =>
    refine ⟨some (cs.takeWhile Char.isDigit), rfl, ?_, ?_⟩
    · rintro ds hds
      obtain rfl := Option.some_inj.mp hds
      exact List.all_eq_true.mp List.all_takeWhile
    · rw [pointChars, List.cons_append, List.takeWhile_append_dropWhile]
  · exact ⟨none, rfl, nofun, rfl⟩

/-! ## Numerals -/

/-- A numeral as it is spelled: digits with at most one point in, before or behind them, between a
sign and an exponent, which both may be missing. -/
structure NumeralText where
  sign : Sign
  whole : List Char
  fraction : Option (List Char)
  exponent : Option ExponentText
  isDigit_whole : ∀ c ∈ whole, c.isDigit
  isDigit_fraction : ∀ ds ∈ fraction, ∀ c ∈ ds, c.isDigit
  has_digit : whole ≠ [] ∨ fraction.getD [] ≠ []

namespace NumeralText

/-- The characters of a spelled numeral. -/
def chars (t : NumeralText) : List Char :=
  t.sign.chars ++ (t.whole ++ (pointChars t.fraction ++ ExponentText.charsOf t.exponent))

/-- The numeral that is spelled. -/
def numeral (t : NumeralText) : Numeral :=
  ⟨t.sign.isMinus, Nat.ofDigitChars 10 (t.whole ++ t.fraction.getD []) 0,
    ExponentText.valueIn t.exponent - (t.fraction.getD []).length⟩

variable (t : NumeralText)

/-- Behind the sign a numeral starts with a digit or with the point. -/
theorem head?_whole_append {rest : List Char} {c : Char}
    (hc : c ∈ (t.whole ++ (pointChars t.fraction ++ rest)).head?) : c.isDigit ∨ c = '.' := by
  by_cases hwhole : t.whole = []
  · -- Without digits in front of the point there are some behind it.
    rw [hwhole, List.nil_append] at hc
    have hfraction := t.has_digit.resolve_left (not_not_intro hwhole)
    cases hf : t.fraction with
    | none =>
      rw [hf] at hfraction
      exact absurd rfl hfraction
    | some ds =>
      rw [hf] at hc
      exact .inr (Option.some_inj.mp hc).symm
  · rw [List.head?_append_of_ne_nil _ hwhole] at hc
    exact .inl (t.isDigit_whole c (List.mem_of_mem_head? hc))

/-- The sign of a numeral is the only one there is. -/
theorem ne_sign_of_mem_head? {rest : List Char} {c : Char}
    (hc : c ∈ (t.whole ++ (pointChars t.fraction ++ rest)).head?) : c ≠ '+' ∧ c ≠ '-' := by
  rcases t.head?_whole_append hc with hdigit | rfl
  · exact ne_sign_of_isDigit hdigit
  · decide

/-- A spelled numeral is read, as a whole, as the numeral that it spells. -/
theorem split_chars : Numeral.split t.chars = some (t.numeral, []) := by
  -- The first digit, or the point, is no sign.
  have hsign : t.sign = .absent → ∀ c ∈ (t.whole ++ (pointChars t.fraction ++
      ExponentText.charsOf t.exponent)).head?, c ≠ '+' ∧ c ≠ '-' :=
    fun _ _ => t.ne_sign_of_mem_head?
  -- The digits in front end at the point or at the letter.
  have hstop : ∀ c ∈ (pointChars t.fraction ++ ExponentText.charsOf t.exponent).head?,
      c.isDigit = false := by
    intro c hc
    cases hf : t.fraction with
    | none =>
      rw [hf] at hc
      rcases ExponentText.head?_charsOf hc with rfl | rfl <;> decide
    | some ds =>
      rw [hf] at hc
      exact Option.some_inj.mp hc ▸ (by decide)
  have hexponent := ExponentText.splitExponent_chars t.exponent
  have hdigit : ¬(t.whole = [] ∧ t.fraction.getD [] = []) := not_and_or.mpr t.has_digit
  unfold Numeral.split chars
  rw [Sign.splitSign_append hsign]
  simp only [takeWhile_isDigit_append t.isDigit_whole hstop,
    dropWhile_isDigit_append t.isDigit_whole hstop, splitFraction_pointChars t.isDigit_fraction,
    hexponent]
  rw [if_neg hdigit]
  rfl

/-- A spelled numeral is read as the number nearest to what it denotes. -/
theorem number?_chars : number? t.chars = t.numeral.toFloat? := by
  rw [number?, t.split_chars]

/-- What is taken off the front of a text as a numeral is spelled as one. -/
theorem exists_of_split {cs rest : List Char} {n : Numeral}
    (h : Numeral.split cs = some (n, rest)) :
    ∃ t : NumeralText, cs = t.chars ++ rest := by
  unfold Numeral.split at h
  simp only at h
  split at h
  · exact nomatch h
  · next hdigit =>
    obtain ⟨-, rfl⟩ := Prod.mk.inj (Option.some_inj.mp h)
    -- The parts are taken off one behind the other, and each leaves what stands behind it.
    have hsign := Sign.chars_front_append cs
    obtain ⟨fraction, hvalue, hfraction, hpoint⟩ :=
      exists_splitFraction ((splitSign cs).2.dropWhile Char.isDigit)
    obtain ⟨e, hexponent⟩ := ExponentText.exists_splitExponent
      (splitFraction ((splitSign cs).2.dropWhile Char.isDigit)).2
    have hunsigned : (splitSign cs).2 = (splitSign cs).2.takeWhile Char.isDigit ++
        (splitSign cs).2.dropWhile Char.isDigit := List.takeWhile_append_dropWhile.symm
    rw [hvalue, not_and_or] at hdigit
    refine ⟨⟨Sign.front cs, (splitSign cs).2.takeWhile Char.isDigit, fraction, e,
      List.all_eq_true.mp List.all_takeWhile, hfraction, hdigit⟩, ?_⟩
    unfold chars
    rw [List.append_assoc, List.append_assoc, List.append_assoc, ← hexponent, ← hpoint, ← hunsigned,
      hsign]

/-- A numeral is spelled in characters of ASCII. -/
theorem lt_of_mem_chars {c : Char} (hc : c ∈ t.chars) : c.toNat < 0x80 := by
  have hdigit : ∀ {d : Char}, d.isDigit → d.toNat < 0x80 := fun hd =>
    Nat.lt_of_le_of_lt (Char.isDigit_iff_toNat.mp hd).2 (by decide)
  -- The characters of the sign, of the two runs of digits with the point, and of the exponent.
  rcases List.mem_append.mp hc with hsign | hc
  · exact t.sign.lt_of_mem_chars hsign
  rcases List.mem_append.mp hc with hwhole | hc
  · exact hdigit (t.isDigit_whole c hwhole)
  rcases List.mem_append.mp hc with hpoint | hexponent
  · cases hf : t.fraction with
    | none =>
      rw [hf] at hpoint
      exact nomatch hpoint
    | some ds =>
      rw [hf] at hpoint
      rcases List.mem_cons.mp hpoint with rfl | hds
      · decide
      · exact hdigit (t.isDigit_fraction ds hf c hds)
  · cases he : t.exponent with
    | none =>
      rw [he] at hexponent
      exact nomatch hexponent
    | some e =>
      rw [he] at hexponent
      rcases List.mem_cons.mp hexponent with rfl | hbehind
      · rcases e.letter_eq with hletter | hletter
        · rw [hletter]
          decide
        · rw [hletter]
          decide
      · rcases List.mem_append.mp hbehind with hsign | hds
        · exact e.sign.lt_of_mem_chars hsign
        · exact hdigit (e.isDigit_digits c hds)

end NumeralText

end AccessPolicy.Decimal
