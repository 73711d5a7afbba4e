import AccessPolicy.Proofs.Decimal.Spelling
import AccessPolicy.Proofs.Text.Cut
import AccessPolicy.Proofs.Value.Literal
import Mathlib.Data.List.Basic

/-!
# The integer at the front of a text

`(*int)` takes an integer off the front of a text and ignores the rest. What it takes is the longest
beginning of the text that is spelled as an integer (`IntegerText`): blanks, a sign and digits, of
which none has to be there. `IntegerText.atFront` finds that beginning, and
`eq_atFront_of_isLongestOf` says that there is no other.

The digits may denote a number of any size. The reader asks for one that fits a signed word and
otherwise goes by the sign alone, so the least value of the word, whose digits do not fit, is found
on the same way as all that lies below it. Either way the integer is the one that the text spells,
brought into the range of the word (`leadingInt_saturates`).
-/

namespace AccessPolicy.Literal

open Decimal (Sign)

/-- An integer as it is spelled: digits behind blanks and a sign, any of which may be missing. -/
@[ext]
structure IntegerText where
  blanks : List Char
  sign : Sign
  digits : List Char
  isBlank_blanks : ∀ c ∈ blanks, Text.isBlank c
  isDigit_digits : ∀ c ∈ digits, c.isDigit

namespace IntegerText

/-- The characters of a spelled integer. -/
def chars (p : IntegerText) : List Char :=
  p.blanks ++ (p.sign.chars ++ p.digits)

/-- The integer that is spelled; zero if there are no digits. -/
def value (p : IntegerText) : Int :=
  p.sign.apply (Nat.ofDigitChars 10 p.digits 0)

/-- Whether no longer beginning of a text is spelled as an integer. -/
def IsLongestOf (p : IntegerText) (cs : List Char) : Prop :=
  p.chars <+: cs ∧ ∀ q : IntegerText, q.chars <+: cs → q.chars.length ≤ p.chars.length

/-- What the reader takes off the front of a text. -/
def atFront (cs : List Char) : IntegerText where
  blanks := cs.takeWhile Text.isBlank
  sign := Sign.front (Text.trimStart cs)
  digits := (Decimal.splitSign (Text.trimStart cs)).2.takeWhile Char.isDigit
  isBlank_blanks := List.all_eq_true.mp List.all_takeWhile
  isDigit_digits := List.all_eq_true.mp List.all_takeWhile

/-! ## The beginning that is taken -/

/-- What the reader takes is a beginning of the text. -/
theorem atFront_isPrefix (cs : List Char) : (atFront cs).chars <+: cs := by
  have hblanks : cs.takeWhile Text.isBlank ++ Text.trimStart cs = cs :=
    List.takeWhile_append_dropWhile
  have hsign := Sign.chars_front_append (Text.trimStart cs)
  have hdigits : (Decimal.splitSign (Text.trimStart cs)).2.takeWhile Char.isDigit <+:
      (Decimal.splitSign (Text.trimStart cs)).2 := List.takeWhile_prefix _
  unfold chars atFront
  -- The digits are taken off what is behind the sign, and the sign off what is behind the blanks.
  calc cs.takeWhile Text.isBlank ++ ((Sign.front (Text.trimStart cs)).chars ++
        (Decimal.splitSign (Text.trimStart cs)).2.takeWhile Char.isDigit)
      <+: cs.takeWhile Text.isBlank ++ ((Sign.front (Text.trimStart cs)).chars ++
        (Decimal.splitSign (Text.trimStart cs)).2) := by
        rw [List.prefix_append_right_inj, List.prefix_append_right_inj]
        exact hdigits
    _ = cs := by rw [hsign, hblanks]

/-- An integer text is as long as its three parts. -/
theorem length_chars (p : IntegerText) :
    p.chars.length = p.blanks.length + (p.sign.chars.length + p.digits.length) := by
  rw [chars, List.length_append, List.length_append]

/-- A text behind an integer text stands behind its digits. -/
theorem chars_append (p : IntegerText) (rest : List Char) :
    p.chars ++ rest = p.blanks ++ (p.sign.chars ++ (p.digits ++ rest)) := by
  rw [chars, List.append_assoc, List.append_assoc]

section Reading

variable (p : IntegerText) (rest : List Char) (h : p.sign.chars ++ p.digits ≠ [])

include h

/-- A spelled integer starts with no blank behind its blanks. -/
theorem trimStart_chars_append :
    Text.trimStart (p.chars ++ rest) = p.sign.chars ++ (p.digits ++ rest) := by
  -- The first character behind the blanks is the sign or, if there is none, a digit.
  have hhead : ∀ c ∈ (p.sign.chars ++ (p.digits ++ rest)).head?, Text.isBlank c = false := by
    intro c hc
    rw [← List.append_assoc, List.head?_append_of_ne_nil _ h] at hc
    have hmem : c ∈ p.sign.chars ++ p.digits := List.mem_of_mem_head? hc
    rcases List.mem_append.mp hmem with hsign | hdigit
    · exact p.sign.isBlank_of_mem_chars hsign
    · exact Text.isBlank_of_isDigit (p.isDigit_digits c hdigit)
  rw [p.chars_append]
  exact Decimal.dropWhile_isDigit_append p.isBlank_blanks hhead

/-- Where there is something behind the blanks, the reader takes just these blanks and this sign,
and all digits that there are. -/
theorem atFront_append :
    (atFront (p.chars ++ rest)).blanks = p.blanks ∧
      (atFront (p.chars ++ rest)).sign = p.sign ∧
      (atFront (p.chars ++ rest)).digits = p.digits ++ rest.takeWhile Char.isDigit := by
  have htrim := p.trimStart_chars_append rest h
  -- Without a sign there is a digit, which is not taken for one.
  have hsign : p.sign = .absent → ∀ c ∈ (p.digits ++ rest).head?, c ≠ '+' ∧ c ≠ '-' := by
    intro habsent c hc
    have hne : p.digits ≠ [] := by
      rw [habsent] at h
      exact h
    rw [List.head?_append_of_ne_nil _ hne] at hc
    exact Decimal.ne_sign_of_isDigit (p.isDigit_digits c (List.mem_of_mem_head? hc))
  refine ⟨?_, ?_, ?_⟩
  · have hall : (atFront (p.chars ++ rest)).blanks ++ Text.trimStart (p.chars ++ rest) =
        p.chars ++ rest := List.takeWhile_append_dropWhile
    rw [htrim] at hall
    exact List.append_cancel_right (hall.trans (p.chars_append rest))
  · show Sign.front (Text.trimStart (p.chars ++ rest)) = p.sign
    rw [htrim, Sign.front_append hsign]
  · show (Decimal.splitSign (Text.trimStart (p.chars ++ rest))).2.takeWhile Char.isDigit =
      p.digits ++ rest.takeWhile Char.isDigit
    rw [htrim, Sign.splitSign_append hsign, List.takeWhile_append_of_pos p.isDigit_digits]

end Reading

/-- No spelled integer at the front of a text is longer than what the reader takes. -/
theorem length_le_atFront {p : IntegerText} {cs : List Char} (h : p.chars <+: cs) :
    p.chars.length ≤ (atFront cs).chars.length := by
  obtain ⟨rest, rfl⟩ := h
  by_cases hne : p.sign.chars ++ p.digits = []
  · -- Blanks alone are a part of the blanks that the reader takes.
    have hchars : p.chars = p.blanks := by rw [chars, hne, List.append_nil]
    have htake : (atFront (p.blanks ++ rest)).blanks = p.blanks ++ rest.takeWhile Text.isBlank :=
      List.takeWhile_append_of_pos p.isBlank_blanks
    rw [hchars, length_chars, htake, List.length_append]
    omega
  · obtain ⟨hblanks, hsign, hdigits⟩ := p.atFront_append rest hne
    rw [length_chars, length_chars, hblanks, hsign, hdigits, List.length_append]
    omega

/-- The longest spelled integer at the front of a text is what the reader takes. -/
theorem atFront_isLongestOf (cs : List Char) : (atFront cs).IsLongestOf cs :=
  ⟨atFront_isPrefix cs, fun _ => length_le_atFront⟩

/-- Of a spelled integer the reader takes it all, part by part. -/
theorem atFront_chars (p : IntegerText) : atFront p.chars = p := by
  -- Without sign and digits the text is blank, and there is nothing behind the blanks to read.
  by_cases hne : p.sign.chars ++ p.digits = []
  · obtain ⟨hsign, hdigits⟩ := List.append_eq_nil_iff.mp hne
    have habsent : p.sign = .absent := Sign.chars_eq_nil_iff.mp hsign
    have hchars : p.chars = p.blanks := by rw [chars, hne, List.append_nil]
    obtain ⟨htake, hdrop⟩ := Decimal.span_isDigit_self p.isBlank_blanks
    have htrim : Text.trimStart p.blanks = [] := hdrop
    rw [hchars]
    apply IntegerText.ext htake
    · show Sign.front (Text.trimStart p.blanks) = p.sign
      rw [htrim, habsent]
      rfl
    · show (Decimal.splitSign (Text.trimStart p.blanks)).2.takeWhile Char.isDigit = p.digits
      rw [htrim, hdigits]
      rfl
  · obtain ⟨hblanks, hsign, hdigits⟩ := p.atFront_append [] hne
    rw [List.append_nil] at hblanks hsign hdigits
    apply IntegerText.ext hblanks hsign
    rw [hdigits, List.takeWhile_nil, List.append_nil]

/-- No other spelled integer at the front of a text is as long as what the reader takes. -/
theorem eq_atFront_of_isLongestOf {p : IntegerText} {cs : List Char} (h : p.IsLongestOf cs) :
    p = atFront cs := by
  -- Two beginnings of one text that are as long are the same, and the parts are read off the
  -- characters.
  have hlength : p.chars.length = (atFront cs).chars.length :=
    Nat.le_antisymm (length_le_atFront h.1) (h.2 (atFront cs) (atFront_isPrefix cs))
  have hchars : p.chars = (atFront cs).chars := by
    have hprefix := List.prefix_of_prefix_length_le h.1 (atFront_isPrefix cs) (Nat.le_of_eq hlength)
    exact hprefix.eq_of_length hlength
  rw [← atFront_chars p, hchars, atFront_chars]

/-- Digits with something else behind them are all that the reader takes. -/
theorem atFront_of_digits (p : IntegerText) {rest : List Char} (hne : p.digits ≠ [])
    (hrest : ∀ c ∈ rest.head?, c.isDigit = false) : atFront (p.chars ++ rest) = p := by
  have hsome : p.sign.chars ++ p.digits ≠ [] := List.append_ne_nil_of_right_ne_nil _ hne
  obtain ⟨hblanks, hsign, hdigits⟩ := p.atFront_append rest hsome
  apply IntegerText.ext hblanks hsign
  rw [hdigits, ← List.takeWhile_append_of_pos p.isDigit_digits]
  exact Decimal.takeWhile_isDigit_append p.isDigit_digits hrest

end IntegerText

/-! ## Saturation -/

/-- The integer at the front of a text is the one that is spelled there, brought into the range of a
signed word. -/
theorem leadingInt_eq_clamp_atFront (cs : List Char) :
    leadingInt cs =
      max (-0x8000000000000000) (min (IntegerText.atFront cs).value 0x7FFFFFFFFFFFFFFF) := by
  have hminus := Sign.isMinus_front (Text.trimStart cs)
  rw [leadingInt_eq_clamp (Prod.eta _).symm, ← hminus]
  rfl

/-- The negative of an integer that digits denote within a signed word lies within the word too. -/
theorem fitsInt64_neg_of_int64? {ds : List Char} (hds : ∀ c ∈ ds, c.isDigit) {n : Int}
    (h : Decimal.int64? ds = some n) : Decimal.FitsInt64 (-n) := by
  have hne : ds ≠ [] := by
    rintro rfl
    exact nomatch h
  rw [Decimal.int64?_of_isDigit hne hds] at h
  split at h
  · next hfits =>
    obtain rfl := Option.some_inj.mp h
    unfold Decimal.FitsInt64 Decimal.minInt64 Decimal.maxInt64
    unfold Decimal.maxInt64 at hfits
    omega
  · exact nomatch h

/-- Behind the type of integers a text stands for the integer that its longest beginning spells,
brought into the range of a signed word. There is such a beginning in every text, the negation of a
number that fits the word on the way there does not leave it, and what follows the digits counts for
nothing. -/
theorem leadingInt_saturates :
    (∀ cs, ∃ p : IntegerText, p.IsLongestOf cs) ∧
    (∀ (s : String) (p : IntegerText), p.IsLongestOf s.toList →
      leadingInt s.toList = max (-0x8000000000000000) (min p.value 0x7FFFFFFFFFFFFFFF) ∧
      Value.ofLiteral ("(*int)" ++ s) =
        .int (max (-0x8000000000000000) (min p.value 0x7FFFFFFFFFFFFFFF)) ∧
      ∀ n, Decimal.int64? p.digits = some n → Decimal.FitsInt64 (-n)) ∧
    (∀ (p : IntegerText) (rest : List Char), p.digits ≠ [] →
      (∀ c ∈ rest.head?, c.isDigit = false) →
        Value.ofLiteral ("(*int)" ++ String.ofList (p.chars ++ rest)) =
          .int (max (-0x8000000000000000) (min p.value 0x7FFFFFFFFFFFFFFF))) := by
  have hliteral : ∀ s : String, Value.ofLiteral ("(*int)" ++ s) = .int (leadingInt s.toList) :=
    fun s => (hasKind_front .int s).ofLiteral_eq rfl
  refine ⟨fun cs => ⟨_, IntegerText.atFront_isLongestOf cs⟩, ?_, ?_⟩
  · -- The longest beginning is the one that the reader takes.
    intro s p hp
    obtain rfl := IntegerText.eq_atFront_of_isLongestOf hp
    have hint := leadingInt_eq_clamp_atFront s.toList
    refine ⟨hint, ?_, fun _ => fitsInt64_neg_of_int64? (IntegerText.isDigit_digits _)⟩
    rw [hliteral, hint]
  · intro p rest hne hrest
    rw [hliteral, String.toList_ofList, leadingInt_eq_clamp_atFront,
      IntegerText.atFront_of_digits p hne hrest]

/-- The least value of a signed word is itself, and stands in for the integer below it. -/
theorem leadingInt_saturates_least :
    leadingInt "\t-9223372036854775808".toList = Decimal.minInt64 ∧
    Value.ofLiteral "(*int) -9223372036854775809, or so" = .int Decimal.minInt64 := by
  obtain ⟨-, hlongest, hbehind⟩ := leadingInt_saturates
  constructor
  · refine (hlongest _ _ (IntegerText.atFront_isLongestOf _)).1.trans ?_
    decide
  · -- The integer is one less than the least word, with a comma behind it.
    let below : IntegerText :=
      ⟨[' '], .minus, "9223372036854775809".toList, List.all_eq_true.mp (by decide),
        List.all_eq_true.mp (by decide)⟩
    have hcomma : ∀ c ∈ ", or so".toList.head?, c.isDigit = false :=
      fun c hc => Option.some_inj.mp hc ▸ (by decide)
    refine (hbehind below ", or so".toList (by decide) hcomma).trans (congrArg Value.int ?_)
    decide

end AccessPolicy.Literal
