import AccessPolicy.Json.Parser
import AccessPolicy.Json.Printer
import AccessPolicy.Proofs.Decimal.Digits

/-!
# Strings and numbers of JSON read back

The text of a string is read as that string (`stringChars_flatMap`), and the text of an integer
that fits a 64-bit word as that integer (`numberValue_intChars`). The reader of numbers goes on
until something stands there that is no part of a number, so a number that is read as a whole is
also read in front of whatever ends it (`numberValue_append`).
-/

namespace AccessPolicy.Json

open Decimal (digits)

/-! ## Strings -/

/-- A control character is written with the four hexadecimal digits of its number. -/
theorem hex4?_padLeft : ∀ n : Fin 32,
    (match Decimal.padLeft 4 '0' (Nat.toDigits 16 n.val) with
      | [a, b, c, d] => hex4? a b c d
      | _ => none) = some n.val := by
  decide

/-- What a character is written as is read as that character. -/
theorem stringChars_escapedChar (seen : List Char) (c : Char) (cs : List Char) :
    stringChars seen (escapedChar c ++ cs) = stringChars (c :: seen) cs := by
  -- The cases are those of the writer, in its order: named escapes, control characters, all others.
  by_cases hquote : c = '"'
  · subst hquote
    rfl
  by_cases hbackslash : c = '\\'
  · subst hbackslash
    rfl
  by_cases hnamed : c = '\x08' ∨ c = '\x0c' ∨ c = '\n' ∨ c = '\r' ∨ c = '\t'
  · rcases hnamed with rfl | rfl | rfl | rfl | rfl <;> rfl
  obtain ⟨hb, hf, hn, hr, ht⟩ : c ≠ '\x08' ∧ c ≠ '\x0c' ∧ c ≠ '\n' ∧ c ≠ '\r' ∧ c ≠ '\t' := by
    simpa only [not_or] using hnamed
  rw [escapedChar, if_neg hquote, if_neg hbackslash, if_neg hb, if_neg hf, if_neg hn, if_neg hr,
    if_neg ht]
  by_cases hcontrol : c.toNat < 0x20
  · -- A control character is written with four hexadecimal digits.
    have hhex := hex4?_padLeft ⟨c.toNat, hcontrol⟩
    rw [if_pos hcontrol]
    split at hhex
    · next d₁ d₂ d₃ d₄ hdigits =>
      rw [hdigits]
      show stringChars seen ('\\' :: 'u' :: d₁ :: d₂ :: d₃ :: d₄ :: cs) = _
      rw [stringChars, hhex]
      simp only
      rw [if_pos (by omega), Char.ofNat_toNat]
    · exact nomatch hhex
  · -- For any other character the reader has no case of its own.
    rw [if_neg hcontrol, List.singleton_append, stringChars.eq_def]
    split
    · next heq => exact absurd heq (List.cons_ne_nil c cs)
    · next heq => exact absurd (List.cons.inj heq).1 hquote
    · next heq => exact absurd (List.cons.inj heq).1 hbackslash
    · next heq => exact absurd (List.cons.inj heq).1 hbackslash
    · next heq =>
      obtain ⟨rfl, rfl⟩ := List.cons.inj heq
      rw [if_neg (not_or.mpr ⟨hbackslash, hcontrol⟩)]

/-- The characters of a string, as they are written, are read up to the closing quote. -/
theorem stringChars_flatMap (s seen cs : List Char) :
    stringChars seen (s.flatMap escapedChar ++ '"' :: cs) = some (seen.reverse ++ s, cs) := by
  induction s generalizing seen with
  | nil => rw [List.flatMap_nil, List.nil_append, stringChars, List.append_nil]
  | cons c s ih =>
    rw [List.flatMap_cons, List.append_assoc, stringChars_escapedChar, ih, List.reverse_cons,
      List.append_assoc, List.singleton_append]

/-- The text of a string, behind its opening quote, is read as that string. -/
theorem stringText_toList (s : String) :
    (stringText s).toList = '"' :: (s.toList.flatMap escapedChar ++ ['"']) :=
  String.toList_ofList

/-! ## Numbers -/

/-- The sign in front of a number, and the rest. -/
def splitMinus : List Char → Bool × List Char
  | '-' :: cs => (true, cs)
  | cs => (false, cs)

/-- The value of a number from its parts: an integer if it has neither a point nor an exponent and
fits a word, and a floating-point number otherwise. -/
def partsValue? (negative : Bool) (whole : List Char) (pointed : Bool) (fraction : List Char)
    (scaled : Bool) (exponent : Int) : Option Json :=
  match (if pointed ∨ scaled then none else wordInteger? negative (Decimal.valueOf whole)) with
  | some i => some (.int i)
  | none => (Decimal.quickNumber? negative whole fraction exponent).map Json.float

/-- What a number is read as is the value of its parts. -/
theorem numberValue_eq_some_iff {cs rest : List Char} {v : Json} :
    numberValue cs = some (v, rest) ↔
      ∃ whole behindWhole pointed fraction behindFraction scaled exponent,
      wholeDigits? (splitMinus cs).2 = some (whole, behindWhole) ∧
      fractionDigits? behindWhole = some (pointed, fraction, behindFraction) ∧
      exponentPart? behindFraction = some (scaled, exponent, rest) ∧
      partsValue? (splitMinus cs).1 whole pointed fraction scaled exponent = some v := by
  have hnumber : numberValue cs = (wholeDigits? (splitMinus cs).2).bind fun p =>
      (fractionDigits? p.2).bind fun q => (exponentPart? q.2.2).bind fun r =>
        (partsValue? (splitMinus cs).1 p.1 q.1 q.2.1 r.1 r.2.1).map fun v => (v, r.2.2) := by
    generalize hsplit : splitMinus cs = split
    obtain ⟨negative, unsigned⟩ := split
    unfold splitMinus at hsplit
    -- With a sign or without one, the same steps are left.
    have hsteps : numberValue cs = (wholeDigits? unsigned).bind fun p =>
        (fractionDigits? p.2).bind fun q => (exponentPart? q.2.2).bind fun r =>
          match (if q.1 ∨ r.1 then none else wordInteger? negative (Decimal.valueOf p.1)) with
          | some i => some (.int i, r.2.2)
          | none => (Decimal.quickNumber? negative p.1 q.2.1 r.2.1).bind fun x =>
            some (.float x, r.2.2) := by
      split at hsplit
      · obtain ⟨rfl, rfl⟩ := Prod.mk.inj hsplit
        rw [numberValue]
        rfl
      · next hminus =>
        obtain ⟨rfl, rfl⟩ := Prod.mk.inj hsplit
        rw [numberValue]
        · rfl
        · exact hminus
    rw [hsteps]
    refine congrArg (Option.bind _) (funext fun p => congrArg (Option.bind _) (funext fun q =>
      congrArg (Option.bind _) (funext fun r => ?_)))
    rw [partsValue?]
    cases (if q.1 ∨ r.1 then none else wordInteger? negative (Decimal.valueOf p.1)) with
    | some i => rfl
    | none => cases Decimal.quickNumber? negative p.1 q.2.1 r.2.1 <;> rfl
  rw [hnumber]
  constructor
  · intro h
    obtain ⟨⟨whole, behindWhole⟩, hwhole, h⟩ := Option.bind_eq_some_iff.mp h
    obtain ⟨⟨pointed, fraction, behindFraction⟩, hfraction, h⟩ := Option.bind_eq_some_iff.mp h
    obtain ⟨⟨scaled, exponent, behind⟩, hexponent, h⟩ := Option.bind_eq_some_iff.mp h
    obtain ⟨w, hw, heq⟩ := Option.map_eq_some_iff.mp h
    obtain ⟨rfl, rfl⟩ := Prod.mk.inj heq
    exact ⟨whole, behindWhole, pointed, fraction, behindFraction, scaled, exponent, hwhole,
      hfraction, hexponent, hw⟩
  · rintro ⟨whole, behindWhole, pointed, fraction, behindFraction, scaled, exponent, hwhole,
      hfraction, hexponent, hv⟩
    simp only [hwhole, hfraction, hexponent, hv, Option.bind_some, Option.map_some]

/-- A sign in front of digits is the same with more text behind. -/
theorem splitSign_append {cs : List Char} (hne : (Decimal.splitSign cs).2 ≠ []) (rest : List Char) :
    Decimal.splitSign (cs ++ rest) =
      ((Decimal.splitSign cs).1, (Decimal.splitSign cs).2 ++ rest) := by
  cases cs with
  | nil => exact absurd rfl hne
  | cons c cs =>
    by_cases hminus : c = '-'
    · subst hminus
      rfl
    by_cases hplus : c = '+'
    · subst hplus
      rfl
    rw [List.cons_append, Decimal.splitSign, Decimal.splitSign]
    · rfl
    all_goals intro _ heq; simp_all

/-- The digits of an exponent, behind its letter and its sign. -/
def exponentDigits (after : List Char) : List Char :=
  (Decimal.splitSign after).2.takeWhile Char.isDigit

/-- An exponent has digits, and ends behind them. -/
theorem exponentPart?_cons {e : Char} (he : e = 'e' ∨ e = 'E') (after : List Char) :
    exponentPart? (e :: after) =
      if exponentDigits after = [] then none
      else some (true,
        (if (Decimal.splitSign after).1 then -(Decimal.valueOf (exponentDigits after) : Int)
          else Decimal.valueOf (exponentDigits after)),
        (Decimal.splitSign after).2.dropWhile Char.isDigit) := by
  -- What stands behind the exponent is shorter than what starts with its letter.
  have hlength : (Decimal.splitSign after).2.length ≤ after.length := by
    unfold Decimal.splitSign
    split <;> simp
  have hdrop := (List.dropWhile_suffix Char.isDigit (l := (Decimal.splitSign after).2)).length_le
  have hsplit : Decimal.splitExponent (e :: after) =
      if exponentDigits after = [] then (0, e :: after)
      else (if (Decimal.splitSign after).1 then -(Decimal.valueOf (exponentDigits after) : Int)
        else Decimal.valueOf (exponentDigits after),
        (Decimal.splitSign after).2.dropWhile Char.isDigit) := by
    rw [Decimal.splitExponent, if_pos he]
    rfl
  rw [exponentPart?, if_pos he, hsplit]
  by_cases hds : exponentDigits after = []
  · rw [if_pos hds, if_pos hds]
    exact if_pos List.length_cons
  · rw [if_neg hds, if_neg hds]
    exact if_neg (by omega)

/-- Whether a text does not go on with what may be part of a number. -/
def EndsNumber (rest : List Char) : Prop :=
  ∀ c ∈ rest.head?, c.isDigit = false ∧ c ≠ '.' ∧ c ≠ 'e' ∧ c ≠ 'E'

section EndsNumber

variable {rest : List Char} (hrest : EndsNumber rest)

include hrest

/-- The digits before the point end where the number ends. -/
theorem wholeDigits?_append {cs ds behind : List Char} (h : wholeDigits? cs = some (ds, behind)) :
    wholeDigits? (cs ++ rest) = some (ds, behind ++ rest) := by
  obtain ⟨htake, hdrop⟩ := Decimal.span_isDigit_append (fun c hc => (hrest c hc).1) cs
  rw [wholeDigits?] at h ⊢
  simp only [htake, hdrop]
  split at h
  · exact nomatch h
  · exact nomatch h
  · obtain ⟨rfl, rfl⟩ := Prod.mk.inj (Option.some_inj.mp h)
    rfl

/-- The digits behind the point end where the number ends. -/
theorem fractionDigits?_append {cs ds behind : List Char} {pointed : Bool}
    (h : fractionDigits? cs = some (pointed, ds, behind)) :
    fractionDigits? (cs ++ rest) = some (pointed, ds, behind ++ rest) := by
  unfold fractionDigits? at h
  split at h
  · next cs =>
    -- The run of digits ends where the number does.
    obtain ⟨htake, hdrop⟩ := Decimal.span_isDigit_append (fun c hc => (hrest c hc).1) cs
    simp only at h
    rw [List.cons_append, fractionDigits?]
    simp only [htake, hdrop]
    split at h
    · exact nomatch h
    · next hne =>
      obtain ⟨rfl, rfl, rfl⟩ : true = pointed ∧ cs.takeWhile Char.isDigit = ds ∧
          cs.dropWhile Char.isDigit = behind := by
        simpa using h
      rw [if_neg hne]
  · next hpoint =>
    obtain ⟨rfl, rfl, rfl⟩ : false = pointed ∧ [] = ds ∧ cs = behind := by simpa using h
    rw [fractionDigits?]
    intro tail heq
    cases cs with
    | nil => exact (hrest '.' (by rw [List.nil_append] at heq; rw [heq]; rfl)).2.1 rfl
    | cons c cs => exact hpoint cs (congrArg (· :: cs) (List.cons.inj heq).1)

/-- The exponent ends where the number ends. -/
theorem exponentPart?_append {cs behind : List Char} {scaled : Bool} {exponent : Int}
    (h : exponentPart? cs = some (scaled, exponent, behind)) :
    exponentPart? (cs ++ rest) = some (scaled, exponent, behind ++ rest) := by
  cases cs with
  | nil =>
    obtain ⟨rfl, rfl, rfl⟩ : false = scaled ∧ 0 = exponent ∧ [] = behind := by
      simpa [exponentPart?] using h
    cases rest with
    | nil => rfl
    | cons c rest =>
      obtain ⟨-, -, he, hE⟩ := hrest c rfl
      exact if_neg (not_or.mpr ⟨he, hE⟩)
  | cons e after =>
    rw [List.cons_append]
    by_cases he : e = 'e' ∨ e = 'E'
    · rw [exponentPart?_cons he] at h ⊢
      by_cases hds : exponentDigits after = []
      · rw [if_pos hds] at h
        cases h
      · rw [if_neg hds] at h
        obtain ⟨rfl, rfl, rfl⟩ := by simpa using h
        have hne : (Decimal.splitSign after).2 ≠ [] := fun hnil =>
          hds (by rw [exponentDigits, hnil]; rfl)
        obtain ⟨htake, hdrop⟩ :=
          Decimal.span_isDigit_append (fun c hc => (hrest c hc).1) (Decimal.splitSign after).2
        -- What stands behind the digits adds none to them.
        have hdigits : exponentDigits (after ++ rest) = exponentDigits after := by
          rw [exponentDigits, splitSign_append hne, htake, exponentDigits]
        rw [hdigits, if_neg hds, splitSign_append hne, hdrop]
    · rw [exponentPart?, if_neg he] at h ⊢
      obtain ⟨rfl, rfl, rfl⟩ : false = scaled ∧ 0 = exponent ∧ e :: after = behind := by
        simpa using h
      rfl

/-- A number that is read as a whole is also read in front of what ends it. -/
theorem numberValue_append {cs : List Char} {v : Json} (h : numberValue cs = some (v, [])) :
    numberValue (cs ++ rest) = some (v, rest) := by
  rw [numberValue_eq_some_iff] at h ⊢
  obtain ⟨whole, behindWhole, pointed, fraction, behindFraction, scaled, exponent, hwhole,
    hfraction, hexponent, hv⟩ := h
  -- The whole part has a digit, so that the sign does not depend on what stands behind.
  have hsplit : splitMinus (cs ++ rest) = ((splitMinus cs).1, (splitMinus cs).2 ++ rest) := by
    cases cs with
    | nil => exact nomatch hwhole
    | cons c cs =>
      by_cases hminus : c = '-'
      · subst hminus
        rfl
      · rw [List.cons_append, splitMinus, splitMinus]
        · rfl
        all_goals exact fun _ heq => hminus (List.cons.inj heq).1
  rw [hsplit]
  exact ⟨whole, _, pointed, fraction, _, scaled, exponent, wholeDigits?_append hrest hwhole,
    fractionDigits?_append hrest hfraction, exponentPart?_append hrest hexponent, hv⟩

end EndsNumber

/-! ## Integers -/

/-- The digits of a number are read as a whole. -/
theorem wholeDigits?_digits (n : Nat) : wholeDigits? (digits n) = some (digits n, []) := by
  obtain ⟨htake, hdrop⟩ :=
    Decimal.span_isDigit_self fun c hc => Decimal.isDigit_of_mem_digits (n := n) hc
  rw [wholeDigits?]
  simp only [htake, hdrop]
  split
  · next hnil => exact absurd hnil (Decimal.digits_ne_nil n)
  · next c cs hzero =>
    -- Only the digits of zero start with a zero, and nothing follows it.
    rcases Nat.eq_zero_or_pos n with rfl | hn
    · have hdigits : digits 0 = ['0'] := by decide
      rw [hdigits] at hzero
      exact nomatch hzero
    · exact absurd (by rw [hzero]; rfl) (Decimal.head?_digits_ne_zero hn)
  · rfl

/-- Whether an integer fits a 64-bit word, signed or not. -/
def FitsWord (i : Int) : Prop :=
  -0x8000000000000000 ≤ i ∧ i < 0x10000000000000000

instance (i : Int) : Decidable (FitsWord i) :=
  inferInstanceAs (Decidable (_ ∧ _))

/-- The text of an integer that fits a word is read as that integer. -/
theorem numberValue_intChars {i : Int} (h : FitsWord i) :
    numberValue (Decimal.intChars i) = some (.int i, []) := by
  obtain ⟨hlow, hhigh⟩ := h
  rw [numberValue_eq_some_iff]
  -- The sign is written for negative numbers only, and no digits start with one.
  have hsplit : splitMinus (Decimal.intChars i) = (decide (i < 0), digits i.natAbs) := by
    rw [Decimal.intChars]
    split
    · next hneg => rw [splitMinus, decide_eq_true hneg]
    · next hneg =>
      obtain ⟨c, cs, hdigits, hdigit⟩ := Decimal.digits_eq_cons i.natAbs
      rw [decide_eq_false hneg, hdigits, splitMinus]
      exact fun _ heq => absurd ((List.cons.inj heq).1 ▸ hdigit) (by decide)
  -- The magnitude fits on the side of its sign.
  have hword : wordInteger? (decide (i < 0)) i.natAbs = some i := by
    rw [wordInteger?]
    by_cases hneg : i < 0
    · rw [if_pos (decide_eq_true hneg), if_pos (by omega)]
      exact congrArg some (by omega)
    · rw [if_neg (by simpa using hneg), if_pos (by omega)]
      exact congrArg some (by omega)
  refine ⟨digits i.natAbs, [], false, [], [], false, 0, ?_, rfl, rfl, ?_⟩
  · rw [hsplit, wholeDigits?_digits]
  · rw [hsplit, partsValue?, if_neg (by decide), Decimal.valueOf_digits, hword]

end AccessPolicy.Json
