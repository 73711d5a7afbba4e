import AccessPolicy.Decimal.Integer
import Mathlib.Algebra.Group.Nat.Defs

/-!
# Digits read back

A number is written in digits that denote it again (`valueOf_digits`), and zeros in front change
nothing (`valueOf_paddedDigits`). So the text of an integer is read as that integer
(`int64?_intChars`). How many digits there are is known from bounds on the number alone
(`length_digits_le_iff`), which is what readers of a fixed width go by.
-/

namespace AccessPolicy.Decimal

/-! ## Values -/

/-- Digits denote their number in the base ten. -/
theorem valueOf_eq_ofDigitChars (ds : List Char) : valueOf ds = Nat.ofDigitChars 10 ds 0 := rfl

/-- The digits of a number denote it. -/
@[simp]
theorem valueOf_digits (n : Nat) : valueOf (digits n) = n := by
  rw [valueOf_eq_ofDigitChars, digits, Nat.ofDigitChars_ten_toDigits]

/-- Zeros in front do not count. -/
theorem valueOf_replicate_zero_append (n : Nat) (ds : List Char) :
    valueOf (List.replicate n '0' ++ ds) = valueOf ds := by
  rw [valueOf_eq_ofDigitChars, Nat.ofDigitChars_append, Nat.ofDigitChars_replicate_zero,
    Nat.mul_zero, ← valueOf_eq_ofDigitChars]

/-- Digits to begin with count for more the more digits follow. -/
theorem valueOf_append (ds es : List Char) :
    valueOf (ds ++ es) = valueOf ds * 10 ^ es.length + valueOf es := by
  -- Each character moves what is in front of it up by one place.
  have hfold : ∀ (es : List Char) (n : Nat), Nat.ofDigitChars 10 es n =
      n * 10 ^ es.length + Nat.ofDigitChars 10 es 0 := by
    intro es
    induction es with
    | nil => intro n; simp [Nat.ofDigitChars]
    | cons c es ih =>
      intro n
      have hstep : ∀ m, Nat.ofDigitChars 10 (c :: es) m =
          Nat.ofDigitChars 10 es (10 * m + (c.toNat - '0'.toNat)) := fun m => rfl
      rw [hstep, hstep, ih, ih (10 * 0 + _), List.length_cons, Nat.pow_succ, Nat.add_mul,
        Nat.mul_zero, Nat.zero_add, Nat.add_assoc]
      congr 1
      rw [Nat.mul_comm 10 n, Nat.mul_assoc, Nat.mul_comm 10]
  rw [valueOf_eq_ofDigitChars, Nat.ofDigitChars_append, hfold, ← valueOf_eq_ofDigitChars,
    ← valueOf_eq_ofDigitChars]

/-- Zeros behind the digits multiply by powers of ten. -/
theorem valueOf_append_replicate_zero (ds : List Char) (n : Nat) :
    valueOf (ds ++ List.replicate n '0') = valueOf ds * 10 ^ n := by
  have hzeros : valueOf (List.replicate n '0') = 0 := by
    have := valueOf_replicate_zero_append n []
    rwa [List.append_nil] at this
  rw [valueOf_append, hzeros, List.length_replicate, Nat.add_zero]

/-! ## Digits -/

/-- A number is written in digits. -/
theorem isDigit_of_mem_digits {n : Nat} {c : Char} (h : c ∈ digits n) : c.isDigit :=
  Nat.isDigit_of_mem_toDigits (by decide) (by decide) h

/-- A number is not written without digits. -/
theorem digits_ne_nil (n : Nat) : digits n ≠ [] :=
  Nat.toDigits_ne_nil

/-- A number has as many digits at most as the next power of ten has zeros. -/
theorem length_digits_le_iff {n k : Nat} (hk : 0 < k) : (digits n).length ≤ k ↔ n < 10 ^ k :=
  Nat.length_toDigits_le_iff (by decide) hk

/-- A number has at least one digit. -/
theorem length_digits_pos (n : Nat) : 0 < (digits n).length :=
  List.length_pos_iff.mpr (digits_ne_nil n)

/-- A number other than zero lies between the powers of ten that its number of digits gives. -/
theorem length_digits_spec {n : Nat} (hn : 0 < n) :
    10 ^ ((digits n).length - 1) ≤ n ∧ n < 10 ^ (digits n).length := by
  have hpos := length_digits_pos n
  refine ⟨Nat.le_of_not_lt fun hlt => ?_, (length_digits_le_iff hpos).mp (Nat.le_refl _)⟩
  rcases Nat.eq_zero_or_pos ((digits n).length - 1) with hzero | hlength
  · rw [hzero] at hlt
    omega
  · have hle := (length_digits_le_iff hlength).mpr hlt
    omega

/-- A number other than zero has no needless zero in front. -/
theorem head?_digits_ne_zero {n : Nat} (hn : 0 < n) : (digits n).head? ≠ some '0' := by
  induction n using Nat.strongRecOn with
  | ind n ih =>
    rw [digits]
    -- One digit is the number itself; more of them start with the digits of a tenth.
    by_cases hlt : n < 10
    · have hdigit : ∀ d : Fin 10, 0 < d.val → some d.val.digitChar ≠ some '0' := by decide
      rw [Nat.toDigits_of_lt_base hlt]
      exact hdigit ⟨n, hlt⟩ hn
    · rw [Nat.toDigits_of_base_le (by decide) (by omega), List.head?_append]
      obtain ⟨c, cs, h⟩ := List.exists_cons_of_ne_nil (digits_ne_nil (n / 10))
      have hfront := ih (n / 10) (by omega) (by omega)
      rw [digits] at h hfront
      rw [h] at hfront ⊢
      exact hfront

/-- A text that ends with the digits of a number ends with a digit. -/
theorem isDigit_of_mem_getLast? {front : List Char} {n : Nat} {c : Char}
    (h : c ∈ (front ++ digits n).getLast?) : c.isDigit := by
  have hlast := List.getLast?_eq_some_getLast (digits_ne_nil n)
  rw [List.getLast?_append, hlast, Option.some_or, ← hlast] at h
  exact isDigit_of_mem_digits (List.mem_of_getLast? h)

/-- Zeros in front are digits. -/
theorem isDigit_of_mem_paddedDigits {width n : Nat} {c : Char} (h : c ∈ paddedDigits width n) :
    c.isDigit := by
  rcases List.mem_append.mp h with h | h
  · rw [List.eq_of_mem_replicate h]
    decide
  · exact isDigit_of_mem_digits h

/-- A number keeps its value with zeros in front. -/
@[simp]
theorem valueOf_paddedDigits (width n : Nat) : valueOf (paddedDigits width n) = n := by
  rw [paddedDigits, padLeft, valueOf_replicate_zero_append, valueOf_digits]

/-- A number that needs no more digits than the width is as wide as asked for. -/
theorem length_paddedDigits {width n : Nat} (hwidth : 0 < width) (h : n < 10 ^ width) :
    (paddedDigits width n).length = width := by
  rw [paddedDigits, length_padLeft]
  have := (length_digits_le_iff hwidth).mpr h
  omega

/-! ## Runs of digits in a text -/

section Run

-- The digits are those of ASCII or those of any script.
variable {isDigit : Char → Bool} {ds rest : List Char}

/-- A run of digits does not reach beyond what has no digit in front. -/
theorem span_isDigit_append (hrest : ∀ c ∈ rest.head?, isDigit c = false) (cs : List Char) :
    (cs ++ rest).takeWhile isDigit = cs.takeWhile isDigit ∧
      (cs ++ rest).dropWhile isDigit = cs.dropWhile isDigit ++ rest := by
  induction cs with
  | nil =>
    cases rest with
    | nil => exact ⟨rfl, rfl⟩
    -- The run stops at the first character behind, which is no digit.
    | cons c rest =>
      have hc : ¬isDigit c = true := by
        rw [hrest c rfl]
        exact Bool.false_ne_true
      rw [List.nil_append, List.takeWhile_cons_of_neg hc, List.dropWhile_cons_of_neg hc]
      exact ⟨rfl, rfl⟩
  | cons c cs ih =>
    rw [List.cons_append, List.takeWhile_cons, List.takeWhile_cons, List.dropWhile_cons,
      List.dropWhile_cons]
    by_cases hc : isDigit c = true
    · rw [if_pos hc, if_pos hc, if_pos hc, if_pos hc, ih.1, ih.2]
      exact ⟨rfl, rfl⟩
    · rw [if_neg hc, if_neg hc, if_neg hc, if_neg hc]
      exact ⟨rfl, rfl⟩

/-- Digits are a run of digits as a whole. -/
theorem span_isDigit_self (hds : ∀ c ∈ ds, isDigit c) :
    ds.takeWhile isDigit = ds ∧ ds.dropWhile isDigit = [] := by
  induction ds with
  | nil => exact ⟨rfl, rfl⟩
  | cons c ds ih =>
    obtain ⟨htake, hdrop⟩ := ih fun d hd => hds d (List.mem_cons_of_mem c hd)
    have hc := hds c List.mem_cons_self
    rw [List.takeWhile_cons_of_pos hc, List.dropWhile_cons_of_pos hc, htake, hdrop]
    exact ⟨rfl, rfl⟩

/-- A run of digits ends where something else follows. -/
theorem takeWhile_isDigit_append (hds : ∀ c ∈ ds, isDigit c)
    (hrest : ∀ c ∈ rest.head?, isDigit c = false) : (ds ++ rest).takeWhile isDigit = ds := by
  rw [(span_isDigit_append hrest ds).1, (span_isDigit_self hds).1]

/-- What is left behind a run of digits. -/
theorem dropWhile_isDigit_append (hds : ∀ c ∈ ds, isDigit c)
    (hrest : ∀ c ∈ rest.head?, isDigit c = false) : (ds ++ rest).dropWhile isDigit = rest := by
  rw [(span_isDigit_append hrest ds).2, (span_isDigit_self hds).2, List.nil_append]

end Run

/-! ## Integers -/

/-- Digits are read as the number that they denote. -/
theorem nat?_of_isDigit {ds : List Char} (hne : ds ≠ []) (hds : ∀ c ∈ ds, c.isDigit) :
    nat? ds = some (valueOf ds) :=
  if_pos ⟨hne, List.all_eq_true.mpr hds⟩

/-- Digits have no sign in front. -/
theorem int?_of_isDigit {ds : List Char} (hne : ds ≠ []) (hds : ∀ c ∈ ds, c.isDigit) :
    int? ds = some (valueOf ds : Int) := by
  have hread := nat?_of_isDigit hne hds
  unfold int? signedNat?
  split
  · exact absurd (hds '-' List.mem_cons_self) (by decide)
  · split
    · exact absurd (hds '+' List.mem_cons_self) (by decide)
    · rw [hread]
      rfl

/-- Digits are read as an integer if it fits a signed word, and as nothing otherwise. -/
theorem int64?_of_isDigit {ds : List Char} (hne : ds ≠ []) (hds : ∀ c ∈ ds, c.isDigit) :
    int64? ds = if (valueOf ds : Int) ≤ maxInt64 then some (valueOf ds : Int) else none := by
  have hfits : FitsInt64 (valueOf ds) ↔ (valueOf ds : Int) ≤ maxInt64 := by
    unfold FitsInt64 minInt64
    omega
  rw [int64?, int?_of_isDigit hne hds, Option.filter_some]
  simp only [decide_eq_true_eq, hfits]

/-- The digits of a number are read as it. -/
theorem nat?_digits (n : Nat) : nat? (digits n) = some n := by
  rw [nat?_of_isDigit (digits_ne_nil n) fun _ => isDigit_of_mem_digits, valueOf_digits]

/-- Digits do not start with a sign. -/
theorem digits_eq_cons (n : Nat) : ∃ c cs, digits n = c :: cs ∧ c.isDigit := by
  obtain ⟨c, cs, h⟩ := List.exists_cons_of_ne_nil (digits_ne_nil n)
  exact ⟨c, cs, h, isDigit_of_mem_digits (h ▸ List.mem_cons_self)⟩

/-- A number without a sign is read as it is. -/
theorem signedNat?_digits (n : Nat) : signedNat? (digits n) = some n := by
  obtain ⟨c, cs, heq, hdigit⟩ := digits_eq_cons n
  have hplus : c ≠ '+' := by
    rintro rfl
    exact absurd hdigit (by decide)
  rw [heq, signedNat?, ← heq, nat?_digits]
  exact fun _ h => hplus (List.cons.inj h).1

/-- The text of an integer is its digits behind a sign, if it has one. -/
theorem intChars_eq_append (i : Int) : ∃ sign, intChars i = sign ++ digits i.natAbs := by
  rw [intChars]
  split
  · exact ⟨['-'], rfl⟩
  · exact ⟨[], rfl⟩

/-- The text of an integer is read as that integer. -/
theorem int?_intChars (i : Int) : int? (intChars i) = some i := by
  rw [intChars]
  split
  · next hneg =>
    rw [int?, nat?_digits]
    show some (-(i.natAbs : Int)) = some i
    congr 1
    omega
  · next hneg =>
    rw [int?_of_isDigit (digits_ne_nil i.natAbs) fun _ => isDigit_of_mem_digits, valueOf_digits]
    exact congrArg some (Int.natAbs_of_nonneg (Int.not_lt.mp hneg))

/-- The text of an integer that fits a signed word is read as that integer. -/
theorem int64?_intChars {i : Int} (h : FitsInt64 i) : int64? (intChars i) = some i := by
  rw [int64?, int?_intChars, Option.filter_some, decide_eq_true h, if_pos rfl]

end AccessPolicy.Decimal
