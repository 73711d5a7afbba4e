import AccessPolicy.Proofs.Decimal.Digits
import Mathlib.Data.List.Basic
import Mathlib.Data.List.Induction

/-!
# Canonical decimal texts

An integer can be spelled in several ways: with a plus sign, with zeros in front, zero with a minus
sign. One of the spellings is canonical. `IsCanonical` says which, in terms of the digits alone, and
`isCanonical_iff` that it is the one which is printed. The key fact is that digits without a
needless zero in front are the digits of the number that they denote (`Holds.digits_eq`), so the
printer undoes the reader on canonical texts, just as the reader undoes the printer on all integers.
-/

namespace AccessPolicy.Decimal

/-! ## Single digits -/

/-- The value of a digit is below ten. -/
theorem digitValue_lt {c : Char} (h : c.isDigit) : Text.digitValue c < 10 := by
  have hrange : 0x30 ≤ c.toNat ∧ c.toNat ≤ 0x39 := Char.isDigit_iff_toNat.mp h
  unfold Text.digitValue
  omega

/-- A digit is the character of its value. -/
theorem digitChar_digitValue {c : Char} (h : c.isDigit) : (Text.digitValue c).digitChar = c := by
  have hrange : 0x30 ≤ c.toNat ∧ c.toNat ≤ 0x39 := Char.isDigit_iff_toNat.mp h
  have hvalue := Nat.toNat_digitChar_of_lt_ten (digitValue_lt h)
  apply Char.toNat_inj.mp
  rw [hvalue]
  unfold Text.digitValue
  omega

/-- A single digit is all the digits of its value. -/
theorem digits_digitValue {c : Char} (h : c.isDigit) : digits (Text.digitValue c) = [c] := by
  unfold digits
  rw [Nat.toDigits_of_lt_base (digitValue_lt h), digitChar_digitValue h]

/-! ## One more digit -/

/-- A digit at the end makes the number ten times as great, and adds its own value. -/
theorem valueOf_concat (ds : List Char) (c : Char) :
    valueOf (ds ++ [c]) = 10 * valueOf ds + Text.digitValue c := by
  unfold valueOf
  rw [List.foldl_append, List.foldl_cons, List.foldl_nil]

/-- The number that a digit at the end makes has the digits from before, and that digit. -/
theorem digits_concat {n : Nat} (hn : 0 < n) {c : Char} (hc : c.isDigit) :
    digits (10 * n + Text.digitValue c) = digits n ++ [c] := by
  have happend := Nat.toDigits_append_toDigits (b := 10) (by decide) hn (digitValue_lt hc)
  have hdigit := digits_digitValue hc
  unfold digits at hdigit ⊢
  rw [← happend, hdigit]

/-! ## Numbers -/

/-- The digits that denote a number, with no zero in front of other digits. -/
structure Holds (ds : List Char) (n : Nat) : Prop where
  ne_nil : ds ≠ []
  isDigit : ∀ c ∈ ds, c.isDigit
  head?_ne_zero : 1 < ds.length → ds.head? ≠ some '0'
  number_eq : Nat.ofDigitChars 10 ds 0 = n

/-- Digits without a needless zero in front are the digits of the number that they denote. -/
theorem Holds.digits_eq {ds : List Char} {n : Nat} (h : Holds ds n) : digits n = ds := by
  obtain ⟨hne, hdigit, hzero, rfl⟩ := h
  rw [← valueOf_eq_ofDigitChars]
  -- Reading goes on with the digit at the end, so the induction takes the digits off there.
  induction ds using List.reverseRecOn with
  | nil => exact absurd rfl hne
  | append_singleton front c ih =>
    have hc : c.isDigit := hdigit c (List.mem_append_right front List.mem_cons_self)
    rw [valueOf_concat]
    by_cases hfront : front = []
    · have hnull : valueOf front = 0 := hfront ▸ rfl
      rw [hnull, hfront, Nat.mul_zero, Nat.zero_add]
      exact digits_digitValue hc
    · have hlength := List.length_pos_iff.mpr hfront
      have hhead : front.head? ≠ some '0' := by
        have hall : (front ++ [c]).head? ≠ some '0' := by
          apply hzero
          rw [List.length_append, List.length_singleton]
          omega
        rwa [List.head?_append_of_ne_nil _ hfront] at hall
      have hdigits : digits (valueOf front) = front :=
        ih hfront (fun d hd => hdigit d (List.mem_append_left [c] hd)) fun _ => hhead
      -- Only the number zero is written with a zero in front.
      have hpos : 0 < valueOf front := by
        apply Nat.pos_of_ne_zero
        intro hnull
        rw [hnull] at hdigits
        exact hhead (hdigits ▸ rfl)
      rw [digits_concat hpos hc, hdigits]

/-- The digits of a number denote it, and have no needless zero in front. -/
theorem holds_digits (n : Nat) : Holds (digits n) n where
  ne_nil := digits_ne_nil n
  isDigit _ hc := isDigit_of_mem_digits hc
  head?_ne_zero hlength := by
    apply head?_digits_ne_zero
    apply Nat.pos_of_ne_zero
    rintro rfl
    exact absurd hlength (by decide)
  number_eq := valueOf_digits n

/-! ## Integers -/

/-- The canonical text of an integer: the digits of its absolute value, behind a minus sign if it is
negative. -/
def IsCanonical (cs : List Char) (i : Int) : Prop :=
  ∃ ds, Holds ds i.natAbs ∧ cs = if i < 0 then '-' :: ds else ds

/-- The canonical text of an integer is the one that it is printed as. -/
theorem isCanonical_iff {cs : List Char} {i : Int} : IsCanonical cs i ↔ cs = intChars i := by
  constructor
  · rintro ⟨ds, hds, rfl⟩
    rw [← hds.digits_eq]
    rfl
  · rintro rfl
    exact ⟨digits i.natAbs, holds_digits i.natAbs, rfl⟩

end AccessPolicy.Decimal
