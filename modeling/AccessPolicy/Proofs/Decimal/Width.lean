import AccessPolicy.Proofs.Decimal.Canonical
import Mathlib.Data.String.Basic
import Mathlib.Order.Compare

/-!
# Numbers of a fixed width as texts

Numbers that are written in the same number of digits compare as texts in the way they do as numbers
(`compare_paddedDigits`). Texts go by their first difference, and the digits in front of the others
count for more than all those behind them together (`compare_mul_add`). Nothing of the kind holds of
texts that differ in length, of which a shorter one may be the beginning of the other.
-/

namespace AccessPolicy

/-! ## Texts in order -/

namespace Text

/-- What stands behind beginnings of one length decides only where these are level. -/
theorem compare_append {α : Type} [Ord α] {a b : List α} (h : a.length = b.length) (c d : List α) :
    compare (a ++ c) (b ++ d) = (compare a b).then (compare c d) := by
  induction a generalizing b with
  | nil =>
    obtain rfl := List.eq_nil_of_length_eq_zero h.symm
    rfl
  | cons x a ih =>
    cases b with
    | nil => exact absurd h (Nat.succ_ne_zero _)
    | cons y b =>
      rw [List.cons_append, List.cons_append, List.compare_cons_cons, List.compare_cons_cons,
        ih (Nat.succ.inj h), Ordering.then_assoc]

/-- Characters that compare as less make up a text that comes first. -/
theorem compare_eq_lt_iff (a b : List Char) : compare a b = .lt ↔ a < b := by
  induction a generalizing b with
  | nil =>
    cases b with
    | nil => exact iff_of_false nofun (lt_irrefl _)
    | cons y b => exact iff_of_true rfl (List.nil_lt_cons y b)
  | cons x a ih =>
    cases b with
    | nil => exact iff_of_false nofun (List.not_lt_nil _)
    | cons y b =>
      rw [List.compare_cons_cons, Ordering.then_eq_lt, compare_lt_iff_lt, compare_eq_iff_eq, ih,
        List.cons_lt_cons_iff]

/-- Texts compare as their characters do. -/
theorem compare_ofList (a b : List Char) :
    compare (String.ofList a) (String.ofList b) = compare a b := by
  have hlt : ∀ a b : List Char, String.ofList a < String.ofList b ↔ compare a b = .lt := by
    intro a b
    rw [compare_eq_lt_iff, String.lt_iff_toList_lt, String.toList_ofList, String.toList_ofList]
  cases h : compare a b with
  | lt => rw [compare_lt_iff_lt, hlt, h]
  | eq => rw [compare_eq_iff_eq, String.ofList_inj, Std.LawfulEqOrd.eq_of_compare h]
  | gt => rw [compare_gt_iff_gt, hlt, ← Std.OrientedCmp.gt_iff_lt, h]

end Text

namespace Decimal

open Text (digitValue)

/-! ## Digits in order -/

/-- Numbers compare by what stands in front of their last digit, and then by that digit, in any
base. -/
theorem compare_mul_add {b m n r s : Nat} (hr : r < b) (hs : s < b) :
    compare (m * b + r) (n * b + s) = (compare m n).then (compare r s) := by
  rcases Nat.lt_trichotomy m n with hlt | rfl | hgt
  · -- One more in front is more than any last digit makes up for.
    have hstep : (m + 1) * b ≤ n * b := Nat.mul_le_mul_right b hlt
    rw [Nat.succ_mul] at hstep
    rw [Nat.compare_eq_lt.mpr hlt, Ordering.lt_then, Nat.compare_eq_lt]
    omega
  · -- Level in front, so that the last digits decide.
    rw [Nat.compare_eq_eq.mpr rfl, Ordering.eq_then]
    rcases Nat.lt_trichotomy r s with hlt | rfl | hgt
    · rw [Nat.compare_eq_lt.mpr hlt, Nat.compare_eq_lt]
      omega
    · rw [Nat.compare_eq_eq.mpr rfl, Nat.compare_eq_eq.mpr rfl]
    · rw [Nat.compare_eq_gt.mpr hgt, Nat.compare_eq_gt]
      omega
  · have hstep : (n + 1) * b ≤ m * b := Nat.mul_le_mul_right b hgt
    rw [Nat.succ_mul] at hstep
    rw [Nat.compare_eq_gt.mpr hgt, Ordering.gt_then, Nat.compare_eq_gt]
    omega

/-- Digits come in the order of their values. -/
theorem compare_of_isDigit {c d : Char} (hc : c.isDigit) (hd : d.isDigit) :
    compare c d = compare (digitValue c) (digitValue d) := by
  have hcrange : 0x30 ≤ c.toNat ∧ c.toNat ≤ 0x39 := Char.isDigit_iff_toNat.mp hc
  have hdrange : 0x30 ≤ d.toNat ∧ d.toNat ≤ 0x39 := Char.isDigit_iff_toNat.mp hd
  unfold digitValue
  rcases lt_trichotomy c d with hlt | rfl | hgt
  · have hcode : c.toNat < d.toNat := hlt
    rw [compare_lt_iff_lt.mpr hlt, eq_comm, Nat.compare_eq_lt]
    omega
  · rw [compare_eq_iff_eq.mpr rfl, Nat.compare_eq_eq.mpr rfl]
  · have hcode : d.toNat < c.toNat := hgt
    rw [compare_gt_iff_gt.mpr hgt, eq_comm, Nat.compare_eq_gt]
    omega

/-- A digit in front counts as often as the power of ten that the number of the others gives. -/
theorem valueOf_cons (c : Char) (ds : List Char) :
    valueOf (c :: ds) = digitValue c * 10 ^ ds.length + valueOf ds := by
  have hfront : valueOf [c] = digitValue c := by
    simp [valueOf]
  rw [← List.singleton_append, valueOf_append, hfront]

/-- Digits denote a number below the power of ten that their number gives. -/
theorem valueOf_lt {ds : List Char} (h : ∀ c ∈ ds, c.isDigit) : valueOf ds < 10 ^ ds.length := by
  induction ds with
  | nil => decide
  | cons c ds ih =>
    have hfront : digitValue c ≤ 9 := Nat.le_of_lt_succ (digitValue_lt (h c List.mem_cons_self))
    have hrest := ih fun d hd => h d (List.mem_cons_of_mem c hd)
    have hmul : digitValue c * 10 ^ ds.length ≤ 9 * 10 ^ ds.length := Nat.mul_le_mul_right _ hfront
    rw [valueOf_cons, List.length_cons, Nat.pow_succ]
    omega

/-- As many digits as others compare as the numbers that they denote. -/
theorem compare_digits {ds es : List Char} (hds : ∀ c ∈ ds, c.isDigit) (hes : ∀ c ∈ es, c.isDigit)
    (hlength : ds.length = es.length) : compare ds es = compare (valueOf ds) (valueOf es) := by
  induction ds generalizing es with
  | nil =>
    obtain rfl := List.eq_nil_of_length_eq_zero hlength.symm
    rfl
  | cons c ds ih =>
    cases es with
    | nil => exact absurd hlength (Nat.succ_ne_zero _)
    | cons d es =>
      obtain ⟨hc, hds⟩ := List.forall_mem_cons.mp hds
      obtain ⟨hd, hes⟩ := List.forall_mem_cons.mp hes
      have hrest : ds.length = es.length := Nat.succ.inj hlength
      -- The first digit decides, unless it is the same: then the others do.
      calc compare (c :: ds) (d :: es)
          = (compare c d).then (compare ds es) := List.compare_cons_cons
        _ = (compare (digitValue c) (digitValue d)).then (compare (valueOf ds) (valueOf es)) := by
            rw [compare_of_isDigit hc hd, ih hds hes hrest]
        _ = compare (valueOf (c :: ds)) (valueOf (d :: es)) := by
            rw [valueOf_cons, valueOf_cons, ← hrest,
              compare_mul_add (valueOf_lt hds) (hrest ▸ valueOf_lt hes)]

/-- Numbers filled up to one width compare as texts in the way they do as numbers. -/
theorem compare_paddedDigits {width m n : Nat} (hwidth : 0 < width) (hm : m < 10 ^ width)
    (hn : n < 10 ^ width) :
    compare (paddedDigits width m) (paddedDigits width n) = compare m n := by
  have hlength : (paddedDigits width m).length = (paddedDigits width n).length := by
    rw [length_paddedDigits hwidth hm, length_paddedDigits hwidth hn]
  rw [compare_digits (fun _ => isDigit_of_mem_paddedDigits) (fun _ => isDigit_of_mem_paddedDigits)
    hlength, valueOf_paddedDigits, valueOf_paddedDigits]

end Decimal

end AccessPolicy
