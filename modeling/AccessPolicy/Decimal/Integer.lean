import AccessPolicy.Text.Character

/-!
# Integers in decimal

The decimal text of an integer and its readers. A text denotes an integer if it is a run of ASCII
digits behind an optional sign; `int64?` also asks for the value to fit a signed 64-bit word.
-/

namespace AccessPolicy.Decimal

open Text (digitValue)

/-- The decimal digits of a number. -/
def digits (n : Nat) : List Char :=
  Nat.toDigits 10 n

/-- The decimal text of a number. -/
def natText (n : Nat) : String :=
  String.ofList (digits n)

/-- The characters of an integer: its digits, behind a minus sign if it is negative. -/
def intChars (i : Int) : List Char :=
  if i < 0 then '-' :: digits i.natAbs else digits i.natAbs

/-- The decimal text of an integer. -/
def intText (i : Int) : String :=
  String.ofList (intChars i)

/-- The text, filled up on the left to a width. -/
def padLeft (width : Nat) (fill : Char) (cs : List Char) : List Char :=
  List.replicate (width - cs.length) fill ++ cs

/-- Padding reaches the width and cuts nothing off. -/
theorem length_padLeft (width : Nat) (fill : Char) (cs : List Char) :
    (padLeft width fill cs).length = max width cs.length := by
  simp only [padLeft, List.length_append, List.length_replicate]
  omega

/-- The digits of a number, at least `width` of them. -/
def paddedDigits (width n : Nat) : List Char :=
  padLeft width '0' (digits n)

/-- The number that a run of digits denotes. -/
def valueOf (ds : List Char) : Nat :=
  ds.foldl (fun n c => 10 * n + digitValue c) 0

/-- Reads a run of one or more digits. -/
def nat? (cs : List Char) : Option Nat :=
  if cs ≠ [] ∧ cs.all Char.isDigit then some (valueOf cs) else none

/-- Reads a number that may have a plus sign in front. -/
def signedNat? : List Char → Option Nat
  | '+' :: cs => nat? cs
  | cs => nat? cs

/-- Reads an integer with an optional sign. -/
def int? : List Char → Option Int
  | '-' :: cs => (nat? cs).map fun n => -(n : Int)
  | cs => (signedNat? cs).map Int.ofNat

/-- The least and the greatest value of a signed 64-bit word. -/
def minInt64 : Int := -0x8000000000000000

@[inherit_doc minInt64]
def maxInt64 : Int := 0x7FFFFFFFFFFFFFFF

/-- Whether an integer fits a signed 64-bit word. -/
def FitsInt64 (i : Int) : Prop :=
  minInt64 ≤ i ∧ i ≤ maxInt64

instance (i : Int) : Decidable (FitsInt64 i) :=
  inferInstanceAs (Decidable (_ ∧ _))

/-- Reads an integer that fits a signed 64-bit word. -/
def int64? (cs : List Char) : Option Int :=
  (int? cs).filter fun i => decide (FitsInt64 i)

/-- The nearest value of a signed 64-bit word. -/
def clampInt64 (i : Int) : Int :=
  max minInt64 (min i maxInt64)

/-- A clamped number fits into 64 bits. -/
theorem fitsInt64_clampInt64 (i : Int) : FitsInt64 (clampInt64 i) := by
  simp only [FitsInt64, clampInt64, minInt64, maxInt64]
  omega

example : intText (-42) = "-42" := by decide
example : int64? "+7".toList = some 7 ∧ int64? "-".toList = none := by decide
example : int64? "9223372036854775808".toList = none := by decide

end AccessPolicy.Decimal
