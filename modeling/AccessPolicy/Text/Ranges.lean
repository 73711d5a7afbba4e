/-!
# Sets of code points

A set of characters is written as a list of closed ranges of code points. The operations of sets
take and give ranges in ascending order that do not touch. Surrogates are no characters, so a
complement does not hold them.

`Ranges.ofRows` reads the compact text in which the large property tables are written: items with
blanks between them, each a hexadecimal code point, two of them joined by a hyphen for the range
between, or such a range with a slash and a number for every so-manyth code point of it. A
`PropertyTable` is such a table under the names that it goes by.
-/

namespace AccessPolicy.Text

/-- A set of code points as closed ranges. -/
abbrev Ranges := List (Nat × Nat)

namespace Ranges

/-- Whether a code point lies in one of the ranges. -/
def has (rs : Ranges) (n : Nat) : Bool :=
  rs.any fun r => r.1 ≤ n && n ≤ r.2

/-- Ranges have a number that lies in one of them. -/
theorem has_iff {rs : Ranges} {n : Nat} : rs.has n ↔ ∃ r ∈ rs, r.1 ≤ n ∧ n ≤ r.2 := by
  simp [has]

/-! ## Operations -/

/-- The greatest code point. -/
def last : Nat := 0x10FFFF

/-- The characters from one code point to another: the range without the surrogates. -/
def between (low high : Nat) : Ranges :=
  [(low, min high 0xD7FF), (max low 0xE000, high)].filter fun r => r.1 ≤ r.2

/-- Puts a range where it belongs among ascending ones, and goes on with those behind it. -/
def mergeAt (a : Nat × Nat) (onward : Ranges → Ranges) : Ranges → Ranges
  | [] => a :: onward []
  | b :: bs => if a.1 ≤ b.1 then a :: onward (b :: bs) else b :: mergeAt a onward bs

/-- The ranges of two ascending lists as one ascending list. -/
def merge : Ranges → Ranges → Ranges
  | [], bs => bs
  | a :: as, bs => mergeAt a (merge as) bs

/-- A range and those behind it, in ascending order, joined where they overlap or touch. -/
def coalesce (a : Nat × Nat) : Ranges → Ranges
  | [] => [a]
  | b :: bs => if b.1 ≤ a.2 + 1 then coalesce (a.1, max a.2 b.2) bs else a :: coalesce b bs

/-- The code points of either set. -/
def union (a b : Ranges) : Ranges :=
  match merge a b with
  | [] => []
  | r :: rs => coalesce r rs

/-- The code points of all the sets. -/
def unions (sets : List Ranges) : Ranges :=
  sets.foldl union []

/-- The characters from `low` on that lie in none of the ranges, which ascend. -/
def gaps (low : Nat) : Ranges → Ranges
  | [] => between low last
  | r :: rs => if low < r.1 then between low (r.1 - 1) ++ gaps (r.2 + 1) rs else gaps (r.2 + 1) rs

/-- The characters that are not in the set. -/
def complement (rs : Ranges) : Ranges :=
  gaps 0 rs

/-- The characters of the first set that are not in the second. -/
def difference (a b : Ranges) : Ranges :=
  complement (a.complement.union b)

/-- The characters of both sets. -/
def intersection (a b : Ranges) : Ranges :=
  complement (a.complement.union b.complement)

/-- The characters of one set and not of the other. -/
def symmetricDifference (a b : Ranges) : Ranges :=
  union (a.difference b) (b.difference a)

example : complement [(0x0, 0x40), (0xE001, 0x10FFFF)] = [(0x41, 0xD7FF), (0xE000, 0xE000)] := by
  decide +kernel

end Ranges

/-! ## Written tables -/

/-- The value of a hexadecimal digit. -/
def hexValue? (c : Char) : Option Nat :=
  if '0' ≤ c ∧ c ≤ '9' then some (c.toNat - 0x30)
  else if 'a' ≤ c ∧ c ≤ 'f' then some (c.toNat - 0x57)
  else if 'A' ≤ c ∧ c ≤ 'F' then some (c.toNat - 0x37)
  else none

namespace Ranges

/-- The ranges that the numbers of an item stand for. -/
def ofItem : List Nat → Ranges
  | [n] => [(n, n)]
  | [low, high] => [(low, high)]
  | [low, high, step] =>
    (List.range ((high - low) / step + 1)).map fun i => (low + step * i, low + step * i)
  | _ => []

/-- The ranges of a table's text behind the numbers `before` of the item at hand, of whose next
number the digits so far are worth `n`. -/
def ofText : List Char → (before : List Nat) → (n : Nat) → Ranges
  | [], before, n => ofItem (before ++ [n])
  | c :: cs, before, n =>
    if c = ' ' then ofItem (before ++ [n]) ++ ofText cs [] 0
    else if c = '-' ∨ c = '/' then ofText cs (before ++ [n]) 0
    else ofText cs before (16 * n + (hexValue? c).getD 0)

/-- The ranges of a table written in rows. -/
def ofRows (rows : List String) : Ranges :=
  rows.flatMap fun row => ofText row.toList [] 0

example : ofRows ["41-5A AA", "100-104/2"] =
    [(0x41, 0x5A), (0xAA, 0xAA), (0x100, 0x100), (0x102, 0x102), (0x104, 0x104)] := by
  decide

end Ranges

end AccessPolicy.Text

namespace AccessPolicy.Pattern

open Text (Ranges)

/-- A set of characters: the names it goes by, and its code points as they are written. -/
structure PropertyTable where
  names : List String
  rows : List String

namespace PropertyTable

/-- The characters of a table. -/
def ranges (t : PropertyTable) : Ranges :=
  Text.Ranges.ofRows t.rows

/-- The characters of the table that goes by a name. -/
def find? (tables : List PropertyTable) (name : String) : Option Ranges :=
  (tables.find? (·.names.contains name)).map ranges

end PropertyTable

end AccessPolicy.Pattern
