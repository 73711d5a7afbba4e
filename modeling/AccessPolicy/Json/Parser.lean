import AccessPolicy.Decimal.Numeral
import AccessPolicy.Json.Basic
import AccessPolicy.Text.Ranges

/-!
# Reading JSON

A strict reader of JSON texts. Blanks are spaces, tabs, line feeds and carriage returns; strings
hold no raw control characters and no surrogate on its own; a number that is out of range is
refused; arrays and objects nest at most `maxDepth` deep; of fields with one name the last one
counts.

Each step of the reader takes at least one character off the text, so the length of the text bounds
their number; that bound is the first argument of `value`, `items` and `fields`.
-/

namespace AccessPolicy.Json

/-- How deep arrays and objects may nest. -/
def maxDepth : Nat := 127

/-- A blank between the parts of a text. -/
def isSpace (c : Char) : Bool :=
  c = ' ' || c = '\t' || c = '\n' || c = '\r'

/-- The text without the blanks it starts with. -/
def skipSpace (cs : List Char) : List Char :=
  cs.dropWhile isSpace

/-- The number that four hexadecimal digits denote. -/
def hex4? (a b c d : Char) : Option Nat := do
  let a ← Text.hexValue? a
  let b ← Text.hexValue? b
  let c ← Text.hexValue? c
  let d ← Text.hexValue? d
  return ((a * 16 + b) * 16 + c) * 16 + d

/-- The character behind a backslash that stands for another one. -/
def unescaped? (c : Char) : Option Char :=
  match c with
  | '"' => some '"'
  | '\\' => some '\\'
  | '/' => some '/'
  | 'b' => some '\x08'
  | 'f' => some '\x0c'
  | 'n' => some '\n'
  | 'r' => some '\r'
  | 't' => some '\t'
  | _ => none

/-- The code point that a pair of surrogates stands for. -/
def pairedSurrogates? (high low : Nat) : Option Nat :=
  if 0xD800 ≤ high ∧ high < 0xDC00 ∧ 0xDC00 ≤ low ∧ low < 0xE000 then
    some (0x10000 + (high - 0xD800) * 0x400 + (low - 0xDC00))
  else none

/-- The characters of a string up to its closing quote, and the text behind it. `seen` holds the
characters so far, last one first. -/
def stringChars (seen : List Char) : List Char → Option (List Char × List Char)
  | [] => none
  | '"' :: cs => some (seen.reverse, cs)
  | '\\' :: 'u' :: a :: b :: c :: d :: cs =>
    match hex4? a b c d with
    | none => none
    | some n =>
      if n < 0xD800 ∨ 0xE000 ≤ n then stringChars (Char.ofNat n :: seen) cs
      else
        match cs with
        | '\\' :: 'u' :: a :: b :: c :: d :: cs =>
          match (hex4? a b c d).bind (pairedSurrogates? n) with
          | none => none
          | some m => stringChars (Char.ofNat m :: seen) cs
        | _ => none
  | '\\' :: c :: cs =>
    match unescaped? c with
    | none => none
    | some e => stringChars (e :: seen) cs
  | c :: cs => if c = '\\' ∨ c.toNat < 0x20 then none else stringChars (c :: seen) cs

/-- The digits at the front of a text, which must not be led by a needless zero, and the rest. -/
def wholeDigits? (cs : List Char) : Option (List Char × List Char) :=
  let ds := cs.takeWhile Char.isDigit
  match ds with
  | [] => none
  | '0' :: _ :: _ => none
  | _ => some (ds, cs.dropWhile Char.isDigit)

/-- The digits behind a point, of which there must be some; and whether there is a point at all. -/
def fractionDigits? : List Char → Option (Bool × List Char × List Char)
  | '.' :: cs =>
    let ds := cs.takeWhile Char.isDigit
    if ds = [] then none else some (true, ds, cs.dropWhile Char.isDigit)
  | cs => some (false, [], cs)

/-- The exponent, which must have digits; and whether there is one at all. -/
def exponentPart? (cs : List Char) : Option (Bool × Int × List Char) :=
  match cs with
  | [] => some (false, 0, [])
  | e :: after =>
    if e = 'e' ∨ e = 'E' then
      let (n, rest) := Decimal.splitExponent cs
      -- Nothing was taken if the exponent has no digits.
      if rest.length = after.length + 1 then none else some (true, n, rest)
    else some (false, 0, cs)

/-- The integer that digits denote, if it fits a 64-bit word, signed if it is negative and unsigned
otherwise. Zero with a minus sign is not an integer. -/
def wordInteger? (negative : Bool) (n : Nat) : Option Int :=
  if negative then
    if n ≠ 0 ∧ n ≤ 0x8000000000000000 then some (-n) else none
  else if n < 0x10000000000000000 then some n
  else none

/-- Reads a number. -/
def numberValue (cs : List Char) : Option (Json × List Char) := do
  let (negative, unsigned) :=
    match cs with
    | '-' :: rest => (true, rest)
    | _ => (false, cs)
  let (whole, rest) ← wholeDigits? unsigned
  let (pointed, fraction, rest) ← fractionDigits? rest
  let (scaled, exponent, rest) ← exponentPart? rest
  let integer := if pointed ∨ scaled then none else wordInteger? negative (Decimal.valueOf whole)
  match integer with
  | some i => return (.int i, rest)
  | none => return (.float (← Decimal.quickNumber? negative whole fraction exponent), rest)

mutual

/-- Reads a value off the front of a text, which has no blanks in front. -/
def value : (bound depth : Nat) → List Char → Option (Json × List Char)
  | 0, _, _ => none
  | bound + 1, depth, cs =>
    match cs with
    | 'n' :: 'u' :: 'l' :: 'l' :: rest => some (.null, rest)
    | 't' :: 'r' :: 'u' :: 'e' :: rest => some (.bool true, rest)
    | 'f' :: 'a' :: 'l' :: 's' :: 'e' :: rest => some (.bool false, rest)
    | '"' :: rest => (stringChars [] rest).map fun p => (.str (String.ofList p.1), p.2)
    | '[' :: rest =>
      match depth with
      | 0 => none
      | depth + 1 =>
        match skipSpace rest with
        | ']' :: rest => some (.arr [], rest)
        | rest => (items bound depth [] rest).map fun p => (.arr p.1, p.2)
    | '\x7b' :: rest =>
      match depth with
      | 0 => none
      | depth + 1 =>
        match skipSpace rest with
        | '\x7d' :: rest => some (.obj [], rest)
        | rest => (fields bound depth [] rest).map fun p => (ofPairs p.1, p.2)
    | _ => numberValue cs

/-- Reads the values of an array up to its closing bracket. `seen` holds the values so far, last one
first. -/
def items : (bound depth : Nat) → List Json → List Char → Option (List Json × List Char)
  | 0, _, _, _ => none
  | bound + 1, depth, seen, cs =>
    match value bound depth cs with
    | none => none
    | some (v, rest) =>
      match skipSpace rest with
      | ',' :: rest => items bound depth (v :: seen) (skipSpace rest)
      | ']' :: rest => some ((v :: seen).reverse, rest)
      | _ => none

/-- Reads the fields of an object up to its closing brace. `seen` holds the fields so far, last one
first. -/
def fields : (bound depth : Nat) → List (String × Json) → List Char →
    Option (List (String × Json) × List Char)
  | 0, _, _, _ => none
  | bound + 1, depth, seen, cs =>
    match cs with
    | '"' :: rest =>
      match stringChars [] rest with
      | none => none
      | some (k, rest) =>
        match skipSpace rest with
        | ':' :: rest =>
          match value bound depth (skipSpace rest) with
          | none => none
          | some (v, rest) =>
            let seen := (String.ofList k, v) :: seen
            match skipSpace rest with
            | ',' :: rest => fields bound depth seen (skipSpace rest)
            | '\x7d' :: rest => some (seen.reverse, rest)
            | _ => none
        | _ => none
    | _ => none

end

/-- The value that a text denotes; none if it is not a JSON text. -/
def parse? (s : String) : Option Json :=
  let cs := skipSpace s.toList
  match value (2 * cs.length + 1) maxDepth cs with
  | some (v, rest) => if skipSpace rest = [] then some v else none
  | none => none

end AccessPolicy.Json
