import AccessPolicy.Calendar.Date
import AccessPolicy.Decimal.Numeral
import AccessPolicy.Json.Basic
import AccessPolicy.Text.Ranges

/-!
# Scalars of TOML

The values that are written without quotes or brackets: truth values, integers in four bases,
floating-point numbers, and dates and times. The last ones are given by their texts.
-/

namespace AccessPolicy.Toml

open Decimal (paddedDigits valueOf)

/-! ## Numbers -/

/-- The digits of a number, in which single underscores may stand between two digits; none if there
are no digits, or something else. -/
def grouped? (isDigit : Char → Bool) : List Char → Option (List Char)
  | [] => none
  | [c] => if isDigit c then some [c] else none
  | c :: '_' :: cs => if isDigit c then (grouped? isDigit cs).map (c :: ·) else none
  | c :: cs => if isDigit c then (grouped? isDigit cs).map (c :: ·) else none

/-- The digits of a number that is not led by a needless zero. -/
def plainDigits? (cs : List Char) : Option (List Char) :=
  match grouped? Char.isDigit cs with
  | some ('0' :: _ :: _) => none
  | ds => ds

/-- The value of digits in a base. -/
def valueIn (base : Nat) (ds : List Char) : Nat :=
  ds.foldl (fun n c => base * n + (Text.hexValue? c).getD 0) 0

/-- Whether a character is a digit in a base. -/
def isDigitIn (base : Nat) (c : Char) : Bool :=
  (Text.hexValue? c).any fun d => d < base

/-- Reads an integer in any of its notations, without regard to its size. -/
def anyInteger? : List Char → Option Int
  | '0' :: 'x' :: cs => (grouped? (isDigitIn 16) cs).map fun ds => valueIn 16 ds
  | '0' :: 'o' :: cs => (grouped? (isDigitIn 8) cs).map fun ds => valueIn 8 ds
  | '0' :: 'b' :: cs => (grouped? (isDigitIn 2) cs).map fun ds => valueIn 2 ds
  | '-' :: cs => (plainDigits? cs).map fun ds => -(valueOf ds : Int)
  | '+' :: cs => (plainDigits? cs).map fun ds => valueOf ds
  | cs => (plainDigits? cs).map fun ds => valueOf ds

/-- Reads an integer, which has to fit a signed 64-bit word. -/
def integer? (cs : List Char) : Option Int :=
  (anyInteger? cs).filter fun i => decide (Decimal.FitsInt64 i)

/-- The fraction and the exponent of a number, of which at least one is there, in the form in which
they are read: without underscores. -/
def fractionAndExponent? (cs : List Char) : Option (List Char) :=
  let (fraction, exponent) := (cs.takeWhile (fun c => c ≠ 'e' ∧ c ≠ 'E'),
    cs.dropWhile (fun c => c ≠ 'e' ∧ c ≠ 'E'))
  let fraction? :=
    match fraction with
    | [] => some []
    | '.' :: ds => (grouped? Char.isDigit ds).map ('.' :: ·)
    | _ => none
  let exponent? :=
    match exponent with
    | [] => some []
    | e :: '+' :: ds => (grouped? Char.isDigit ds).map fun ds => e :: '+' :: ds
    | e :: '-' :: ds => (grouped? Char.isDigit ds).map fun ds => e :: '-' :: ds
    | e :: ds => (grouped? Char.isDigit ds).map (e :: ·)
  match fraction?, exponent? with
  | some [], some [] => none
  | some f, some e => some (f ++ e)
  | _, _ => none

/-- A positive infinity, or a negative one. -/
def infinity (negative : Bool) : Float :=
  if negative then -1.0 / 0.0 else 1.0 / 0.0

/-- Reads a floating-point number; none if it is out of range. -/
def float? (cs : List Char) : Option Float :=
  let (negative, unsigned) := Decimal.splitSign cs
  if unsigned = ['i', 'n', 'f'] then some (infinity negative)
  else if unsigned = ['n', 'a', 'n'] then some (0.0 / 0.0)
  else
    let isWhole := fun c => Char.isDigit c || c = '_'
    match plainDigits? (unsigned.takeWhile isWhole),
      fractionAndExponent? (unsigned.dropWhile isWhole) with
    | some whole, some rest =>
      Decimal.number? ((if negative then ['-'] else []) ++ whole ++ rest)
    | _, _ => none

/-! ## Dates and times -/

/-- The number that exactly `width` digits at the front of a text denote, and the rest. -/
def fixed? (width : Nat) (cs : List Char) : Option (Nat × List Char) :=
  let ds := cs.take width
  if ds.length = width ∧ ds.all Char.isDigit then some (valueOf ds, cs.drop width) else none

/-- The number of exactly two digits behind a character. -/
def twoBehind? (c : Char) : List Char → Option (Nat × List Char)
  | [] => none
  | d :: cs => if d = c then fixed? 2 cs else none

/-- The written form of a date at the front of a text, and the rest. -/
def date? (cs : List Char) : Option (List Char × List Char) := do
  let (year, rest) ← fixed? 4 cs
  let (month, rest) ← twoBehind? '-' rest
  let (day, rest) ← twoBehind? '-' rest
  if Calendar.Date.IsReal ⟨year, month, day⟩ then some (cs.take 10, rest) else none

/-- The fraction of a second, up to its ninth digit and without closing zeros but for one that
stands alone. -/
def fractionChars (ds : List Char) : List Char :=
  match ((ds.take 9).reverse.dropWhile (· = '0')).reverse with
  | [] => ['.', '0']
  | ds => '.' :: ds

/-- The written form of the seconds at the front of a text, and the rest. They may be left out. -/
def seconds? (cs : List Char) : Option (List Char × List Char) :=
  match cs with
  | ':' :: _ => do
    let (second, rest) ← twoBehind? ':' cs
    if 60 < second then none
    else
      match rest with
      | '.' :: after =>
        let ds := after.takeWhile Char.isDigit
        if ds = [] then none
        else some (':' :: paddedDigits 2 second ++ fractionChars ds, after.dropWhile Char.isDigit)
      | _ => some (':' :: paddedDigits 2 second, rest)
  | _ => some ([], cs)

/-- The written form of a time at the front of a text, and the rest. -/
def time? (cs : List Char) : Option (List Char × List Char) := do
  let (hour, rest) ← fixed? 2 cs
  let (minute, rest) ← twoBehind? ':' rest
  let (seconds, rest) ← seconds? rest
  if hour ≤ 23 ∧ minute ≤ 59 then
    some (paddedDigits 2 hour ++ ':' :: paddedDigits 2 minute ++ seconds, rest)
  else none

/-- The written form of an offset from universal time, which makes up a whole text. -/
def offset? (cs : List Char) : Option (List Char) :=
  match cs with
  | [] => some []
  | ['Z'] => some ['Z']
  | ['z'] => some ['Z']
  | sign :: rest =>
    if sign = '+' ∨ sign = '-' then
      match fixed? 2 rest with
      | none => none
      | some (hours, rest) =>
        match twoBehind? ':' rest with
        | some (minutes, []) =>
          if hours ≤ 23 ∧ minutes ≤ 59 then
            let sign := if hours = 0 ∧ minutes = 0 then '+' else sign
            some (sign :: paddedDigits 2 hours ++ ':' :: paddedDigits 2 minutes)
          else none
        | _ => none
    else none

/-- The text of a date, a time, or both, which makes up a whole text. -/
def dateTime? (cs : List Char) : Option (List Char) :=
  match date? cs with
  | some (date, []) => some date
  | some (date, sep :: rest) =>
    if sep = 'T' ∨ sep = 't' ∨ sep = ' ' then do
      let (time, rest) ← time? rest
      let offset ← offset? rest
      some (date ++ 'T' :: time ++ offset)
    else none
  | none =>
    match time? cs with
    | some (time, []) => some time
    | _ => none

/-! ## Any scalar -/

/-- A character of a scalar. -/
def isScalarChar (c : Char) : Bool :=
  c.isAlphanum || c = '+' || c = '-' || c = '_' || c = '.' || c = ':'

/-- The characters of the scalar at the front of a text, and the rest. A blank in it may stand
between a date and a time. -/
def splitScalar (cs : List Char) : List Char × List Char :=
  let token := cs.takeWhile isScalarChar
  match date? token, cs.dropWhile isScalarChar with
  | some (_, []), ' ' :: c :: rest =>
    if c.isDigit then
      (token ++ ' ' :: c :: rest.takeWhile isScalarChar, rest.dropWhile isScalarChar)
    else (token, ' ' :: c :: rest)
  | _, rest => (token, rest)

/-- The value of the characters of a scalar. -/
def scalar? (cs : List Char) : Option Json :=
  if cs = "true".toList then some (.bool true)
  else if cs = "false".toList then some (.bool false)
  else
    match dateTime? cs, integer? cs, float? cs with
    | some text, _, _ => some (.str (String.ofList text))
    | none, some i, _ => some (.int i)
    | none, none, some x => some (.float x)
    | none, none, none => none

end AccessPolicy.Toml
