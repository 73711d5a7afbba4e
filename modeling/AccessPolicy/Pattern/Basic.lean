import AccessPolicy.Pattern.Program
import AccessPolicy.Pattern.Reader
import AccessPolicy.Pattern.Size

/-!
# Patterns

The two kinds of patterns that a condition can test a text against: wildcard patterns (`like`), and
regular expressions, bare or between delimiters (`matches?`).

In a wildcard pattern an asterisk stands for any text, the empty one included, and every other
character for itself; the pattern has to cover the whole subject. `Covers` says what that means, and
`glob` decides it in time proportional to the product of the two lengths.

A regular expression may be written between two equal delimiters with flags behind the second one,
as in `/body/i`. The second delimiter is the last one in the text, so the body may hold it too.
-/

namespace AccessPolicy.Pattern

/-! ## Wildcard patterns -/

/-- Whether a subject is the pattern with each asterisk replaced by some text. -/
inductive Covers : List Char → List Char → Prop where
  | nil : Covers [] []
  | star {p u s : List Char} : Covers p s → Covers ('*' :: p) (u ++ s)
  | char {c : Char} {p s : List Char} : c ≠ '*' → Covers p s → Covers (c :: p) (c :: s)

/-- A text and everything that is left of it when characters are taken off its front. -/
def suffixes : List Char → List (List Char)
  | [] => [[]]
  | c :: cs => (c :: cs) :: suffixes cs

/-- The rest of a text behind a given first character. -/
def behind? (c : Char) : List Char → Option (List Char)
  | [] => none
  | d :: s => if d = c then some s else none

/-- What a pattern can leave of any of the texts `rests`, which are suffixes of the first one. -/
def leftOver : List Char → List (List Char) → List (List Char)
  | [], rests => rests
  | c :: p, rests =>
    if c = '*' then
      match rests with
      | [] => []
      | s :: _ => leftOver p (suffixes s)
    else leftOver p (rests.filterMap (behind? c))

/-- Whether a pattern covers a subject. -/
def glob (pattern subject : List Char) : Bool :=
  (leftOver pattern [subject]).contains []

example : glob "a*c*".toList "abcbc".toList = true := by decide
example : glob "a.c".toList "abc".toList = false := by decide

/-- The regular expression that covers what a wildcard pattern covers. -/
def wildcardRegex (pattern : List Char) : Regex :=
  let anything : Regex := .repetition (.chars (Text.Ranges.complement [])) 0 none true
  .sequence
    (.look .textStart :: pattern.map (fun c => if c = '*' then anything else .literal [c]) ++
      [.look .textEnd])

/-- The test that a wildcard pattern stands for; none if its regular expression is too large. -/
def wildcard? (pattern : String) : Option (String → Bool) :=
  if (wildcardRegex pattern.toList).fits then
    some fun subject => glob pattern.toList subject.toList
  else none

/-- Whether a text is covered by a wildcard pattern, which is not too large. -/
def like (pattern subject : String) : Bool :=
  (wildcard? pattern).any fun test => test subject

/-! ## Regular expressions -/

/-- The characters that can stand around a body. -/
def delimiters : List Char :=
  ['/', '#', '~', '@', '!', '%', '|', '+', ';']

/-- The text before and behind the last occurrence of a character. -/
def cutLast? (d : Char) : List Char → Option (List Char × List Char)
  | [] => none
  | c :: cs =>
    match cutLast? d cs with
    | some (head, tail) => some (c :: head, tail)
    | none => if c = d then some ([], cs) else none

/-- The body and the flags of a text that is a delimited pattern. -/
def delimited? : List Char → Option (List Char × List Char)
  | [] => none
  | d :: rest =>
    if delimiters.contains d then
      match cutLast? d rest with
      | some (body, flags) => if flags.all Char.isAlpha then some (body, flags) else none
      | none => none
    else none

/-- The flags that letters behind a delimited pattern set. Other letters mean nothing. -/
def flagsOf (letters : List Char) : Flags where
  ignoreCase := letters.contains 'i'
  multiLine := letters.contains 'm'
  dotAll := letters.contains 's'
  spaced := letters.contains 'x'

/-- The body and the flag letters of a pattern; one without delimiters is all body. -/
def bodyAndFlags (pattern : List Char) : List Char × List Char :=
  (delimited? pattern).getD (pattern, [])

/-- The regular expression of a pattern; none if it is not one, or too large. -/
def compile? (pattern : String) : Option Regex :=
  let (body, letters) := bodyAndFlags pattern.toList
  (Regex.ofChars? (flagsOf letters) body).filter Regex.fits

/-- Whether a regular expression matches a part of a text; none if the pattern is not one. -/
def matches? (pattern subject : String) : Option Bool :=
  (compile? pattern).map fun r => r.search subject.toList

example : matches? "/^a+B$/i" "aaAb" = some true := by decide +kernel
example : matches? "(" "(" = none := by decide +kernel
example : like "a*c" "abc" = true := by decide +kernel

end AccessPolicy.Pattern
