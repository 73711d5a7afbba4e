import AccessPolicy.Pattern.Property.Age
import AccessPolicy.Pattern.Property.Binary
import AccessPolicy.Pattern.Property.Break
import AccessPolicy.Pattern.Property.Category
import AccessPolicy.Pattern.Property.Script
import AccessPolicy.Pattern.Property.ScriptExtension

/-!
# Sets of characters with names

The sets that a pattern can name: digits, blanks and word characters by a letter, the classes of
ASCII, and the properties of Unicode, either by a name alone (`namedSet?`) or as the value of a
property (`valueSet?`).
-/

namespace AccessPolicy.Pattern

open Text (Ranges)

/-- The digits of ASCII. -/
def asciiDigits : Ranges := [(0x30, 0x39)]

/-- The blanks of ASCII. -/
def asciiBlanks : Ranges := [(0x9, 0xD), (0x20, 0x20)]

/-- The word characters of ASCII. -/
def asciiWord : Ranges := [(0x30, 0x39), (0x41, 0x5A), (0x5F, 0x5F), (0x61, 0x7A)]

/-- The set behind the letter `d`, `s` or `w`, of all characters or of ASCII. -/
def letterSet? (unicode : Bool) (c : Char) : Option Ranges :=
  match c with
  | 'd' => some (if unicode then Text.digitRanges else asciiDigits)
  | 's' => some (if unicode then Text.blankRanges else asciiBlanks)
  | 'w' => some (if unicode then Binary.word else asciiWord)
  | _ => none

/-- The classes of ASCII that go by a name between colons. -/
def asciiClass? (name : String) : Option Ranges :=
  match name with
  | "alnum" => some [(0x30, 0x39), (0x41, 0x5A), (0x61, 0x7A)]
  | "alpha" => some [(0x41, 0x5A), (0x61, 0x7A)]
  | "ascii" => some [(0x0, 0x7F)]
  | "blank" => some [(0x9, 0x9), (0x20, 0x20)]
  | "cntrl" => some [(0x0, 0x1F), (0x7F, 0x7F)]
  | "digit" => some asciiDigits
  | "graph" => some [(0x21, 0x7E)]
  | "lower" => some [(0x61, 0x7A)]
  | "print" => some [(0x20, 0x7E)]
  | "punct" => some [(0x21, 0x2F), (0x3A, 0x40), (0x5B, 0x60), (0x7B, 0x7E)]
  | "space" => some asciiBlanks
  | "upper" => some [(0x41, 0x5A)]
  | "word" => some asciiWord
  | "xdigit" => some [(0x30, 0x39), (0x41, 0x46), (0x61, 0x66)]
  | _ => none

/-- The form in which names of properties are compared: without the word `is` in front, and without
case, blanks, hyphens, low lines, and characters that are not ASCII. -/
def looseName (name : List Char) : String :=
  let keep (cs : List Char) : List Char :=
    cs.filter fun c => c.toNat < 0x80 && !(c = ' ' || c = '_' || c = '-')
  match name.map Char.toLower with
  -- The name `isc` is that of a property, not `is` in front of the category `c`.
  | 'i' :: 's' :: rest => if keep rest = ['c'] then "isc" else String.ofList (keep rest)
  | lower => String.ofList (keep lower)

/-- A general category or one of the sets that are named like one. -/
def categorySet? (name : String) : Option Ranges :=
  if name = "any" then some (Text.Ranges.complement [])
  else if name = "assigned" then some Category.unassigned.complement
  else if name = "ascii" then some [(0, 0x7F)]
  else category? name

/-- The set that a name alone stands for. Three short names stand for categories although they are
also names of properties. -/
def namedSet? (name : String) : Option Ranges :=
  let property :=
    if name = "cf" ∨ name = "sc" ∨ name = "lc" then none else binaryProperty? name
  property.or ((categorySet? name).or (script? name))

/-- The properties with several values, each by its names, and the sets behind the values. -/
def valuedProperties : List (List String × (String → Option Ranges)) := [
  (["generalcategory", "gc"], categorySet?),
  (["script", "sc"], script?),
  (["scriptextensions", "scx"], scriptExtension?),
  (["age"], age?),
  (["graphemeclusterbreak", "gcb"], Break.role? Break.graphemeRoles),
  (["wordbreak", "wb"], Break.role? Break.wordRoles),
  (["sentencebreak", "sb"], Break.role? Break.sentenceRoles)]

/-- The set that a property's value stands for. -/
def valueSet? (property value : String) : Option Ranges :=
  (valuedProperties.find? (·.1.contains property)).bind fun entry => entry.2 value

end AccessPolicy.Pattern
