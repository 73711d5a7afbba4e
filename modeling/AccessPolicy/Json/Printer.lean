import AccessPolicy.Decimal.Shortest
import AccessPolicy.Json.Basic

/-!
# JSON text

The compact text of a JSON value: no blanks, fields in the order of their names, and in strings only
those characters escaped that have to be.
-/

namespace AccessPolicy.Json

open Decimal (Layout)

/-- Numbers keep a point or an exponent. The exponents -5 to 15 are written positionally, and of two
equally near decimals the even one is taken. -/
def numberLayout : Layout :=
  ⟨.toEven, some (-5, 15), true⟩

/-- The text of a floating-point number; only finite numbers have one. -/
def floatText (x : Float) : String :=
  if Decimal.isFinite x then numberLayout.write x else "null"

/-- The characters that a character is written as within a string. -/
def escapedChar (c : Char) : List Char :=
  if c = '"' then ['\\', '"']
  else if c = '\\' then ['\\', '\\']
  else if c = '\x08' then ['\\', 'b']
  else if c = '\x0c' then ['\\', 'f']
  else if c = '\n' then ['\\', 'n']
  else if c = '\r' then ['\\', 'r']
  else if c = '\t' then ['\\', 't']
  else if c.toNat < 0x20 then
    ['\\', 'u'] ++ Decimal.padLeft 4 '0' (Nat.toDigits 16 c.toNat)
  else [c]

/-- A string between double quotes. -/
def stringText (s : String) : String :=
  String.ofList ('"' :: (s.toList.flatMap escapedChar ++ ['"']))

mutual

/-- The compact text of a value. -/
def text : Json → String
  | .null => "null"
  | .bool b => if b then "true" else "false"
  | .int i => Decimal.intText i
  | .float x => floatText x
  | .str s => stringText s
  | .arr items => "[" ++ String.intercalate "," (itemTexts items) ++ "]"
  | .obj fields => "\x7b" ++ String.intercalate "," (fieldTexts fields) ++ "\x7d"

/-- The texts of the values of an array. -/
def itemTexts : List Json → List String
  | [] => []
  | v :: vs => v.text :: itemTexts vs

/-- The texts of the fields of an object, each behind its name. -/
def fieldTexts : List (String × Json) → List String
  | [] => []
  | (k, v) :: fs => (stringText k ++ ":" ++ v.text) :: fieldTexts fs

end

end AccessPolicy.Json
