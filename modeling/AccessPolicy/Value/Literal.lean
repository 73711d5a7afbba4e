import AccessPolicy.Calendar.Reader
import AccessPolicy.Decimal.Numeral
import AccessPolicy.Json.Parser
import AccessPolicy.Text.Character
import AccessPolicy.Value.Basic

/-!
# Literals

A string may carry a type in front, as in `(*int)42`, and then stands for a value of that type
(`Value.ofLiteral`). `Literal.read?` says what is wrong with a literal that cannot be read;
`ofLiteral` puts a harmless value in its place. `Value.literal` writes a value as such a string.
-/

namespace AccessPolicy

namespace Literal

/-- Why the text behind a type is not a value of that type. -/
inductive Error where
  | address (text : String)
  | network (text : String)
  | date (text : String)
  | array (text : String)
  deriving DecidableEq

/-- The message of an error; that of an array gives a reason too. -/
def Error.message (reason : String) : Error → String
  | .address text => "'" ++ text ++ "' is not a valid IP address"
  | .network text => "'" ++ text ++ "' is not a valid IP range"
  | .date text => "'" ++ text ++ "' is not a recognizable date"
  | .array text => "'" ++ text ++ "' is not a JSON array: " ++ reason

/-- A character of the name of a type. -/
def isTypeChar (c : Char) : Bool :=
  c.isAlpha || c = '_' || c = '-'

/-- The name of the type in front of a text, and the text behind it. -/
def split? : List Char → Option (List Char × List Char)
  | '(' :: '*' :: cs =>
    let name := cs.takeWhile isTypeChar
    match name, cs.dropWhile isTypeChar with
    | [], _ => none
    | _, ')' :: rest => some (name, rest)
    | _, _ => none
  | _ => none

/-- The types that a literal can name. -/
inductive Kind where
  | string
  | address
  | network
  | int
  | float
  | bool
  | array
  | null
  | date
  deriving DecidableEq

/-- The type of a name, in any case. -/
def Kind.ofName? (name : List Char) : Option Kind :=
  match String.ofList (name.map Char.toLower) with
  | "string" => some .string
  | "ip" => some .address
  | "iprange" => some .network
  | "cidr" => some .network
  | "int" => some .int
  | "float" => some .float
  | "bool" => some .bool
  | "boolean" => some .bool
  | "array" => some .array
  | "null" => some .null
  | "date" => some .date
  | _ => none

/-- The integer at the front of a text; zero if there is none. Of digits that do not fit a signed
word the sign alone counts: they stand for the least or the greatest value of the word. -/
def leadingInt (cs : List Char) : Int :=
  let (negative, unsigned) := Decimal.splitSign (Text.trimStart cs)
  let ds := unsigned.takeWhile Char.isDigit
  if ds = [] then 0
  else
    match Decimal.int64? ds with
    | some n => if negative then -n else n
    | none => if negative then Decimal.minInt64 else Decimal.maxInt64

/-- The digits behind a letter `e` and an optional sign, together with these; empty if there are no
digits. -/
def exponentPrefix : List Char → List Char
  | [] => []
  | e :: cs =>
    if e = 'e' ∨ e = 'E' then
      let (sign, ds) :=
        match cs with
        | '+' :: rest => (['+'], rest.takeWhile Text.isDigit)
        | '-' :: rest => (['-'], rest.takeWhile Text.isDigit)
        | rest => ([], rest.takeWhile Text.isDigit)
      if ds = [] then [] else e :: sign ++ ds
    else []

/-- The longest beginning of a text that has the form of a numeral, in digits of any script. -/
def numeralPrefix (cs : List Char) : List Char :=
  let (sign, unsigned) :=
    match cs with
    | '+' :: rest => (['+'], rest)
    | '-' :: rest => (['-'], rest)
    | rest => ([], rest)
  let whole := unsigned.takeWhile Text.isDigit
  let (fraction, rest) :=
    match unsigned.dropWhile Text.isDigit with
    | '.' :: rest => ('.' :: rest.takeWhile Text.isDigit, rest.dropWhile Text.isDigit)
    | rest => ([], rest)
  if whole = [] ∧ fraction.length ≤ 1 then []
  else sign ++ whole ++ fraction ++ exponentPrefix rest

/-- The number at the front of a text; zero if there is none, if it is out of range, or if it has
digits that are not ASCII. -/
def leadingFloat (cs : List Char) : Float :=
  (Decimal.number? (numeralPrefix (Text.trimStart cs))).getD 0.0

/-- The words for true. -/
def truthWords : List String :=
  ["true", "1", "on", "yes"]

/-- Whether a text is one of the words for true, in any case and between any blanks. -/
def isTrue (cs : List Char) : Bool :=
  truthWords.contains (Text.asciiLower (String.ofList (Text.trim cs)))

/-- Reads a network, without regard to blanks on either side. -/
def network? (cs : List Char) : Except Error Value :=
  match Net.Network.ofChars? (Text.trim cs) with
  | some n => .ok (.network n)
  | none => .error (.network (String.ofList cs))

/-- Reads an address or, where there is a slash, a network. -/
def address? (cs : List Char) : Except Error Value :=
  if cs.contains '/' then network? cs
  else
    match Net.Address.ofChars? (Text.trim cs) with
    | some a => .ok (.address a)
    | none => .error (.address (String.ofList cs))

/-- Reads a JSON text. A scalar becomes an array of one element. -/
def array? (cs : List Char) : Except Error Value :=
  match Json.parse? (String.ofList cs) with
  | none => .error (.array (String.ofList cs))
  | some (.arr items) => .ok (.ofJson (.arr items))
  | some (.obj fields) => .ok (.ofJson (.obj fields))
  | some scalar => .ok (.arr [.ofJson scalar])

/-- Reads an instant. -/
def date? (cs : List Char) : Except Error Value :=
  match Calendar.instant? (String.ofList cs) with
  | some t => .ok (.instant t)
  | none => .error (.date (String.ofList cs))

/-- Reads the text behind a type. -/
def readAs (cs : List Char) : Kind → Except Error Value
  | .string => .ok (.str (String.ofList cs))
  | .address => address? cs
  | .network => network? cs
  | .int => .ok (.int (leadingInt cs))
  | .float => .ok (.float (leadingFloat cs))
  | .bool => .ok (.bool (isTrue cs))
  | .array => array? cs
  | .null =>
    if cs = [] ∨ Text.sameIgnoringCase (String.ofList cs) "null" then .ok .null
    else .ok (.str (String.ofList cs))
  | .date => date? cs

/-- Reads a literal. A text without a type, or with an unknown one, stands for itself. -/
def read? (raw : String) : Except Error Value :=
  match split? raw.toList with
  | none => .ok (.str raw)
  | some (name, rest) =>
    match Kind.ofName? name with
    | none => .ok (.str raw)
    | some kind => readAs rest kind

/-- Whether a text carries a type in front, known or not. -/
def hasType (raw : String) : Bool :=
  (split? raw.toList).isSome

/-- What stands in for a literal that cannot be read. -/
def substitute (raw : String) : Error → Value
  | .address _ => .invalid raw
  | .network _ => .invalid raw
  | .date _ => .null
  | .array _ => .arr []

end Literal

namespace Value

/-- The value of a literal. -/
def ofLiteral (raw : String) : Value :=
  match Literal.read? raw with
  | .ok v => v
  | .error e => Literal.substitute raw e

mutual

/-- The value of a JSON value, strings being read as literals at any depth. -/
def ofLiterals : Json → Value
  | .str s => ofLiteral s
  | .arr items => .arr (ofLiteralItems items)
  | .obj fields => .obj (ofLiteralFields fields)
  | .null => .null
  | .bool b => .bool b
  | .int i => ofInt i
  | .float x => .float x

/-- The values of the elements of an array. -/
def ofLiteralItems : List Json → List Value
  | [] => []
  | v :: vs => ofLiterals v :: ofLiteralItems vs

/-- The values of the fields of an object. -/
def ofLiteralFields : List (String × Json) → List (String × Value)
  | [] => []
  | (k, v) :: fs => (k, ofLiterals v) :: ofLiteralFields fs

end

/-- The written form of an instant in a literal. Years that the internet format does not cover are
given by their seconds. -/
def instantLiteral (t : Calendar.Instant) : String :=
  let year := t.date.year
  if 0 ≤ year ∧ year ≤ 9999 then "(*date)" ++ Calendar.internetText t
  else "(*date)@" ++ Decimal.intText t.secs

/-- The literal of a value. -/
def literal (v : Value) : String :=
  match v with
  | .null => "(*null)"
  | .bool b => "(*bool)" ++ (if b then "true" else "false")
  | .int i => "(*int)" ++ Decimal.intText i
  | .float x => "(*float)" ++ numberLayout.write x
  | .str s => "(*string)" ++ s
  | .arr _ => "(*array)" ++ v.toJson.text
  | .obj _ => "(*array)" ++ v.toJson.text
  | .address a => "(*ip)" ++ a.text
  | .instant t => instantLiteral t
  | .network n => "(*ip)" ++ n.text
  | .invalid raw => raw

end Value

end AccessPolicy
