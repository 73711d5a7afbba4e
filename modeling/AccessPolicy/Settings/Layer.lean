import AccessPolicy.Decimal.Numeral
import AccessPolicy.Json.Basic
import AccessPolicy.Table.Basic
import AccessPolicy.Text.Cut
import AccessPolicy.Text.LowerCase

/-!
# Layers of settings

Settings are gathered from several layers, each a list of values under keys. A key may lead into
tables and arrays, as in `logging.level` or `constants.hosts[0]`; what is missing on the way is
made, and what is of another kind is replaced. A table is laid over another one field by field, and
any other value takes the place of what was there.

A variable of the environment whose name begins with `LATCH__`, in any case, is a setting. The rest
of its name is its key, two underscores standing for a dot, and its value is a truth value, a number
or a text, whichever it can be read as first.
-/

namespace AccessPolicy.Settings

/-- A step of a key. -/
inductive Step where
  | field (name : String)
  /-- The place in an array; negative places are counted from its end. -/
  | index (i : Int)
  deriving DecidableEq

/-- A character of a name in a key. -/
def isKeyChar (c : Char) : Bool :=
  c.isAlphanum || c = '_' || c = '-'

/-- A character that may stand around the number in brackets. -/
def isSpace (c : Char) : Bool :=
  c = ' ' || c = '\t'

/-- The name at the front of a text, and the rest. -/
def name? (cs : List Char) : Option (String × List Char) :=
  let name := cs.takeWhile isKeyChar
  if name = [] then none else some (String.ofList name, cs.dropWhile isKeyChar)

/-- The steps behind the first name of a key: names behind dots, and places in brackets. -/
def steps? : (bound : Nat) → List Char → Option (List Step)
  | _, [] => some []
  | 0, _ => none
  | bound + 1, '.' :: cs => do
    let (name, rest) ← name? cs
    let steps ← steps? bound rest
    return .field name :: steps
  | bound + 1, '[' :: cs =>
    match Text.cut ']' cs with
    | (inside, some rest) => do
      let inside := (inside.dropWhile isSpace).reverse.dropWhile isSpace |>.reverse
      let i ← if inside.head? = some '+' then none else Decimal.int64? inside
      let steps ← steps? bound rest
      return .index i :: steps
    | _ => none
  | _, _ => none

/-- The steps of a key. A text that is not of the form of a key is taken as the name of one field.
-/
def keySteps (key : String) : String × List Step :=
  let read := do
    let (name, rest) ← name? key.toList
    let steps ← steps? rest.length rest
    return (name, steps)
  read.getD (key, [])

/-- The fields of a value, which is taken to be empty if it is no table. -/
def tableOf : Json → Json.Fields
  | .obj fields => fields
  | _ => []

/-- The elements of a value, which is taken to be empty if it is no array. -/
def elementsOf : Json → List Json
  | .arr items => items
  | _ => []

mutual

/-- A value laid over another one. -/
def overlay (under : Json) : Json → Json
  | .obj fields => .obj (overlayFields (tableOf under) fields)
  | v => v

/-- Fields laid over others. -/
def overlayFields (under : Json.Fields) : List (String × Json) → Json.Fields
  | [] => under
  | (k, v) :: fs =>
    overlayFields (Entries.insert under k (overlay ((Entries.get? under k).getD .null) v)) fs

end

/-- The elements with the one at a place changed. Elements that are missing before it are null; a
negative place beyond the front of the array makes room there. -/
def changeAt (f : Json → Json) (i : Int) (items : List Json) : List Json :=
  if 0 ≤ i then
    let n := i.toNat
    let items := items ++ List.replicate (n + 1 - items.length) Json.null
    items.modify n f
  else
    let n := i.natAbs
    if n ≤ items.length then items.modify (items.length - n) f
    else (List.replicate (n - items.length) Json.null ++ items).modify 0 f

/-- The value with the part that some steps lead to changed. -/
def changePart (f : Json → Json) : List Step → Json → Json
  | [], v => f v
  | .field name :: steps, v =>
    let fields := tableOf v
    .obj (Entries.insert fields name (changePart f steps ((Entries.get? fields name).getD .null)))
  | .index i :: steps, v => .arr (changeAt (changePart f steps) i (elementsOf v))

/-- The settings with a value under a key. -/
def put (settings : Json.Fields) (key : String) (v : Json) : Json.Fields :=
  let (name, steps) := keySteps key
  let part := (Entries.get? settings name).getD .null
  Entries.insert settings name (changePart (fun under => overlay under v) steps part)

/-- The settings with a layer over them. -/
def addLayer (settings : Json.Fields) (layer : List (String × Json)) : Json.Fields :=
  layer.foldl (fun settings e => put settings e.1 e.2) settings

/-- The settings of some layers, the last one uppermost. -/
def ofLayers (layers : List (List (String × Json))) : Json.Fields :=
  layers.foldl addLayer []

/-! ## Variables -/

/-- What the name of a variable begins with, in lower case. -/
def variableStart : List Char :=
  "latch__".toList

/-- The text with a dot in place of every two underscores. -/
def dotted : List Char → List Char
  | '_' :: '_' :: cs => '.' :: dotted cs
  | c :: cs => c :: dotted cs
  | [] => []

/-- The key of a variable; none if it is not a setting. -/
def variableKey? (name : String) : Option String :=
  (variableStart.isPrefixOf? (Text.lowercase name).toList).map fun rest =>
    String.ofList (dotted rest)

/-- The number that a text denotes. One that is out of range is infinite, and there are words for an
infinite number and for none. -/
def variableNumber? (s : String) : Option Float :=
  let (negative, unsigned) := Decimal.splitSign s.toList
  let infinity : Float := if negative then -1.0 / 0.0 else 1.0 / 0.0
  match String.ofList (unsigned.map Char.toLower) with
  | "inf" => some infinity
  | "infinity" => some infinity
  | "nan" => some (0.0 / 0.0)
  | _ =>
    match Decimal.Numeral.split s.toList with
    | some (n, []) => some (n.toFloat?.getD infinity)
    | _ => none

/-- The value of a variable. -/
def variableValue (s : String) : Json :=
  match Text.lowercase s with
  | "true" => .bool true
  | "false" => .bool false
  | _ =>
    match Decimal.int64? s.toList, variableNumber? s with
    | some i, _ => .int i
    | none, some x => .float x
    | none, none => .str s

/-- The settings that variables hold. Of variables with one key the last one counts. -/
def ofVariables (environment : Table String) : List (String × Json) :=
  Entries.ofPairs (environment.entries.filterMap fun e =>
    (variableKey? e.1).map fun key => (key, variableValue e.2))

end AccessPolicy.Settings
