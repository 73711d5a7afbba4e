import AccessPolicy.Calendar.Written
import AccessPolicy.Decimal.Shortest
import AccessPolicy.Json.Basic
import AccessPolicy.Json.Printer
import AccessPolicy.Net.Network

/-!
# Typed values

The values that conditions compare and parameters hold: those of JSON, and besides them internet
addresses, networks, instants, and literals that could not be read. `ofJson` and `toJson` convert
between the two, `text?` gives the text of a scalar, and `number?` its number.
-/

namespace AccessPolicy

/-- A typed value. -/
inductive Value where
  | null
  | bool (b : Bool)
  | int (i : Int)
  | float (x : Float)
  | str (s : String)
  | arr (items : List Value)
  | obj (fields : List (String × Value))
  | address (a : Net.Address)
  | instant (t : Calendar.Instant)
  /-- A network; it stands for every address in it. -/
  | network (n : Net.Network)
  /-- A literal that could not be read. -/
  | invalid (raw : String)
  deriving Inhabited

namespace Value

/-- Numbers are written positionally, without a point if they are whole; of two equally near
decimals the larger one is taken. -/
def numberLayout : Decimal.Layout :=
  ⟨.up, none, false⟩

/-- The value of a JSON integer. One that does not fit a signed word becomes the nearest
floating-point number. -/
def ofInt (i : Int) : Value :=
  if Decimal.FitsInt64 i then .int i else .float (Decimal.ofInteger i)

mutual

/-- The value of a JSON value, strings being taken as they are. -/
def ofJson : Json → Value
  | .null => .null
  | .bool b => .bool b
  | .int i => ofInt i
  | .float x => .float x
  | .str s => .str s
  | .arr items => .arr (ofItems items)
  | .obj fields => .obj (ofFields fields)

/-- The values of the elements of an array. -/
def ofItems : List Json → List Value
  | [] => []
  | v :: vs => ofJson v :: ofItems vs

/-- The values of the fields of an object. -/
def ofFields : List (String × Json) → List (String × Value)
  | [] => []
  | (k, v) :: fs => (k, ofJson v) :: ofFields fs

end

mutual

/-- The JSON form of a value. Addresses, networks and instants become strings, and what has no JSON
form becomes null. -/
def toJson : Value → Json
  | .null => .null
  | .bool b => .bool b
  | .int i => .int i
  | .float x => if Decimal.isFinite x then .float x else .null
  | .str s => .str s
  | .arr items => .arr (toItems items)
  | .obj fields => .obj (toFields fields)
  | .address a => .str a.text
  | .instant t => .str (Calendar.internetText t)
  | .network n => .str n.text
  | .invalid _ => .null

/-- The JSON forms of the elements of an array. -/
def toItems : List Value → List Json
  | [] => []
  | v :: vs => v.toJson :: toItems vs

/-- The JSON forms of the fields of an object. -/
def toFields : List (String × Value) → List (String × Json)
  | [] => []
  | (k, v) :: fs => (k, v.toJson) :: toFields fs

end

/-- The text of a scalar; arrays and objects have none. -/
def text? : Value → Option String
  | .null => some ""
  | .bool b => some (if b then "true" else "false")
  | .int i => some (Decimal.intText i)
  | .float x => some (numberLayout.write x)
  | .str s => some s
  | .arr _ => none
  | .obj _ => none
  | .address a => some a.text
  | .instant t => some (Calendar.internetText t)
  | .network n => some n.text
  | .invalid _ => some ""

/-- Whether a value is null. -/
def isNull : Value → Bool
  | .null => true
  | _ => false

end Value

end AccessPolicy
