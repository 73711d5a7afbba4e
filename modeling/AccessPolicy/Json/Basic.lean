import AccessPolicy.Decimal.Integer
import AccessPolicy.Decimal.Rounding
import AccessPolicy.Table.Entries
import AccessPolicy.Text.Cut

/-!
# JSON values

The values of JSON. A number written without a point or an exponent is an integer if it fits a
64-bit word, signed or not; every other number is a floating-point number, so `1` and `1.0` are
different values. The fields of an object are kept in the order of their names.

A path such as `post.tags.0` names a part of a value: each segment between dots is the name of a
field or the index of an element. The empty path names the value itself.
-/

namespace AccessPolicy

/-- A JSON value. -/
inductive Json where
  | null
  | bool (b : Bool)
  | int (i : Int)
  | float (x : Float)
  | str (s : String)
  | arr (items : List Json)
  | obj (fields : List (String × Json))
  deriving Inhabited, BEq

namespace Json

/-- The fields of an object. -/
abbrev Fields := Entries Json

/-- The object with the given fields, in any order; of fields with one name the last one counts. -/
def ofPairs (pairs : List (String × Json)) : Json :=
  .obj (Entries.ofPairs pairs)

/-- The field of an object under a name. -/
def field? : Json → String → Option Json
  | .obj fields, k => Entries.get? fields k
  | _, _ => none

/-- The text of a string. -/
def str? : Json → Option String
  | .str s => some s
  | _ => none

/-- The fields of an object. -/
def fields? : Json → Option Fields
  | .obj fields => some fields
  | _ => none

/-- Whether a value is null. -/
def isNull : Json → Bool
  | .null => true
  | _ => false

/-- The floating-point number that a number is or is nearest to. -/
def number? : Json → Option Float
  | .int i => some (Decimal.ofInteger i)
  | .float x => some x
  | _ => none

/-! ## Paths -/

/-- The part of a value that one segment names. -/
def segment? : Json → List Char → Option Json
  | .obj fields, name => Entries.get? fields (String.ofList name)
  | .arr items, index => (Decimal.signedNat? index).bind fun i => items[i]?
  | _, _ => none

/-- The part of a value that the segments name, one after the other. -/
def descend? (root : Json) (segments : List (List Char)) : Option Json :=
  segments.foldlM segment? root

/-- The part of a value that a path names. -/
def at? (root : Json) (path : List Char) : Option Json :=
  if path = [] then some root else root.descend? (Text.pieces '.' path)

/-- The empty path leads to the root. -/
@[simp]
theorem at?_nil (root : Json) : root.at? [] = some root := rfl

end Json

end AccessPolicy
