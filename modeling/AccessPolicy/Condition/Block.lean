import AccessPolicy.Condition.Operator
import AccessPolicy.Json.Printer

/-!
# Condition blocks

A condition is written as an object whose fields are groups, each under the name of an operator. A
group holds one set of pairs or a list of them, and a set is an object whose fields are the pairs:
the name of a field is the left operand, its value the right one. In a block and in a set, the field
`operator`, in any case, is no group or pair but says how these are taken together.

`Block.ofJson?` reads a block. It reads every object, so a group under an unknown name or a set that
is no object stays in the block, for evaluation to refuse.
-/

namespace AccessPolicy.Condition

/-- A set of pairs of operands. -/
structure PairSet where
  combinator : Combinator
  pairs : List (Json × Json)

/-- The sets of pairs under one operator. -/
structure Group where
  name : String
  /-- The sets of the group, all of which have to hold; none stands for one that is no object. -/
  sets : List (Option PairSet)

/-- A condition block. -/
structure Block where
  combinator : Combinator
  groups : List Group

/-- The operator of a group; none if there is none of its name. -/
def Group.operator? (g : Group) : Option Operator :=
  Operator.ofName? g.name

/-- Whether a field says how its neighbours are taken together. -/
def isCombinatorName (name : String) : Bool :=
  Text.sameIgnoringCase name "operator"

/-- The combinator that a value names; the usual one if it names none. -/
def combinatorOf (usual : Combinator) (v : Json) : Combinator :=
  (v.str?.bind Combinator.ofText?).getD usual

/-- The combinator that the fields of an object name. The last field that can name one counts. -/
def combinatorAmong (usual : Combinator) (fields : Json.Fields) : Combinator :=
  fields.foldl (fun c e => if isCombinatorName e.1 then combinatorOf usual e.2 else c) usual

/-- The fields that do not name a combinator. -/
def members (fields : Json.Fields) : Json.Fields :=
  fields.filter fun e => !isCombinatorName e.1

/-- The left operand that the name of a field stands for. The decimal text of an integer stands for
the integer, and every other name for itself. -/
def leftOperand (name : String) : Json :=
  match Decimal.int64? name.toList with
  | some i => if Decimal.intText i = name then .int i else .str name
  | none => .str name

namespace PairSet

/-- The set of an object. A single pair that holds is enough, unless the set says otherwise. -/
def ofFields (fields : Json.Fields) : PairSet :=
  ⟨combinatorAmong .any fields, (members fields).map fun e => (leftOperand e.1, e.2)⟩

/-- The set of a value; none if it is no object. -/
def ofJson? (v : Json) : Option PairSet :=
  v.fields?.map ofFields

end PairSet

/-- The group under a name. -/
def Group.ofJson (name : String) : Json → Group
  | .arr items => ⟨name, items.map PairSet.ofJson?⟩
  | v => ⟨name, [PairSet.ofJson? v]⟩

namespace Block

/-- The block of an object. All groups have to hold, unless the block says otherwise. -/
def ofFields (fields : Json.Fields) : Block :=
  ⟨combinatorAmong .all fields, (members fields).map fun e => Group.ofJson e.1 e.2⟩

/-- The block of a value; none if it is no object. -/
def ofJson? (v : Json) : Option Block :=
  v.fields?.map ofFields

end Block

end AccessPolicy.Condition
