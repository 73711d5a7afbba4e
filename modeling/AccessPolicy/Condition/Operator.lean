import AccessPolicy.Pattern.Basic
import AccessPolicy.Text.Character
import AccessPolicy.Value.Order

/-!
# Operators

The operators that a condition applies to pairs of values. Nine of them are relations of two values
(`Operator.relates`); the other three are the negations of relations. A negated operator holds of
some pairs exactly if its relation does not, the pairs being taken together first
(`Operator.holds`). How the results of several tests are taken together is up to a combinator: all
of them must hold, or any one of them.
-/

namespace AccessPolicy.Condition

/-! ## Combinators -/

/-- How several results are taken together. -/
inductive Combinator where
  | all
  | any
  deriving DecidableEq, Inhabited

namespace Combinator

/-- The word for a combinator. -/
def name : Combinator → String
  | .all => "AND"
  | .any => "OR"

/-- The combinator of a word, in any case and between any blanks. -/
def ofText? (s : String) : Option Combinator :=
  match Text.asciiUpper (Text.trimmed s) with
  | "AND" => some .all
  | "OR" => some .any
  | _ => none

/-- The results taken together. -/
def fold : Combinator → List Bool → Bool
  | .all, results => results.all id
  | .any, results => results.any id

/-- The combinator that negating every result turns this one into. -/
def dual : Combinator → Combinator
  | .all => .any
  | .any => .all

/-- The dual combinator over denied results denies the result: De Morgan's law for both
combinators. -/
theorem fold_dual (c : Combinator) (results : List Bool) :
    c.dual.fold (results.map not) = !c.fold results := by
  cases c with
  | all => simp [dual, fold, List.any_map, List.not_all_eq_any_not]
  | any => simp [dual, fold, List.all_map, List.not_any_eq_all_not]

/-- Over one result both combinators agree. -/
@[simp]
theorem fold_singleton (c : Combinator) (b : Bool) : c.fold [b] = b := by
  cases c <;> simp [fold]

end Combinator

/-! ## Operators -/

/-- An operator of a condition. -/
inductive Operator where
  | equals
  | notEquals
  | between
  | greater
  | less
  | greaterOrEquals
  | lessOrEquals
  | isIn
  | notIn
  | like
  | notLike
  | regEx
  deriving DecidableEq

/-! ## Relations of two values -/

/-- Whether a value is not below the first bound and not above the last one; with a single bound, it
has to be level with that. -/
def withinBounds (v : Value) : List Value → Bool
  | [] => false
  | low :: rest => v.atLeast low && v.atMost ((low :: rest).getLastD low)

/-- Whether a value lies in a range: a list of bounds, or a single bound. -/
def withinRange (v : Value) : Value → Bool
  | .arr bounds => withinBounds v bounds
  | bound => withinBounds v [bound]

/-- Whether a value lies in a range, or in one of the ranges of a list that begins with one. -/
def between (v : Value) : Value → Bool
  | .arr (.arr bounds :: ranges) => (.arr bounds :: ranges).any (withinRange v)
  | range => withinRange v range

/-- Whether a value is equal to an element of a list, or to a value that is no list. -/
def isMember (v : Value) : Value → Bool
  | .arr items => items.any v.equals
  | single => v.equals single

/-- Whether the text of a value is covered by the wildcard pattern that the text of another one
is. -/
def likeOne (subject : String) (pattern : Value) : Bool :=
  match pattern.text? with
  | some p => Pattern.like p subject
  | none => false

/-- Whether the text of a value is covered by a wildcard pattern, or by one of a list of them. -/
def isLike (v pattern : Value) : Bool :=
  match v.text?, pattern with
  | none, _ => false
  | some subject, .arr patterns => patterns.any (likeOne subject)
  | some subject, single => likeOne subject single

/-- Whether the text of a value is matched by a regular expression. -/
def isMatched (v pattern : Value) : Bool :=
  match v.text?, pattern.text? with
  | some subject, some p => (Pattern.matches? p subject).getD false
  | _, _ => false

namespace Operator

/-- The relation that an operator asserts or, if it is negated, denies. -/
def relates : Operator → Value → Value → Bool
  | .equals => Value.equals
  | .notEquals => Value.equals
  | .between => Condition.between
  | .greater => fun v w => v.order? w == some .gt
  | .less => fun v w => v.order? w == some .lt
  | .greaterOrEquals => Value.atLeast
  | .lessOrEquals => Value.atMost
  | .isIn => isMember
  | .notIn => isMember
  | .like => isLike
  | .notLike => isLike
  | .regEx => isMatched

/-- Whether an operator denies its relation. -/
def negated : Operator → Bool
  | .notEquals => true
  | .notIn => true
  | .notLike => true
  | _ => false

/-- Whether the relation of an operator holds of some pairs; never if there are none. -/
def affirms (op : Operator) (c : Combinator) (pairs : List (Value × Value)) : Bool :=
  !pairs.isEmpty && c.fold (pairs.map fun p => op.relates p.1 p.2)

/-- Whether an operator holds of some pairs. -/
def holds (op : Operator) (c : Combinator) (pairs : List (Value × Value)) : Bool :=
  op.affirms c pairs != op.negated

/-! ## Names -/

/-- All operators. -/
def all : List Operator :=
  [.equals, .notEquals, .between, .greater, .less, .greaterOrEquals, .lessOrEquals, .isIn, .notIn,
    .like, .notLike, .regEx]

/-- The name of an operator. -/
def name : Operator → String
  | .equals => "Equals"
  | .notEquals => "NotEquals"
  | .between => "Between"
  | .greater => "Greater"
  | .less => "Less"
  | .greaterOrEquals => "GreaterOrEquals"
  | .lessOrEquals => "LessOrEquals"
  | .isIn => "In"
  | .notIn => "NotIn"
  | .like => "Like"
  | .notLike => "NotLike"
  | .regEx => "RegEx"

/-- The operator of a name, in any case. -/
def ofName? (s : String) : Option Operator :=
  all.find? fun op => Text.sameIgnoringCase op.name s

/-- The list of operators is complete. -/
theorem mem_all (op : Operator) : op ∈ all := by
  cases op <;> decide

/-- An operator is found under its own name. -/
theorem ofName?_name (op : Operator) : ofName? op.name = some op := by
  cases op <;> decide

end Operator

end AccessPolicy.Condition
