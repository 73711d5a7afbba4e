import AccessPolicy.Condition.Block
import AccessPolicy.Marker.Resolver
import AccessPolicy.Value.Literal

/-!
# Conditions

A condition stays the JSON value it was written as, since its operands may hold markers whose values
are known only when it is asked for. Each operand then goes through the resolver and is read as a
literal, and the pairs, sets and groups are evaluated (`Condition.holds`). What cannot be understood
does not hold: a condition that is no object, and one with a group under an unknown name.
-/

namespace AccessPolicy

/-- A condition as written. -/
abbrev Condition := Json

namespace Condition

open Marker (Resolver)

/-- The value of an operand. -/
def operand (r : Resolver) (args : Args) (raw : Json) : Value :=
  .ofLiterals (r.resolveAll args raw)

/-- The values of the operands of a set. -/
def PairSet.values (set : PairSet) (r : Resolver) (args : Args) : List (Value × Value) :=
  set.pairs.map fun p => (operand r args p.1, operand r args p.2)

/-- Whether an operator holds of a set; never if the set is no object. -/
def setHolds (r : Resolver) (args : Args) (op : Operator) : Option PairSet → Bool
  | some set => op.holds set.combinator (set.values r args)
  | none => false

/-- Whether a group holds: it has sets, and its operator holds of each of them. -/
def Group.holds (g : Group) (r : Resolver) (args : Args) : Bool :=
  match g.operator? with
  | some op => !g.sets.isEmpty && g.sets.all (setHolds r args op)
  | none => false

/-- Whether a block holds. One without groups does, and one with an unknown operator does not. -/
def Block.holds (b : Block) (r : Resolver) (args : Args) : Bool :=
  b.groups.isEmpty ||
    b.groups.all (fun g => g.operator?.isSome) &&
      b.combinator.fold (b.groups.map fun g => g.holds r args)

/-- Whether a condition holds. -/
def holds (r : Resolver) (args : Args) (condition : Condition) : Bool :=
  match Block.ofJson? condition with
  | some b => b.holds r args
  | none => false

/-- Whether a condition is a block without groups, and so holds always. -/
def isEmpty (condition : Condition) : Bool :=
  match Block.ofJson? condition with
  | some b => b.groups.isEmpty
  | none => false

/-- A condition without blocks always holds. -/
theorem holds_of_isEmpty (r : Resolver) (args : Args) {condition : Condition}
    (h : condition.isEmpty) : condition.holds r args := by
  unfold isEmpty at h
  unfold holds Block.holds
  split at h <;> simp_all

end Condition

end AccessPolicy
