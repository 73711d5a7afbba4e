import AccessPolicy.Marker.Segment
import AccessPolicy.Policy.Basic

/-!
# Questions that cannot be answered

A clock cannot write the date of a mail header in a year that such a date has no room for. A text
with a marker that asks for it cannot be resolved, and neither can a question be answered whose
answer takes such a text. The functions here tell whether that is so. Tests are made in order and
only until the answer is settled, so that a marker which is never reached does no harm. They tell it
of the evaluation that carries the error of the source along, from a token up to the whole answer
(`Policy.tryDecide_yields` and its like).
-/

namespace AccessPolicy

open Marker (Resolver)

/-- Whether tests in a row, each of which may fail or has a result, fail before one has the result
that settles the matter. -/
def failsBefore (settled : Bool) : List (Bool × Bool) → Bool
  | [] => false
  | (fails, result) :: rest => fails || (result != settled && failsBefore settled rest)

/-- Whether the answer to one of some tokens cannot be written. -/
def Marker.Resolver.failsAny (r : Resolver) (args : Args) (tokens : List (List Char)) : Bool :=
  tokens.any (r.fails args)

/-! ## Conditions -/

namespace Condition

/-- Whether the operands of a set cannot be resolved. -/
def setFails (r : Resolver) (args : Args) : Option PairSet → Bool
  | some set =>
    set.pairs.any fun p => r.failsAny args (Marker.tokensOf p.1 ++ Marker.tokensOf p.2)
  | none => false

/-- Whether it cannot be told if a group holds. -/
def Group.fails (g : Group) (r : Resolver) (args : Args) : Bool :=
  match g.operator? with
  | some op =>
    failsBefore false (g.sets.map fun set => (setFails r args set, setHolds r args op set))
  | none => false

/-- Whether it cannot be told if a block holds. -/
def Block.fails (b : Block) (r : Resolver) (args : Args) : Bool :=
  b.groups.all (fun g => g.operator?.isSome) &&
    failsBefore (b.combinator = .any) (b.groups.map fun g => (g.fails r args, g.holds r args))

/-- Whether it cannot be told if a condition holds. -/
def fails (r : Resolver) (args : Args) (condition : Condition) : Bool :=
  match Block.ofJson? condition with
  | some b => b.fails r args
  | none => false

end Condition

/-! ## Documents -/

/-- The tokens that the names of a resource depend on. -/
def Resource.tokens (raw : String) : List (List Char) :=
  match mapping? raw.toList with
  | some (template, expression) =>
    let ofExpression :=
      if Marker.hasMarker (String.ofList expression) then Marker.tokens (String.ofList expression)
      else [expression]
    ofExpression ++ Marker.tokens (String.ofList template)
  | none => Marker.tokens raw

/-- Whether a document cannot be compiled. -/
def Document.fails (d : Document) (r : Resolver) (args : Args) : Bool :=
  d.statements.any (fun s => s.resources.any fun raw => r.failsAny args (Resource.tokens raw)) ||
    d.params.any fun p => r.failsAny args (Marker.tokens p.key)

/-! ## Policies -/

namespace Value

mutual

/-- The tokens in the strings of a value. -/
def tokens : Value → List (List Char)
  | .str s => Marker.tokens s
  | .arr items => tokensOfItems items
  | .obj fields => tokensOfFields fields
  | _ => []

/-- The tokens in the elements of an array. -/
def tokensOfItems : List Value → List (List Char)
  | [] => []
  | v :: vs => tokens v ++ tokensOfItems vs

/-- The tokens in the values of the fields of an object. -/
def tokensOfFields : List (String × Value) → List (List Char)
  | [] => []
  | (_, v) :: fs => tokens v ++ tokensOfFields fs

end

end Value

namespace Policy

/-- Whether it cannot be told if an entry with a condition applies. -/
def conditionFails (p : Policy) (args : Args) (condition : Option Condition) : Bool :=
  condition.any fun c => c.fails p.resolver args

/-- Whether an entry cannot be given: it cannot be told if it applies, or it does, and some of its
tokens cannot be answered. -/
def entryFails (p : Policy) (args : Args) (condition : Option Condition)
    (tokens : List (List Char)) : Bool :=
  p.conditionFails args condition || (p.applies args condition && p.resolver.failsAny args tokens)

/-- Whether a decision cannot be made. -/
def decisionFails (p : Policy) (args : Args) (slot : String) : Bool :=
  (p.tree.statement? slot).any fun s => p.conditionFails args s.condition

/-- Whether a decision on an instance cannot be made. -/
def instanceFails (p : Policy) (args : Args) (category inst action : String) : Bool :=
  failsBefore true ((p.handlers.names category inst args).map fun name =>
    let slot := slotOf name action
    (p.decisionFails args slot, (p.decide? args slot).isSome))

/-- Whether the value of a param cannot be given. -/
def paramFails (p : Policy) (args : Args) (key : String) : Bool :=
  (p.tree.param? key).any fun param => p.entryFails args param.condition param.value.tokens

/-- Whether the resources under a prefix cannot be listed. -/
def listingFails (p : Policy) (args : Args) (start : String) : Bool :=
  p.tree.statements.entries.any fun e =>
    (suffix? (Text.lowercase start) e.1).isSome &&
      p.entryFails args e.2.condition (Marker.tokensOfFields e.2.metadata)

end Policy

end AccessPolicy
