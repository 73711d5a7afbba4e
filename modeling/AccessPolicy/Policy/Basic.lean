import AccessPolicy.Marker.Source
import AccessPolicy.Text.LowerCase
import AccessPolicy.Text.Quoted
import AccessPolicy.Tree.Compile

/-!
# Policies

A policy answers questions from a tree: whether access is allowed (`decide?`), what value a param
has (`param?`), and which statements there are about the resources under a prefix (`resources`). A
statement or param whose condition does not hold is treated as if it were not there.

An instance of a category of resources may go by several identifiers. A handler lists them, in order
of priority; it is registered for a category, whose case does not count. `Handlers.names` gives the
names of the resources to look for.
-/

namespace AccessPolicy

open Marker (Resolver)

/-! ## Handlers of resources -/

/-- The identifiers that an instance goes by, given the arguments of a decision. -/
abbrev Handler := String → Args → List String

/-- The handlers of some categories. -/
structure Handlers where
  /-- The handlers under the lower-case forms of their categories. -/
  table : Table Handler

namespace Handlers

/-- No handlers. -/
def empty : Handlers :=
  ⟨∅⟩

instance : EmptyCollection Handlers :=
  ⟨empty⟩

/-- The handlers with one for a category, in place of what was there. -/
def register (hs : Handlers) (category : String) (handler : Handler) : Handlers :=
  ⟨hs.table.insert (Text.lowercase category) handler⟩

/-- The handler of a category. -/
def handler? (hs : Handlers) (category : String) : Option Handler :=
  hs.table.get? (Text.lowercase category)

/-- Whether a category has a handler. -/
def contains (hs : Handlers) (category : String) : Bool :=
  (hs.handler? category).isSome

/-- The identifiers of an instance; the instance itself if its category has no handler. -/
def identifiers (hs : Handlers) (category inst : String) (args : Args) : List String :=
  match hs.handler? category with
  | some handler => handler inst args
  | none => [inst]

/-- The names of an instance, in order of priority and each of them once. Empty identifiers give no
name. -/
def names (hs : Handlers) (category inst : String) (args : Args) : List String :=
  (((hs.identifiers category inst args).filter fun id => id ≠ "").map
    fun id => category ++ ":" ++ id).eraseDups

/-- The handlers as they are shown: their categories. -/
def summary (hs : Handlers) : String :=
  "ResourceRegistry \x7b categories: " ++ Text.quotedList hs.table.keys ++ " \x7d"

end Handlers

/-! ## Questions -/

/-- A tree together with what its conditions and markers refer to. -/
structure Policy where
  tree : Tree
  resolver : Resolver
  handlers : Handlers

namespace Value

mutual

/-- The value with the markers that its strings still hold resolved. -/
def resolveMarkers (r : Resolver) (args : Args) : Value → Value
  | .str s => if Marker.hasMarker s then .ofLiterals (r.resolve args s) else .str s
  | .arr items => .arr (resolveMarkersItems r args items)
  | .obj fields => .obj (resolveMarkersFields r args fields)
  | v => v

/-- The elements of an array with their markers resolved. -/
def resolveMarkersItems (r : Resolver) (args : Args) : List Value → List Value
  | [] => []
  | v :: vs => resolveMarkers r args v :: resolveMarkersItems r args vs

/-- The fields of an object with the markers in their values resolved. -/
def resolveMarkersFields (r : Resolver) (args : Args) :
    List (String × Value) → List (String × Value)
  | [] => []
  | (k, v) :: fs => (k, resolveMarkers r args v) :: resolveMarkersFields r args fs

end

end Value

namespace Policy

/-- Whether an entry with a condition applies. -/
def applies (p : Policy) (args : Args) (condition : Option Condition) : Bool :=
  condition.all fun c => c.holds p.resolver args

/-! ## Decisions -/

/-- The statement in a slot that applies. -/
def applicable? (p : Policy) (args : Args) (slot : String) : Option Statement :=
  (p.tree.statement? slot).filter fun s => p.applies args s.condition

/-- Whether access to a slot is allowed; none if no statement in it applies. -/
def decide? (p : Policy) (args : Args) (slot : String) : Option Bool :=
  (p.applicable? args slot).map Statement.allows

/-- A slot is decided by the statement in it, if its condition holds. -/
theorem decide?_eq_some_iff {p : Policy} {args : Args} {slot : String} {b : Bool} :
    p.decide? args slot = some b ↔
      ∃ s, p.tree.statement? slot = some s ∧ p.applies args s.condition ∧ s.allows = b := by
  simp only [decide?, applicable?, Option.map_eq_some_iff, Option.filter_eq_some_iff, and_assoc]

/-- Whether a slot that holds a statement is decided is up to the condition of the statement. -/
theorem decide?_of_statement? {p : Policy} {args : Args} {slot : String} {s : Statement}
    (hs : p.tree.statement? slot = some s) :
    p.decide? args slot = if p.applies args s.condition then some s.allows else none := by
  rw [decide?, applicable?, hs, Option.filter_some, apply_ite (Option.map Statement.allows)]
  rfl

/-- Whether an action on an instance of a category is allowed: the decision under the first of its
names for which there is one. -/
def decideInstance? (p : Policy) (args : Args) (category inst action : String) : Option Bool :=
  (p.handlers.names category inst args).findSome? fun name => p.decide? args (slotOf name action)

/-! ## Params -/

/-- The value of a param that applies. -/
def param? (p : Policy) (args : Args) (key : String) : Option Value :=
  ((p.tree.param? key).filter fun param => p.applies args param.condition).map
    fun param => param.value.resolveMarkers p.resolver args

/-! ## Listings -/

/-- What a slot is listed as under a prefix: the rest of it behind a colon, or nothing if it is the
prefix itself. -/
def suffix? (start slot : String) : Option String :=
  match start.toList.isPrefixOf? slot.toList with
  | some [] => some ""
  | some (':' :: rest) => some (String.ofList rest)
  | _ => none

/-- The statement with the markers in its metadata resolved. -/
def resolveMetadata (p : Policy) (args : Args) (s : Statement) : Statement :=
  { s with metadata := p.resolver.resolveFields args s.metadata }

/-- What a slot contributes to the listing of a prefix. -/
def listed? (p : Policy) (args : Args) (start : String) (slot : String × Statement) :
    Option (String × Statement) :=
  if p.applies args slot.2.condition then
    (suffix? start slot.1).map fun suffix => (suffix, p.resolveMetadata args slot.2)
  else none

/-- A slot is listed if it applies, under what it has behind the prefix. -/
theorem listed?_eq_some_iff {p : Policy} {args : Args} {start slot suffix : String}
    {held entry : Statement} :
    p.listed? args start (slot, held) = some (suffix, entry) ↔
      p.applies args held.condition = true ∧ suffix? start slot = some suffix ∧
        p.resolveMetadata args held = entry := by
  unfold listed?
  split
  · next happlies =>
    rw [Option.map_eq_some_iff, and_iff_right happlies]
    simp only [Prod.mk.injEq, and_left_comm, exists_eq_left]
  · next happlies => exact iff_of_false nofun fun hlisted => happlies hlisted.1

/-- The statements that apply to the resources under a prefix, by what their slots are listed as.
The case of the prefix does not count. -/
def resources (p : Policy) (args : Args) (start : String) : Table Statement :=
  .ofPairs (p.tree.statements.entries.filterMap (p.listed? args (Text.lowercase start)))

end Policy

end AccessPolicy
