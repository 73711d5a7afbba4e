import AccessPolicy.Tree.Compile

/-!
# Merging trees

The tree of a child is merged with that of its parent entry by entry (`prevails`). Of two entries in
one place an enforced one beats one that is not. Then equal effects, or the preferred one on its
side, speak for the child; the preferred effect on the other side, or any against none, for the
parent; and otherwise the child prevails. Params have no effects, so that for them only enforcement
counts.

A user is subject to the policies of several levels, from the most specific one to the most general
one, and a level may have several sets of documents of equal rank. The trees of the sets of a level
are merged, and then each level with the ones above it (`Tree.ofChain`).
-/

namespace AccessPolicy

/-- What decides between two entries in one place. -/
structure Standing where
  enforced : Bool
  effect : Option Effect

/-- The standing of a statement. -/
def Statement.standing (s : Statement) : Standing :=
  ⟨s.enforced, s.effect⟩

/-- The standing of a param. -/
def Param.standing (p : Param) : Standing :=
  ⟨p.enforced, none⟩

/-- Whether the entry of a child prevails over that of its parent, if `preferred` is the effect that
is preferred. -/
def Standing.prevails (preferred : Effect) (child parent : Standing) : Bool :=
  if child.enforced ≠ parent.enforced then child.enforced
  else if child.effect = parent.effect ∨ child.effect = some preferred then true
  else if parent.effect = some preferred ∨ child.effect = none then false
  else true

/-- The entry that a place holds after a merge. -/
def pick {α : Type} (standing : α → Standing) (preferred : Effect) :
    Option α → Option α → Option α
  | some child, some parent =>
    some (if (standing child).prevails preferred (standing parent) then child else parent)
  | some child, none => some child
  | none, parent => parent

namespace Table

variable {α : Type}

/-- The table of what `f` gives for each of some names. -/
def ofKeys (f : String → Option α) (keys : List String) : Table α :=
  keys.foldl (fun t k => (f k).elim t (t.insert k)) ∅

/-- A table made of keys holds what the function gives for them, and nothing else. -/
theorem get?_ofKeys (f : String → Option α) (keys : List String) (k : String) :
    (ofKeys f keys).get? k = if k ∈ keys then f k else none := by
  suffices h : ∀ t : Table α, (keys.foldl (fun t k => (f k).elim t (t.insert k)) t).get? k =
      if k ∈ keys then (f k).or (t.get? k) else t.get? k by
    simpa [ofKeys] using h ∅
  induction keys with
  | nil => simp
  | cons k' keys ih =>
    intro t
    rw [List.foldl_cons, ih]
    rcases hf : f k' with _ | v <;> by_cases hk : k' = k
    · subst hk
      simp [hf]
    · simp [Ne.symm hk]
    · subst hk
      by_cases hm : k' ∈ keys <;> simp [hf, hm, get?_insert]
    · simp [Ne.symm hk, hk, get?_insert]

end Table

namespace Tree

/-- The tree of a child merged with that of its parent. -/
def merge (preferred : Effect) (child parent : Tree) : Tree where
  statements :=
    .ofKeys (fun slot => pick Statement.standing preferred (child.statement? slot)
      (parent.statement? slot)) (child.statements.keys ++ parent.statements.keys)
  params :=
    .ofKeys (fun key => pick Param.standing preferred (child.param? key) (parent.param? key))
      (child.params.keys ++ parent.params.keys)

/-- The trees of siblings merged, each as the parent of those before it. -/
def mergeAll (preferred : Effect) : List Tree → Tree
  | [] => ∅
  | t :: ts => ts.foldl (merge preferred) t

end Tree

/-! ## Chains -/

/-- An access level, with its sets of documents. -/
structure Level where
  name : String
  siblings : List (List Document)

/-- Levels, the most specific one first. -/
abbrev Chain := List Level

namespace Tree

open Marker (Resolver)

/-- The tree of one level. -/
def ofLevel (r : Resolver) (preferred : Effect) (level : Level) : Tree :=
  mergeAll preferred (level.siblings.map (ofDocuments r []))

/-- The trees of levels merged, from the last one to the first one. -/
def mergeUp (preferred : Effect) : List Tree → Tree
  | [] => ∅
  | [t] => t
  | t :: ts => t.merge preferred (mergeUp preferred ts)

/-- The tree of a chain. -/
def ofChain (r : Resolver) (preferred : Effect) (chain : Chain) : Tree :=
  mergeUp preferred (chain.map (ofLevel r preferred))

end Tree

end AccessPolicy
