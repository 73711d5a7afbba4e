import AccessPolicy.Document.Basic
import AccessPolicy.Table.Basic
import AccessPolicy.Text.LowerCase

/-!
# Policy trees

A tree holds at most one statement in each slot and one param under each key. A slot is a resource,
with or without an action, in lower case. A later entry takes the place of an earlier one, but an
enforced entry is not displaced.
-/

namespace AccessPolicy

/-- A named value that a policy provides. -/
structure Param where
  /-- The value. Strings with markers are kept as they are, to be resolved when the param is read.
  -/
  value : Value
  condition : Option Condition
  enforced : Bool
  metadata : Json.Fields

/-- The slot of a resource and an action. The empty action stands for the resource itself. -/
def slotOf (resource action : String) : String :=
  Text.lowercase (if action = "" then resource else resource ++ ":" ++ action)

namespace Table

variable {α : Type}

/-- The table with an entry written, unless the entry in its place is enforced. -/
def write? (enforced : α → Bool) (t : Table α) (k : String) (v : α) : Option (Table α) :=
  if (t.get? k).any enforced then none else some (t.insert k v)

/-- The table after an attempt to write an entry. -/
def write (enforced : α → Bool) (t : Table α) (k : String) (v : α) : Table α :=
  (t.write? enforced k v).getD t

/-- A write is seen under its own key, unless an enforced entry is there already. -/
theorem get?_write (enforced : α → Bool) (t : Table α) (k k' : String) (v : α) :
    (t.write enforced k v).get? k' =
      if k = k' ∧ (t.get? k).any enforced = false then some v else t.get? k' := by
  unfold write write?
  by_cases h : (t.get? k).any enforced = true
  · simp [h]
  · simp only [Bool.not_eq_true] at h
    simp [h, get?_insert]

end Table

/-- A policy tree. -/
structure Tree where
  statements : Table Statement
  params : Table Param

namespace Tree

/-- The tree that holds nothing. -/
def empty : Tree :=
  ⟨∅, ∅⟩

instance : EmptyCollection Tree :=
  ⟨empty⟩

instance : Inhabited Tree :=
  ⟨empty⟩

/-- The statement in a slot, which may be given in any case. -/
def statement? (t : Tree) (slot : String) : Option Statement :=
  t.statements.get? (Text.lowercase slot)

/-- The param under a key. -/
def param? (t : Tree) (key : String) : Option Param :=
  t.params.get? key

/-- Whether a tree holds nothing. -/
def isEmpty (t : Tree) : Bool :=
  t.statements.isEmpty && t.params.isEmpty

/-- The tree with a statement in a slot; none if the slot is held by an enforced statement. -/
def insertStatement? (t : Tree) (slot : String) (s : Statement) : Option Tree :=
  (t.statements.write? Statement.enforced (Text.lowercase slot) s).map fun statements =>
    { t with statements }

/-- The tree with a param under a key; none if the key is held by an enforced param. -/
def insertParam? (t : Tree) (key : String) (p : Param) : Option Tree :=
  (t.params.write? Param.enforced key p).map fun params => { t with params }

/-- The tree after an attempt to put a statement in a slot. -/
def addStatement (t : Tree) (slot : String) (s : Statement) : Tree :=
  (t.insertStatement? slot s).getD t

/-- The tree after an attempt to put a param under a key. -/
def addParam (t : Tree) (key : String) (p : Param) : Tree :=
  (t.insertParam? key p).getD t

end Tree

end AccessPolicy
