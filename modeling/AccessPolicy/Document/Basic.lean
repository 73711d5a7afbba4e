import AccessPolicy.Condition.Basic
import AccessPolicy.Json.Parser

/-!
# Policy documents

A policy document is an object with a section of statements and a section of params, either of which
may be left out. A section is one entry or a list of entries, and an entry is an object; the fields
of an entry that have no meaning of their own are kept as its metadata. A statement has an effect,
which is to allow or to deny, unless it is left out or no such word. `Document.ofJson` reads a
document, and says what is wrong with a value that is none.
-/

namespace AccessPolicy

/-! ## Effects -/

/-- The effect of a statement. -/
inductive Effect where
  | allow
  | deny
  deriving DecidableEq, Inhabited

namespace Effect

/-- The word for an effect. -/
def name : Effect → String
  | .allow => "allow"
  | .deny => "deny"

/-- The effect of a word, in any case and between any blanks. -/
def ofText? (s : String) : Option Effect :=
  match Text.asciiLower (Text.trimmed s) with
  | "allow" => some .allow
  | "deny" => some .deny
  | _ => none

/-- An effect is read back from its name. -/
theorem ofText?_name (e : Effect) : ofText? e.name = some e := by
  cases e <;> decide

end Effect

/-! ## Declarations -/

/-- What a policy says about a resource. -/
structure Statement where
  effect : Option Effect
  /-- The condition under which the statement applies; it always does without one. -/
  condition : Option Condition
  /-- Whether the statement prevails over those that are not enforced. -/
  enforced : Bool
  metadata : Json.Fields

/-- Whether a statement allows access. One without an effect does not. -/
def Statement.allows (s : Statement) : Bool :=
  s.effect == some .allow

/-- A statement allows access when that is its effect. -/
theorem Statement.allows_iff {s : Statement} : s.allows ↔ s.effect = some .allow := by
  simp [Statement.allows]

/-- A statement as written, with the resources and the actions that it is about. The empty action
stands for the resource itself. -/
structure StatementDeclaration where
  resources : List String
  actions : List String
  statement : Statement

/-- A param as written. -/
structure ParamDeclaration where
  key : String
  value : Json
  /-- The condition under which the param applies; it always does without one. -/
  condition : Option Condition
  /-- Whether the param prevails over those that are not enforced. -/
  enforced : Bool
  metadata : Json.Fields

/-- A policy document. -/
structure Document where
  statements : List StatementDeclaration
  params : List ParamDeclaration

namespace Document

/-! ## Errors -/

/-- A section of a document. -/
inductive Part where
  | statement
  | param
  deriving DecidableEq

/-- The name of the field that holds a section. -/
def Part.name : Part → String
  | .statement => "Statement"
  | .param => "Param"

/-- Why a text or a value is not a policy document. -/
inductive Error where
  /-- The text is not a JSON text. -/
  | notJson
  /-- The value is not an object. -/
  | notAnObject
  /-- A section is neither an object nor an array. -/
  | notEntries (part : Part)
  /-- An element of a section is not an object. -/
  | notAnEntry (part : Part) (index : Nat)
  deriving DecidableEq

/-- The message of an error; that of a text that is no JSON text gives a reason too. -/
def Error.message (reason : String) : Error → String
  | .notJson => "Malformed JSON: " ++ reason
  | .notAnObject => "Policy document must be a JSON object"
  | .notEntries part =>
    "Invalid '" ++ part.name ++ "' section: expected an object or an array of objects"
  | .notAnEntry part index =>
    "Invalid '" ++ part.name ++ "' section: entry " ++ Decimal.natText index ++ " is not an object"

/-! ## The fields of an entry -/

/-- The strings that a field holds: itself, or those among its elements. -/
def strings : Option Json → List String
  | some (.str s) => [s]
  | some (.arr items) => items.filterMap Json.str?
  | _ => []

/-- The words that stand for true in the field of an entry. -/
def truthWords : List String :=
  ["true", "1", "yes"]

/-- Whether a field says yes: true, a number other than zero, or a word for true. -/
def saysYes : Option Json → Bool
  | some (.bool b) => b
  | some (.int i) => i != 0
  | some (.float x) => x != 0.0
  | some (.str s) => truthWords.contains (Text.asciiLower (Text.trimmed s))
  | _ => false

/-- The condition of an entry. A condition that always holds is none. -/
def conditionOf (fields : Json.Fields) : Option Condition :=
  match Entries.get? fields "Condition" with
  | none => none
  | some .null => none
  | some raw => if Condition.isEmpty raw then none else some raw

/-- Whether an entry is enforced. -/
def isEnforced (fields : Json.Fields) : Bool :=
  saysYes (Entries.get? fields "Enforce")

/-- The fields other than those of the given names. -/
def metadataOf (recognised : List String) (fields : Json.Fields) : Json.Fields :=
  fields.filter fun e => !recognised.contains e.1

/-! ## Entries -/

/-- The fields of a statement that have a meaning of their own. -/
def statementFields : List String :=
  ["Resource", "Action", "Effect", "Condition", "Enforce"]

/-- The fields of a param that have a meaning of their own. -/
def paramFields : List String :=
  ["Key", "Value", "Condition", "Enforce"]

/-- The statement of an entry. -/
def statementOf (fields : Json.Fields) : Statement where
  effect := (Entries.get? fields "Effect").bind Json.str? |>.bind Effect.ofText?
  condition := conditionOf fields
  enforced := isEnforced fields
  metadata := metadataOf statementFields fields

/-- The statement of an entry, with its resources and actions. One without an action is about the
resources themselves. -/
def declarationOf (fields : Json.Fields) : StatementDeclaration where
  resources := strings (Entries.get? fields "Resource")
  actions :=
    match strings (Entries.get? fields "Action") with
    | [] => [""]
    | actions => actions
  statement := statementOf fields

/-- The param of an entry; none if the entry has no key. -/
def paramOf? (fields : Json.Fields) : Option ParamDeclaration :=
  match Entries.get? fields "Key" with
  | some (.str key) =>
    if key = "" then none
    else
      some {
        key
        value := (Entries.get? fields "Value").getD .null
        condition := conditionOf fields
        enforced := isEnforced fields
        metadata := metadataOf paramFields fields }
  | _ => none

/-! ## Documents -/

/-- The elements of a section, of which the first has the given index. -/
def entriesFrom (part : Part) : (index : Nat) → List Json → Except Error (List Json.Fields)
  | _, [] => .ok []
  | index, .obj fields :: items => (entriesFrom part (index + 1) items).map (fields :: ·)
  | index, _ :: _ => .error (.notAnEntry part index)

/-- The entries of a section. -/
def entriesOf (part : Part) (root : Json.Fields) : Except Error (List Json.Fields) :=
  match Entries.get? root part.name with
  | none => .ok []
  | some .null => .ok []
  | some (.obj fields) => .ok [fields]
  | some (.arr items) => entriesFrom part 0 items
  | some _ => .error (.notEntries part)

/-- The document that a value is. -/
def ofJson : Json → Except Error Document
  | .obj root => do
    let statements ← entriesOf .statement root
    let params ← entriesOf .param root
    return ⟨statements.map declarationOf, params.filterMap paramOf?⟩
  | _ => .error .notAnObject

/-- The document that a text is. -/
def ofText (s : String) : Except Error Document :=
  match Json.parse? s with
  | some v => ofJson v
  | none => .error .notJson

/-- Whether a document declares nothing. -/
def isEmpty (d : Document) : Bool :=
  d.statements.isEmpty && d.params.isEmpty

end Document

end AccessPolicy
