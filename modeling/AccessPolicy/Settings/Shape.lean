import AccessPolicy.Settings.Basic
import AccessPolicy.Text.LowerCase
import AccessPolicy.Value.Basic

/-!
# The shape of settings

Settings are read from a value: an object of sections, or an array of them in order, where a section
is again an object or an array of its fields. What is left out has its default. `Conventions` says
how the single fields are read: strictly, or with conversions between texts, numbers and truth
values.
-/

namespace AccessPolicy.Settings

/-- How the fields of settings are read. -/
structure Conventions where
  /-- Reads a truth value. -/
  truth? : Json → Option Bool
  /-- Reads a text. -/
  text? : Json → Option String
  /-- Reads the word for one of several choices. -/
  word? : Json → Option String
  /-- The value of a constant. -/
  constant : Json → Json
  /-- Whether an array may have more elements than there are fields. -/
  surplus : Bool

/-! ## Strict conventions -/

/-- Every field is of its type. A word may also be written as an object with null under it. -/
def strict : Conventions where
  truth?
    | .bool b => some b
    | _ => none
  text? := Json.str?
  word?
    | .str s => some s
    | .obj [(k, .null)] => some k
    | _ => none
  constant := id
  surplus := false

/-! ## Lenient conventions -/

/-- The truth value of a text. -/
def truthOfText? (s : String) : Option Bool :=
  let word := Text.lowercase s
  if word ∈ ["1", "true", "on", "yes"] then some true
  else if word ∈ ["0", "false", "off", "no"] then some false
  else none

mutual

/-- The value with null in place of numbers that have no JSON form. -/
def finiteOnly : Json → Json
  | .float x => if Decimal.isFinite x then .float x else .null
  | .arr items => .arr (finiteItems items)
  | .obj fields => .obj (finiteFields fields)
  | .null => .null
  | .bool b => .bool b
  | .int i => .int i
  | .str s => .str s

/-- The elements of an array with null in place of numbers that have no JSON form. -/
def finiteItems : List Json → List Json
  | [] => []
  | v :: vs => finiteOnly v :: finiteItems vs

/-- The fields of an object with null in place of numbers that have no JSON form. -/
def finiteFields : List (String × Json) → List (String × Json)
  | [] => []
  | (k, v) :: fs => (k, finiteOnly v) :: finiteFields fs

end

/-- Truth values, numbers and texts are converted into each other. A word may also be written as a
table with anything under it. -/
def lenient : Conventions where
  truth?
    | .bool b => some b
    | .int i => some (i != 0)
    | .float x => some (x != 0.0)
    | .str s => truthOfText? s
    | _ => none
  text?
    | .str s => some s
    | .bool b => some (if b then "true" else "false")
    | .int i => some (Decimal.intText i)
    | .float x => some (Value.numberLayout.write x)
    | _ => none
  word?
    | .str s => some s
    | .obj [(k, _)] => some k
    | _ => none
  constant := finiteOnly
  surplus := true

/-! ## Reading -/

/-- The fields of an object, or of an array that holds them in order. -/
def section? (c : Conventions) (names : List String) : Json → Option (String → Option Json)
  | .obj fields => some (Entries.get? fields)
  | .arr items =>
    if items.length ≤ names.length ∨ c.surplus then
      some (Entries.get? (names.zip items))
    else none
  | _ => none

/-- A field read by `read`, or its default if it is left out; none if it cannot be read. -/
def fieldOr {α : Type} (default : α) (read : Json → Option α) : Option Json → Option α
  | none => some default
  | some v => read v

/-- The effect that a word names. -/
def effectOfWord? : String → Option Effect
  | "allow" => some .allow
  | "deny" => some .deny
  | _ => none

/-- The format that a word names. -/
def formatOfWord? : String → Option LogFormat
  | "pretty" => some .pretty
  | "json" => some .json
  | _ => none

/-- Reads the section on merges. -/
def merge? (c : Conventions) (v : Json) : Option Effect := do
  let field ← section? c ["preference"] v
  fieldOr .deny (fun v => (c.word? v).bind effectOfWord?) (field "preference")

/-- Reads the section on the log. -/
def logging? (c : Conventions) (v : Json) : Option (String × LogFormat) := do
  let field ← section? c ["level", "format"] v
  let level ← fieldOr "info" c.text? (field "level")
  let format ← fieldOr .pretty (fun v => (c.word? v).bind formatOfWord?) (field "format")
  return (level, format)

/-- Reads the section on markers. -/
def markers? (c : Conventions) (v : Json) : Option Bool := do
  let field ← section? c ["env_enabled"] v
  fieldOr true c.truth? (field "env_enabled")

/-- Reads the section of constants, which is always an object. -/
def constants? (c : Conventions) (v : Json) : Option Json.Fields :=
  v.fields?.map (Entries.mapValues c.constant)

/-- Reads settings. -/
def ofJson? (c : Conventions) (v : Json) : Option Settings := do
  let field ← section? c ["merge", "logging", "markers", "constants"] v
  let preferred ← fieldOr .deny (merge? c) (field "merge")
  let (level, format) ← fieldOr ("info", .pretty) (logging? c) (field "logging")
  let envEnabled ← fieldOr true (markers? c) (field "markers")
  let constants ← fieldOr [] (constants? c) (field "constants")
  return { preferred, level, format, envEnabled, constants }

example : (ofJson? strict (.arr [])).map (·.level) = some "info" := by rfl

end AccessPolicy.Settings
