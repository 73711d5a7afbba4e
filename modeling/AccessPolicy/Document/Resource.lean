import AccessPolicy.Marker.Resolver
import AccessPolicy.Text.Character

/-!
# Resource names

A resource as written stands for zero or more names. One of the form `template map to expression`
stands for one name for each value of the expression, each put in place of `%s` in the template; any
other stands for itself. Markers are resolved in either case, and empty names are dropped.
-/

namespace AccessPolicy.Resource

open Marker (Resolver)

/-! ## The form of a mapping -/

/-- The rest of a text behind a word, in any case, that it starts with. -/
def behindWord? : List Char → List Char → Option (List Char)
  | [], cs => some cs
  | w :: ws, c :: cs => if w = c.toLower then behindWord? ws cs else none
  | _ :: _, [] => none

/-- The rest of a text behind the blanks that it starts with; none if there are none. -/
def behindBlanks? (cs : List Char) : Option (List Char) :=
  match cs with
  | c :: _ => if Text.isBlank c then some (Text.trimStart cs) else none
  | [] => none

/-- The expression at the front of a text, behind at least one blank. It holds at least one
character, which is a blank if need be. -/
def expression? (cs : List Char) : Option (List Char) :=
  match behindBlanks? cs with
  | none => none
  | some [] => if 1 < cs.length then some [] else none
  | some rest => some (Text.trim rest)

/-- The expression of a text that goes on with the words `map to`, between blanks. -/
def directive? (cs : List Char) : Option (List Char) := do
  let rest ← behindBlanks? cs
  let rest ← behindWord? ['m', 'a', 'p'] rest
  let rest ← behindBlanks? rest
  let rest ← behindWord? ['t', 'o'] rest
  expression? rest

/-- The text before the first place where a text goes on with the words `map to`, and the expression
behind these. -/
def splitMapping? : List Char → Option (List Char × List Char)
  | [] => none
  | c :: cs =>
    match directive? (c :: cs) with
    | some expression => some ([], expression)
    | none => (splitMapping? cs).map fun p => (c :: p.1, p.2)

/-- The template and the expression of a resource that is a mapping, without the blanks around
them. -/
def mapping? (raw : List Char) : Option (List Char × List Char) :=
  (splitMapping? raw).map fun p => (Text.trim p.1, p.2)

/-! ## Names -/

/-- The text with a value in place of every `%s`. -/
def fill (value : List Char) : List Char → List Char
  | '%' :: 's' :: cs => value ++ fill value cs
  | c :: cs => c :: fill value cs
  | [] => []

/-- The text of a value that a name is made of. -/
def nameText : Json → String
  | .str s => s
  | v => v.text

/-- The texts that the value of an expression stands for: those of its elements that are not null if
it is an array, none if it is null, and its own otherwise. -/
def mappedTexts : Json → List String
  | .null => []
  | .arr items => (items.filter fun v => !v.isNull).map nameText
  | v => [nameText v]

/-- The value of an expression: that of its markers, or, if it has none, of the token that it is. -/
def expressionValue (r : Resolver) (args : Args) (expression : List Char) : Json :=
  if Marker.hasMarker (String.ofList expression) then r.resolve args (String.ofList expression)
  else r.lookup args expression

/-- The text that a text with or without markers resolves to. -/
def resolved (r : Resolver) (args : Args) (raw : String) : String :=
  if Marker.hasMarker raw then r.resolveText args raw else raw

/-- The names that a resource may stand for, the empty one included. -/
def candidates (r : Resolver) (args : Args) (raw : String) : List String :=
  match mapping? raw.toList with
  | some (template, expression) =>
    let template := (resolved r args (String.ofList template)).toList
    (mappedTexts (expressionValue r args expression)).map fun text =>
      String.ofList (fill text.toList template)
  | none => [resolved r args raw]

/-- The names that a resource stands for. -/
def names (r : Resolver) (args : Args) (raw : String) : List String :=
  (candidates r args raw).filter fun name => name ≠ ""

end AccessPolicy.Resource
