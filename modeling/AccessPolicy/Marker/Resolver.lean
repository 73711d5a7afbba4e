import AccessPolicy.Json.Printer
import AccessPolicy.Marker.Segment
import AccessPolicy.Marker.Source
import AccessPolicy.Text.Quoted

/-!
# Resolving markers

A resolver holds the sources by name. A text that is one marker and nothing else resolves to the
value of that marker; in any other text the markers are replaced by the texts of their values. What
a source answers is never looked through for markers again.
-/

namespace AccessPolicy.Marker

/-- The sources of marker values, by name. -/
structure Resolver where
  sources : Table Source

/-- The text of a value in the midst of other text. -/
def spliced : Json → String
  | .null => ""
  | .str s => s
  | v => v.text

namespace Resolver

/-- The resolver with a source under a name, in place of what was there. -/
def register (r : Resolver) (name : String) (source : Source) : Resolver :=
  ⟨r.sources.insert name source⟩

/-- Whether there is a source of a name. -/
def has (r : Resolver) (name : String) : Bool :=
  r.sources.contains name

/-- What the source of a token answers; nothing if there is no such source. -/
def ask (r : Resolver) (args : Args) (token : List Char) :
    Except Calendar.Unwritable (Option Json) :=
  let (name, path) := Text.cut '.' token
  match r.sources.get? (String.ofList name) with
  | none => .ok none
  | some source => source args (path.getD [])

/-- Whether the answer to a token cannot be written. -/
def fails (r : Resolver) (args : Args) (token : List Char) : Bool :=
  match r.ask args token with
  | .ok _ => false
  | .error _ => true

/-- The value of a token; null if there is no answer. -/
def lookup (r : Resolver) (args : Args) (token : List Char) : Json :=
  match r.ask args token with
  | .ok (some v) => v
  | _ => .null

/-- The text that a part of a text resolves to. -/
def segmentChars (r : Resolver) (args : Args) : Segment → List Char
  | .text cs => cs
  | .marker token => (spliced (r.lookup args token)).toList

/-- The value that a text resolves to. -/
def resolve (r : Resolver) (args : Args) (template : String) : Json :=
  match segments template.toList with
  | [.marker token] => r.lookup args token
  | segs => .str (String.ofList (segs.flatMap (r.segmentChars args)))

/-- The text that a text resolves to. -/
def resolveText (r : Resolver) (args : Args) (template : String) : String :=
  spliced (r.resolve args template)

mutual

/-- The value with the markers in its strings resolved, at any depth; names of fields stay. -/
def resolveAll (r : Resolver) (args : Args) : Json → Json
  | .str s => if hasMarker s then r.resolve args s else .str s
  | .arr items => .arr (r.resolveItems args items)
  | .obj fields => .obj (r.resolveFields args fields)
  | .null => .null
  | .bool b => .bool b
  | .int i => .int i
  | .float x => .float x

/-- The elements of an array with their markers resolved. -/
def resolveItems (r : Resolver) (args : Args) : List Json → List Json
  | [] => []
  | v :: vs => r.resolveAll args v :: r.resolveItems args vs

/-- The fields of an object with the markers in their values resolved. -/
def resolveFields (r : Resolver) (args : Args) : List (String × Json) → List (String × Json)
  | [] => []
  | (k, v) :: fs => (k, r.resolveAll args v) :: r.resolveFields args fs

end

/-- The resolver as it is shown: the names of its sources. -/
def summary (r : Resolver) : String :=
  "MarkerResolver \x7b namespaces: " ++ Text.quotedList r.sources.keys ++ " \x7d"

end Resolver

end AccessPolicy.Marker
