import AccessPolicy.Calendar.Directive
import AccessPolicy.Calendar.Letters
import AccessPolicy.Json.Basic
import AccessPolicy.Table.Basic

/-!
# Sources of marker values

The part of a token before its first dot names a source, and the rest is a path into that source. A
source answers a path with a value, or not at all where the path is unknown. The arguments of the
decision at hand are given to every source. A clock may also be unable to write the answer, since
not every instant has the date of a mail header; that is an error.
-/

namespace AccessPolicy

/-- The arguments of a decision, by name. -/
abbrev Args := Json.Fields

/-- The argument or part of one that a path names. The empty path names all arguments together. -/
def Args.at? (args : Args) (path : List Char) : Option Json :=
  if path = [] then some (.obj args)
  else
    let (head, tail) := Text.cut '.' path
    (Entries.get? args (String.ofList head)).bind fun root => root.at? (tail.getD [])

namespace Marker

/-- A source of marker values. -/
abbrev Source := Args → List Char → Except Calendar.Unwritable (Option Json)

/-- A function of the arguments that the host lends to policies. -/
abbrev Callback := Args → Json

namespace Source

/-- The arguments. -/
def args : Source :=
  fun args path => .ok (args.at? path)

/-- A value, of which paths name parts. -/
def value (root : Json) : Source :=
  fun _ path => .ok (root.at? path)

/-- Named constants. The empty path names the constant without a name. -/
def constants (table : Json.Fields) : Source :=
  fun _ path =>
    let (head, tail) := Text.cut '.' path
    .ok ((Entries.get? table (String.ofList head)).bind fun root => root.at? (tail.getD []))

/-- Variables, whose names are taken as they are. -/
def environment (table : Table String) : Source :=
  fun _ path => .ok ((table.get? (String.ofList path)).map .str)

/-- Functions of the arguments, whose names are taken as they are. -/
def callbacks (table : Table Callback) : Source :=
  fun args path => .ok ((table.get? (String.ofList path)).map fun callback => callback args)

end Source

/-! ## The clock -/

/-- An instant written in the format that a path is: one of percent directives if it holds a percent
sign, the seconds as a number if it is the letter `U`, and one of letters otherwise. -/
def clockAnswer (t : Calendar.Instant) (path : List Char) :
    Except Calendar.Unwritable (Option Json) :=
  if path.contains '%' then
    .ok ((Calendar.directivesChars? t path).map fun cs => .str (String.ofList cs))
  else if path = ['U'] then .ok (some (.int t.secs))
  else (Calendar.lettersChars t path).map fun cs => some (.str (String.ofList cs))

/-- A clock that stands still. -/
def Source.clock (t : Calendar.Instant) : Source :=
  fun _ path => clockAnswer t path

end Marker

end AccessPolicy
