import AccessPolicy.Settings.Layer
import AccessPolicy.Settings.Shape
import AccessPolicy.Toml.Reader

/-!
# Loading settings

Settings come from a TOML text (`ofToml`), or from a file and the variables of the environment
(`load`), which prevail. The file is the one that is asked for, which has to exist, or else the
first of the default places where there is one.
-/

namespace AccessPolicy.Settings

/-! ## Files -/

/-- A place where a file may be. -/
inductive Place where
  /-- Below the current directory. -/
  | current (path : String)
  /-- Below the home directory. -/
  | home (path : String)
  /-- Below the root of all files. -/
  | root (path : String)
  deriving DecidableEq

/-- The texts of the files there are, by their paths from each of the three directories. -/
structure Files where
  current : Table String
  home : Table String
  root : Table String

/-- What there is at a place. -/
inductive Node where
  | file (text : String)
  | directory
  deriving DecidableEq

/-- The steps of a path. -/
def pathSteps (path : String) : List (List Char) :=
  Text.pieces '/' path.toList

namespace Files

/-- The files below the directory of a place, and the steps of the path from there. -/
def locate (files : Files) : Place → Table String × List (List Char)
  | .current path => (files.current, pathSteps path)
  | .home path => (files.home, pathSteps path)
  | .root path => (files.root, pathSteps path)

/-- What a list of names leads to. The directories are those that files are in. -/
def at? (table : Table String) (names : List (List Char)) : Option Node :=
  match table.entries.find? fun e => pathSteps e.1 = names with
  | some e => some (.file e.2)
  | none =>
    if names = [] ∨ table.entries.any fun e => names.isPrefixOf (pathSteps e.1) then
      some .directory
    else none

/-- What some steps lead to from a place given by names. Only a directory can be left: to itself by
an empty step or a dot, and to the one that it is in by two dots. Above the first directory there
are directories only. -/
def follow? (table : Table String) (names : List (List Char)) : List (List Char) → Option Node
  | [] => at? table names
  | step :: steps =>
    match at? table names with
    | some .directory =>
      if step = [] ∨ step = ['.'] then follow? table names steps
      else if step = ['.', '.'] then
        if names ≠ [] then follow? table names.dropLast steps
        else if steps.all (· ∈ [[], ['.'], ['.', '.']]) then some .directory
        else none
      else follow? table (names ++ [step]) steps
    | _ => none

/-- What there is at a place. -/
def node? (files : Files) (place : Place) : Option Node :=
  let (table, steps) := files.locate place
  follow? table [] steps

/-- Whether there is something at a place. -/
def has (files : Files) (place : Place) : Bool :=
  (files.node? place).isSome

/-- What the steps of a path lead to if the ending of the format is added to the last name. -/
def withEnding? (table : Table String) (steps : List (List Char)) : Option Node :=
  match (steps.filter fun step => step ≠ [] ∧ step ≠ ['.']).reverse with
  | [] => none
  | last :: before =>
    if last = ['.', '.'] then none
    else follow? table [] (before.reverse ++ [last ++ ".toml".toList])

/-- The text of the file at a place or, if there is none, of the one whose name has the ending of
the format besides. -/
def text? (files : Files) (place : Place) : Option String :=
  match files.node? place with
  | some (.file text) => some text
  | _ =>
    let (table, steps) := files.locate place
    match withEnding? table steps with
    | some (.file text) => some text
    | _ => none

end Files

/-! ## Settings -/

/-- The settings of some layers. -/
def read (layers : List (List (String × Json))) : Except Error Settings :=
  match ofJson? lenient (.obj (ofLayers layers)) with
  | some s => s.check
  | none => .error (.load .wrongType)

/-- The settings of a TOML text. -/
def ofToml (text : String) : Except Error Settings :=
  match Toml.fields? text with
  | some fields => read [fields]
  | none => .error (.load .notToml)

/-- The places where a file of settings is looked for, the first one first. -/
def defaultPlaces : List Place :=
  [.current "latch.toml", .current ".latch.toml", .home ".config/latch/config.toml",
    .root "etc/latch/config.toml"]

/-- The place that a path names. -/
def Place.ofPath (path : String) : Place :=
  match path.toList with
  | '/' :: rest => .root (String.ofList rest)
  | _ => .current path

/-- The layer of the file at a place. A byte order mark that the file starts with is not part of its
text, which may start with another one. -/
def fileLayer (files : Files) (place : Place) : Except Error (List (String × Json)) :=
  match files.text? place with
  | none => .error (.load .notAFile)
  | some text =>
    match Toml.fields? (String.ofList (Toml.skipMark text.toList)) with
    | some fields => .ok fields
    | none => .error (.load .notToml)

/-- The layers that lie below the variables: that of the file that is asked for, or of the first
default one that exists, if any does. -/
def fileLayers (files : Files) : Option String → Except Error (List (List (String × Json)))
  | some path =>
    if path ≠ "" ∧ files.has (.ofPath path) then
      (fileLayer files (.ofPath path)).map fun layer => [layer]
    else .error (.load (.notFound path))
  | none =>
    match defaultPlaces.find? files.has with
    | some place => (fileLayer files place).map fun layer => [layer]
    | none => .ok []

/-- The settings of a file and of the variables of the environment. -/
def load (files : Files) (environment : Table String) (path : Option String) :
    Except Error Settings := do
  let layers ← fileLayers files path
  read (layers ++ [ofVariables environment])

end AccessPolicy.Settings
