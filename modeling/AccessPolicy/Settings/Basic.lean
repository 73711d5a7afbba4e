import AccessPolicy.Document.Basic
import AccessPolicy.Json.Basic
import AccessPolicy.Text.Character

/-!
# Settings

The settings of an engine: which effect is preferred in a merge, how events are logged, whether
policies may refer to the variables of the environment, and the constants that they may refer to.
`Settings.check` says what is wrong with settings that have the right form.
-/

namespace AccessPolicy

/-- The format of the log. -/
inductive LogFormat where
  | pretty
  | json
  deriving DecidableEq

/-- The settings of an engine. -/
structure Settings where
  preferred : Effect := .deny
  /-- The level of the log, as written. -/
  level : String := "info"
  format : LogFormat := .pretty
  envEnabled : Bool := true
  constants : Json.Fields := []

namespace LogFormat

/-- The word for a format. -/
def name : LogFormat → String
  | .pretty => "pretty"
  | .json => "json"

end LogFormat

namespace Settings

/-- Why settings cannot be read at all. -/
inductive LoadError where
  | notFound (path : String)
  /-- There is something under the path, but not a file. -/
  | notAFile
  | notToml
  /-- A setting is not of its type. -/
  | wrongType
  deriving DecidableEq

/-- Why there are no usable settings. -/
inductive Error where
  | load (cause : LoadError)
  | noLevel
  | unknownLevel (written : String)
  | unnamedConstant
  deriving DecidableEq

/-- The levels of the log. -/
def levels : List String :=
  ["trace", "debug", "info", "warn", "error", "off"]

/-- The message of an error of loading. Most of them give a reason. -/
def LoadError.message (reason : String) : LoadError → String
  | .notFound path => "Configuration file not found: " ++ path
  | _ => reason

/-- The message of an error; a reason is given for some that concern loading. -/
def Error.message (reason : String) : Error → String
  | .load cause => "Failed to load configuration: " ++ cause.message reason
  | .noLevel => "Missing required configuration: logging.level"
  | .unknownLevel written =>
    "Invalid configuration: logging.level must be one of " ++ String.intercalate ", " levels ++
      ", got: " ++ written
  | .unnamedConstant => "Invalid configuration: constants must not contain an empty name"

/-- The level of the log as it is understood: without the blanks around it and in lower case. -/
def plainLevel (s : Settings) : String :=
  Text.asciiLower (Text.trimmed s.level)

/-- Whether a name is made of blanks alone. -/
def isBlankName (name : String) : Bool :=
  Text.trimmed name == ""

/-- The settings, if their level is known and their constants have names. -/
def check (s : Settings) : Except Error Settings :=
  if s.plainLevel = "" then .error .noLevel
  else if s.plainLevel ∉ levels then .error (.unknownLevel s.level)
  else if s.constants.any fun e => isBlankName e.1 then .error .unnamedConstant
  else .ok s

end Settings

end AccessPolicy
