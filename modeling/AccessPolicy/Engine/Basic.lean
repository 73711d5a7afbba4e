import AccessPolicy.Policy.Basic
import AccessPolicy.Settings.Basic
import AccessPolicy.Tree.Merge

/-!
# Engines

An engine holds what all its policies share: the sources of marker values, the handlers of
resources, and the preference in merges. It compiles documents into trees and wraps trees into
policies.

The callbacks of the host are kept in a table of their own. Registering one puts the source of all
of them in place again, even if the host has registered another source under its name.
-/

namespace AccessPolicy

open Marker (Callback Resolver Source)

/-- An engine. -/
structure Engine where
  resolver : Resolver
  handlers : Handlers
  callbacks : Table Callback
  preferred : Effect

namespace Engine

/-! ## Errors -/

/-- What can go wrong before an engine decides anything. -/
inductive Error where
  | settings (cause : Settings.Error)
  | document (cause : Document.Error)
  deriving DecidableEq

/-- The message of an error; a reason is given for those that have one. -/
def Error.message (reason : String) : Error → String
  | .settings cause => "Configuration error: " ++ cause.message reason
  | .document cause => "Policy document error: " ++ cause.message reason

/-! ## Registration -/

/-- The engine with a source of marker values under a name. -/
def registerSource (e : Engine) (name : String) (source : Source) : Engine :=
  { e with resolver := e.resolver.register name source }

/-- The engine with a function that policies may call. -/
def registerCallback (e : Engine) (name : String) (callback : Callback) : Engine :=
  let callbacks := e.callbacks.insert name callback
  { e with callbacks }.registerSource "CALLBACK" (.callbacks callbacks)

/-- The engine with a clock that shows an instant. -/
def setClock (e : Engine) (t : Calendar.Instant) : Engine :=
  e.registerSource "DATETIME" (.clock t)

/-- The engine with a handler for a category of resources. -/
def registerHandler (e : Engine) (category : String) (handler : Handler) : Engine :=
  { e with handlers := e.handlers.register category handler }

/-- An engine that knows no source of marker values. -/
def bare (preferred : Effect) : Engine :=
  ⟨⟨∅⟩, ∅, ∅, preferred⟩

/-- The engine with some settings, at an instant, with the variables of the environment. -/
def ofSettings (s : Settings) (now : Calendar.Instant) (environment : Table String) : Engine :=
  let e := ((bare s.preferred).registerSource "ARGS" .args).setClock now
  let e := e.registerSource "CONST" (.constants s.constants)
  if s.envEnabled then e.registerSource "ENV" (.environment environment) else e

/-! ## Compiling -/

/-- The tree of some documents. -/
def compile (e : Engine) (args : Args) (documents : List Document) : Tree :=
  .ofDocuments e.resolver args documents

/-- The tree of those texts that are documents. -/
def compileTexts (e : Engine) (texts : List String) : Tree :=
  .ofTexts e.resolver [] texts

/-- The tree of some texts, all of which have to be documents. -/
def compileStrict (e : Engine) (texts : List String) : Except Error Tree :=
  ((texts.mapM Document.ofText).map (e.compile [])).mapError .document

/-- The tree of a child merged with that of its parent. -/
def merge (e : Engine) (child parent : Tree) : Tree :=
  child.merge e.preferred parent

/-! ## Policies -/

/-- The policy of a tree. -/
def policy (e : Engine) (tree : Tree) : Policy :=
  ⟨tree, e.resolver, e.handlers⟩

/-- The policy of a chain of access levels. -/
def resolveChain (e : Engine) (chain : Chain) : Policy :=
  e.policy (.ofChain e.resolver e.preferred chain)

end Engine

end AccessPolicy
