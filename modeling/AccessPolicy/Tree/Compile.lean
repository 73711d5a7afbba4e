import AccessPolicy.Document.Resource
import AccessPolicy.Tree.Basic

/-!
# Compiling documents

Documents are compiled into a tree by writing their statements and params in order. `writes` lists
the slots that a declaration writes: each name that one of its resources stands for, with each of
its actions. Texts are read and compiled one after the other, and those that are no documents are
skipped (`Tree.addText`).
-/

namespace AccessPolicy

open Marker (Resolver)

/-! ## Statements -/

namespace StatementDeclaration

/-- The names that the resources of a declaration stand for. -/
def names (d : StatementDeclaration) (r : Resolver) (args : Args) : List String :=
  d.resources.flatMap (Resource.names r args)

/-- The slots that a declaration writes, in order. -/
def slots (d : StatementDeclaration) (r : Resolver) (args : Args) : List String :=
  (d.names r args).flatMap fun name => d.actions.map (slotOf name)

/-- The entries that a declaration writes, in order. -/
def writes (d : StatementDeclaration) (r : Resolver) (args : Args) : List (String × Statement) :=
  (d.slots r args).map fun slot => (slot, d.statement)

end StatementDeclaration

/-! ## Params -/

namespace Value

mutual

/-- The value of a JSON value, strings being read as literals unless they hold markers. -/
def ofMarkerFree : Json → Value
  | .str s => if Marker.hasMarker s then .str s else ofLiteral s
  | .arr items => .arr (ofMarkerFreeItems items)
  | .obj fields => .obj (ofMarkerFreeFields fields)
  | .null => .null
  | .bool b => .bool b
  | .int i => ofInt i
  | .float x => .float x

/-- The values of the elements of an array. -/
def ofMarkerFreeItems : List Json → List Value
  | [] => []
  | v :: vs => ofMarkerFree v :: ofMarkerFreeItems vs

/-- The values of the fields of an object. -/
def ofMarkerFreeFields : List (String × Json) → List (String × Value)
  | [] => []
  | (k, v) :: fs => (k, ofMarkerFree v) :: ofMarkerFreeFields fs

end

end Value

namespace ParamDeclaration

/-- The param of a declaration. -/
def param (d : ParamDeclaration) : Param where
  value := .ofMarkerFree d.value
  condition := d.condition
  enforced := d.enforced
  metadata := d.metadata

/-- The entries that a declaration writes: one, unless its key resolves to nothing. -/
def writes (d : ParamDeclaration) (r : Resolver) (args : Args) : List (String × Param) :=
  let key := Resource.resolved r args d.key
  if key = "" then [] else [(key, d.param)]

end ParamDeclaration

/-! ## Trees -/

namespace Document

/-- The statements that a document writes, in order. -/
def statementWrites (d : Document) (r : Resolver) (args : Args) : List (String × Statement) :=
  d.statements.flatMap fun s => s.writes r args

/-- The params that a document writes, in order. -/
def paramWrites (d : Document) (r : Resolver) (args : Args) : List (String × Param) :=
  d.params.flatMap fun p => p.writes r args

end Document

namespace Tree

/-- The tree after the writes of a document. -/
def addDocument (r : Resolver) (args : Args) (t : Tree) (d : Document) : Tree :=
  let t := (d.statementWrites r args).foldl (fun t w => t.addStatement w.1 w.2) t
  (d.paramWrites r args).foldl (fun t w => t.addParam w.1 w.2) t

/-- The tree of some documents. -/
def ofDocuments (r : Resolver) (args : Args) (documents : List Document) : Tree :=
  documents.foldl (addDocument r args) ∅

/-- The tree after the writes of the document that a text is. A text that is none is skipped. -/
def addText (r : Resolver) (args : Args) (t : Tree) (s : String) : Tree :=
  match Document.ofText s with
  | .ok d => t.addDocument r args d
  | .error _ => t

/-- The tree of those of some texts that are documents. -/
def ofTexts (r : Resolver) (args : Args) (texts : List String) : Tree :=
  texts.foldl (addText r args) ∅

end Tree

end AccessPolicy
