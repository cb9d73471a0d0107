import DotGraph.GraphDecl.OfTokens
import DotGraph.Graph.Resolution
import DotGraph.Statement.OfJson

/-!
# Graphs from statements

Every graph at the top level is resolved on its own, with an empty scope and an empty table; all
else there is ignored with a record.
-/

namespace DotGraph

inductive ResolveError
  | load (error : LoadError)
  /-- A graph that carries the tag of another kind of statement. -/
  | notGraphKind (tag : Tag)
  deriving DecidableEq

def ResolveError.message : ResolveError → String
  | .load error => error.message
  | .notGraphKind tag => "'" ++ tag.name ++ "' is not a valid GraphKind"

namespace Graph

/-- A body resolved on its own. -/
def bodyOf (children : List Statement) : Reduction := Statement.reduceAll ∅ ∅ children

def ofBody (kind : GraphKind) (strict : Bool) (id : Option String) (body : Reduction) : Graph :=
  ⟨kind, strict, id, Entry.mapAll body.table.node body.entries, body.edges, body.scope.graph⟩

def ofDecl (decl : GraphDecl) : Graph :=
  ofBody decl.kind decl.strict decl.id (bodyOf decl.children)

/-- The records of resolving a graph: what its body ignores, and a summary. -/
def resolutionRecords (tag : Tag) (id : Option String) (children : List Statement) : List Record :=
  let body := bodyOf children
  Statement.ignoredAll id children ++ [.resolved tag id body.table.size body.edges.length]

def ofStatement? : Statement → Journal ResolveError (Option Graph)
  | .graph tag strict id children => do
    .noteAll (resolutionRecords tag id children)
    match GraphKind.ofTag? tag with
    | some kind => return some (ofDecl ⟨kind, strict, id, children⟩)
    | none => .fail (.notGraphKind tag)
  | statement => do
    .note (.ignoredItem statement.label)
    return none

/-- What may stand at the top level: a statement, or an untyped value that is loaded first if it is
an object. -/
inductive Item
  | statement (statement : Statement)
  | untyped (value : Json)

def ofItem? : Item → Journal ResolveError (Option Graph)
  | .statement statement => ofStatement? statement
  | .untyped (.object fields) => do
    match ← (Statement.ofJson (.object fields)).mapError .load with
    | some statement => ofStatement? statement
    | none => ofStatement? (.foreign .null)
  | .untyped value => ofStatement? (.foreign value.kind)

def ofItems : List Item → Journal ResolveError (List Graph)
  | [] => return []
  | item :: items => do
    let graph ← ofItem? item
    let graphs ← ofItems items
    return graph.toList ++ graphs

theorem outcome_ofItems_cons (item : Item) (items : List Item) :
    (ofItems (item :: items)).outcome = do
      let graph ← (ofItem? item).outcome
      let graphs ← (ofItems items).outcome
      return graph.toList ++ graphs := by
  simp only [ofItems, Journal.outcome_bind]
  rfl

def ofStatements (statements : List Statement) : Journal ResolveError (List Graph) :=
  ofItems (statements.map .statement)

end Graph

/-- Reading a text, with a record of what was read. -/
def GraphDecl.read (source : String) : Journal SyntaxError (List GraphDecl) := do
  let decls ← parse source
  .note (.read decls.length source.length)
  return decls

inductive ParseError
  | unreadable (error : SyntaxError)
  | resolve (error : ResolveError)
  deriving DecidableEq

/-- The graphs that a text describes. -/
def Graph.parse (source : String) : Journal ParseError (List Graph) := do
  let decls ← (GraphDecl.read source).mapError .unreadable
  (Graph.ofStatements (decls.map GraphDecl.toStatement)).mapError .resolve

end DotGraph
