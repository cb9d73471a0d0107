import DotGraph.Graph.Resolution

/-!
# Sessions

Statements may be reduced one after another, in scopes that are opened and closed by hand, with one
node table for all of them.
-/

namespace DotGraph

structure Session where
  scope : Scope
  outer : List Scope
  table : NodeTable

namespace Session

def start : Session := ⟨∅, [], ∅⟩

def height (session : Session) : Nat := session.outer.length + 1

/-- What a reduction in the current scope yields: its entries and edges as they stand after it. -/
def yield (reduction : Reduction) : List (Entry Node) × List Edge :=
  (Entry.mapAll reduction.table.node reduction.entries, reduction.edges)

def after (session : Session) (reduction : Reduction) : Session :=
  { session with scope := reduction.scope, table := reduction.table }

def statement (session : Session) (statement : Statement) :
    (List (Entry Node) × List Edge) × Session :=
  let reduction := statement.reduce session.scope session.table
  (yield reduction, session.after reduction)

/-- A body reduced in the current scope itself, as a subgraph. -/
def body (session : Session) (id : Option String) (children : List Statement) :
    Entry Node × Session :=
  let reduction := Statement.reduceAll session.scope session.table children
  ((reduction.toEntry id).map reduction.table.node, session.after reduction)

def push (session : Session) : Session :=
  { session with outer := session.scope :: session.outer }

/-- The outermost scope stays. -/
def pop (session : Session) : Session :=
  match session.outer with
  | [] => session
  | scope :: outer => { session with scope, outer }

end Session

end DotGraph
