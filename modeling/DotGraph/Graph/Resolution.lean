import DotGraph.Graph.Scope
import DotGraph.Journal

/-!
# Resolution

The statements of a body are reduced in order. A body starts with the scope of the place where it
stands and keeps what it changes there to itself. The node table is one for a whole graph: a node
has one entry, where it is first mentioned, and later statements only add to its attributes.
-/

namespace DotGraph

/-- The nodes of a graph in the order of their first mention. -/
abbrev NodeTable := OrderedMap Attrs

namespace NodeTable

/-- A statement on a node, which starts from the defaults if it is new and else from what it has. -/
def declare (table : NodeTable) (defaults : Attrs) (id : String) (items : List AttrItem) :
    NodeTable :=
  table.insert id (((table.get? id).getD defaults).update items)

/-- A mention of a node, which has no effect on one that is there. -/
def mention (table : NodeTable) (defaults : Attrs) (id : String) : NodeTable :=
  if (table.get? id).isSome then table else table.declare defaults id []

def mentionAll (table : NodeTable) (defaults : Attrs) (ids : List String) : NodeTable :=
  ids.foldl (·.mention defaults ·) table

def node (table : NodeTable) (id : String) : Node := ⟨id, (table.get? id).getD ∅⟩

def nodes (table : NodeTable) : List Node := table.entries.map fun entry => ⟨entry.1, entry.2⟩

/-- The ids that a later table has in addition, in order. -/
def newIds (before after : NodeTable) : List String := after.keys.drop before.size

end NodeTable

/-- What statements amount to: entries that name nodes by their ids, edges, and the scope and table
after them. -/
structure Reduction where
  entries : List (Entry String)
  edges : List Edge
  scope : Scope
  table : NodeTable

namespace Reduction

def nothing (scope : Scope) (table : NodeTable) : Reduction := ⟨[], [], scope, table⟩

/-- A reduction followed by one that starts from its scope and table. -/
def followedBy (first second : Reduction) : Reduction :=
  ⟨first.entries ++ second.entries, first.edges ++ second.edges, second.scope, second.table⟩

/-- A subgraph entry, whose attributes are the graph defaults at its end. -/
def toEntry (id : Option String) (reduction : Reduction) : Entry String :=
  .subgraph id reduction.entries reduction.edges reduction.scope.graph

end Reduction

/-- One edge for each two neighbours in a chain. -/
def edgesOfChain (attrs : Attrs) (ids : List String) : List Edge :=
  (ids.zip ids.tail).map fun ends => ⟨ends.1, ends.2, attrs⟩

namespace Statement

def reduceNode (scope : Scope) (table : NodeTable) (ref : NodeRef) (items : List AttrItem) :
    Reduction :=
  let after := table.declare scope.node ref.id items
  ⟨(table.newIds after).map .node, [], scope, after⟩

def reduceEdge (scope : Scope) (table : NodeTable) (chain : List NodeRef)
    (items : List AttrItem) : Reduction :=
  let ids := chain.map NodeRef.id
  let after := table.mentionAll scope.node ids
  ⟨(table.newIds after).map .node, edgesOfChain (scope.edge.update items) ids, scope, after⟩

mutual

def reduce (scope : Scope) (table : NodeTable) : Statement → Reduction
  | .subgraph id children =>
    let body := reduceAll scope table children
    ⟨[body.toEntry id], [], scope, body.table⟩
  | .node ref items => reduceNode scope table ref items
  | .edge chain items => reduceEdge scope table chain items
  | .attr target items => .nothing (scope.update target items) table
  | .graph .. | .foreign _ => .nothing scope table

def reduceAll (scope : Scope) (table : NodeTable) : List Statement → Reduction
  | [] => .nothing scope table
  | statement :: statements =>
    let first := reduce scope table statement
    first.followedBy (reduceAll first.scope first.table statements)

end

theorem reduceAll_append (scope : Scope) (table : NodeTable) (first second : List Statement) :
    reduceAll scope table (first ++ second) =
      (reduceAll scope table first).followedBy
        (reduceAll (reduceAll scope table first).scope (reduceAll scope table first).table
          second) := by
  induction first generalizing scope table with
  | nil => rfl
  | cons statement statements ih => simp [reduceAll, ih, Reduction.followedBy]

mutual

/-- The records of what is ignored in a container, at any depth below its subgraphs. -/
def ignored (container : Option String) : Statement → List Record
  | .subgraph id children => ignoredAll id children
  | .node .. | .edge .. | .attr .. => []
  | .graph tag .. => [.ignoredChild tag.name container]
  | .foreign kind => [.ignoredChild kind.name container]

def ignoredAll (container : Option String) : List Statement → List Record
  | [] => []
  | statement :: statements => ignored container statement ++ ignoredAll container statements

end

end Statement

end DotGraph
