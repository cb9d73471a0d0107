import DotGraph.Graph.Basic

/-!
# Graphs as declarations

A declaration that states all of a graph: the entries of each container in order with all their
attributes, then its edges, then its attributes as defaults of the graph.
-/

namespace DotGraph

def Attrs.toItems (attrs : Attrs) : List AttrItem :=
  attrs.entries.map fun entry => .pair entry.1 entry.2

def Node.toStatement (node : Node) : Statement := .node ⟨node.id, none⟩ node.attrs.toItems

def Edge.toStatement (edge : Edge) : Statement :=
  .edge [⟨edge.source, none⟩, ⟨edge.target, none⟩] edge.attrs.toItems

/-- The body of a container, given the statements of its entries. -/
def containerBody (entries : List Statement) (edges : List Edge) (attrs : Attrs) :
    List Statement :=
  entries ++ edges.map Edge.toStatement ++ [.attr .graph attrs.toItems]

namespace Entry

mutual

def toStatement : Entry Node → Statement
  | .node value => value.toStatement
  | .subgraph id entries edges attrs =>
    .subgraph id (containerBody (toStatements entries) edges attrs)

def toStatements : List (Entry Node) → List Statement
  | [] => []
  | entry :: entries => toStatement entry :: toStatements entries

end

end Entry

def Graph.toDecl (graph : Graph) : GraphDecl :=
  ⟨graph.kind, graph.strict, graph.id,
    containerBody (Entry.toStatements graph.entries) graph.edges graph.attrs⟩

end DotGraph
