import DotGraph.Json.Basic

/-!
# Statements

The statements of a graph description as they are written, before names are resolved: nothing is
merged, nothing inherited, and repeated attributes are kept in order.
-/

namespace DotGraph

/-- The names by which kinds of statement are told apart. -/
inductive Tag
  | graph
  | digraph
  | subgraph
  | node
  | edge
  | attr
  deriving DecidableEq

namespace Tag

def all : List Tag := [.graph, .digraph, .subgraph, .node, .edge, .attr]

def name : Tag → String
  | .graph => "graph"
  | .digraph => "digraph"
  | .subgraph => "subgraph"
  | .node => "node_stmt"
  | .edge => "edge_stmt"
  | .attr => "attr_stmt"

def ofName? (name : String) : Option Tag := all.find? (·.name == name)

@[simp] theorem ofName?_name (tag : Tag) : ofName? tag.name = some tag := by
  cases tag <;> decide

theorem name_of_ofName? {name : String} {tag : Tag} (h : ofName? name = some tag) :
    tag.name = name := by
  simpa using List.find?_some h

end Tag

inductive GraphKind
  | graph
  | digraph
  deriving DecidableEq

namespace GraphKind

def tag : GraphKind → Tag
  | .graph => .graph
  | .digraph => .digraph

def name (kind : GraphKind) : String := kind.tag.name

def ofTag? : Tag → Option GraphKind
  | .graph => some .graph
  | .digraph => some .digraph
  | _ => none

@[simp] theorem ofTag?_tag (kind : GraphKind) : ofTag? kind.tag = some kind := by
  cases kind <;> rfl

end GraphKind

/-- What a default attribute statement sets defaults for. -/
inductive Target
  | graph
  | node
  | edge
  deriving DecidableEq

namespace Target

def all : List Target := [.graph, .node, .edge]

def name : Target → String
  | .graph => "graph"
  | .node => "node"
  | .edge => "edge"

def ofName? (name : String) : Option Target := all.find? (·.name == name)

@[simp] theorem ofName?_name (target : Target) : ofName? target.name = some target := by
  cases target <;> decide

end Target

/-- A mention of a node, with the port an edge is to be attached to. -/
structure NodeRef where
  id : String
  port : Option String
  deriving DecidableEq

/-- An element of an attribute list. An element that is no pair has no effect. -/
inductive AttrItem
  | pair (key value : String)
  | foreign
  deriving DecidableEq

/-- A statement, or a value of another kind that stands in the place of one. -/
inductive Statement
  | graph (tag : Tag) (strict : Bool) (id : Option String) (children : List Statement)
  | subgraph (id : Option String) (children : List Statement)
  | node (ref : NodeRef) (attrs : List AttrItem)
  | edge (chain : List NodeRef) (attrs : List AttrItem)
  | attr (target : Target) (attrs : List AttrItem)
  | foreign (kind : Json.Kind)

namespace Statement

instance : Inhabited Statement := ⟨.foreign .null⟩

/-- How a record names a statement. -/
def label : Statement → String
  | .graph tag .. => tag.name
  | .subgraph .. => Tag.subgraph.name
  | .node .. => Tag.node.name
  | .edge .. => Tag.edge.name
  | .attr .. => Tag.attr.name
  | .foreign kind => kind.name

end Statement

/-- A graph as it is declared at the top level of a text. -/
structure GraphDecl where
  kind : GraphKind
  strict : Bool
  id : Option String
  children : List Statement

def GraphDecl.toStatement (decl : GraphDecl) : Statement :=
  .graph decl.kind.tag decl.strict decl.id decl.children

end DotGraph
