import DotGraph.Graph.Basic
import DotGraph.Json.Printer

/-!
# Graphs as JSON

Every element is an object that names its type first. An absent id and a strictness that is not
there are left out.
-/

namespace DotGraph

/-- A graph or a part of one. -/
inductive Element
  | graph (graph : Graph)
  | entry (entry : Entry Node)
  | edge (edge : Edge)

namespace Attrs

def toJson (attrs : Attrs) : Json :=
  .object (attrs.entries.map fun entry => (entry.1, .string entry.2))

end Attrs

def Node.toJson (node : Node) : Json :=
  .object [("type", .string "node"), ("id", .string node.id), ("attr", node.attrs.toJson)]

def Edge.toJson (edge : Edge) : Json :=
  .object [("type", .string "edge"), ("source", .string edge.source),
    ("target", .string edge.target), ("attr", edge.attrs.toJson)]

/-- The fields of a graph or subgraph. -/
def containerFields (type : String) (strict : Bool) (id : Option String) (entries : List Json)
    (edges : List Edge) (attrs : Attrs) : List (String × Json) :=
  ("type", .string type) :: (if strict then [("strict", .bool true)] else []) ++
    (match id with
      | none => []
      | some id => [("id", .string id)]) ++
    [("nodes", .array entries), ("edges", .array (edges.map Edge.toJson)), ("attr", attrs.toJson)]

namespace Entry

mutual

def toJson : Entry Node → Json
  | .node value => value.toJson
  | .subgraph id entries edges attrs =>
    .object (containerFields Tag.subgraph.name false id (toJsonAll entries) edges attrs)

def toJsonAll : List (Entry Node) → List Json
  | [] => []
  | entry :: entries => toJson entry :: toJsonAll entries

end

end Entry

def Graph.toJson (graph : Graph) : Json :=
  .object (containerFields graph.kind.name graph.strict graph.id (Entry.toJsonAll graph.entries)
    graph.edges graph.attrs)

namespace Element

def toJson : Element → Json
  | .graph value => value.toJson
  | .entry value => value.toJson
  | .edge value => value.toJson

/-- The indent of an export for which none is asked. -/
def defaultIndent : Option Int := some 2

def render (elements : List Element) (indent : Option Int) : String :=
  (Json.array (elements.map toJson)).render (.ofIndent indent)

end Element

end DotGraph
