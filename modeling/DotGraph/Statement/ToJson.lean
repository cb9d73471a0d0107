import DotGraph.Statement.Basic

/-!
# Statements as untyped values

The object that names the tag of a statement and holds its parts in fields. What is no statement
has no parts.
-/

namespace DotGraph

namespace Json

def ofOptional : Option String → Json
  | none => .null
  | some text => .string text

end Json

def AttrItem.toJson : AttrItem → Json
  | .pair key value =>
    .object [("type", .string "attr"), ("id", .string key), ("eq", .string value)]
  | .foreign => .null

def NodeRef.toJson (ref : NodeRef) : Json :=
  .object [("type", .string "node_id"), ("id", .string ref.id), ("port", .ofOptional ref.port)]

namespace Statement

def attrList (items : List AttrItem) : String × Json := ("attr_list", .array (items.map (·.toJson)))

mutual

def toJson : Statement → Json
  | .graph tag strict id children =>
    .object [("type", .string tag.name), ("id", .ofOptional id), ("strict", .bool strict),
      ("children", .array (toJsonAll children))]
  | .subgraph id children =>
    .object [("type", .string Tag.subgraph.name), ("id", .ofOptional id),
      ("children", .array (toJsonAll children))]
  | .node ref items =>
    .object [("type", .string Tag.node.name), ("node_id", ref.toJson), attrList items]
  | .edge chain items =>
    .object [("type", .string Tag.edge.name), ("edge_list", .array (chain.map (·.toJson))),
      attrList items]
  | .attr target items =>
    .object [("type", .string Tag.attr.name), ("target", .string target.name), attrList items]
  | .foreign _ => .null

def toJsonAll : List Statement → List Json
  | [] => []
  | statement :: statements => toJson statement :: toJsonAll statements

end

end Statement

end DotGraph
