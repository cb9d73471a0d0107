import DotGraph.Graph.Export

/-!
# Graphs from JSON

The elements that exported objects stand for. A field that an export leaves out may be absent; what
has another shape stands for nothing.
-/

namespace DotGraph

open Json (field)

def textOf? : Json → Option String
  | .string text => some text
  | _ => none

/-- The id in the fields of a container, if it is one or none. -/
def idOf? (fields : List (String × Json)) : Option (Option String) :=
  match fields.lookup "id" with
  | none => some none
  | some (.string id) => some (some id)
  | some _ => none

def strictOf? (fields : List (String × Json)) : Option Bool :=
  match fields.lookup "strict" with
  | none => some false
  | some (.bool strict) => some strict
  | some _ => none

def Attrs.ofJson? : Json → Option Attrs
  | .object fields =>
    (fields.mapM fun entry => (textOf? entry.2).map (entry.1, ·)).map OrderedMap.ofPairs
  | _ => none

def Node.ofFields? (fields : List (String × Json)) : Option Node := do
  let id ← textOf? (field fields "id")
  let attrs ← Attrs.ofJson? (field fields "attr")
  return ⟨id, attrs⟩

def Edge.ofFields? (fields : List (String × Json)) : Option Edge := do
  let source ← textOf? (field fields "source")
  let target ← textOf? (field fields "target")
  let attrs ← Attrs.ofJson? (field fields "attr")
  return ⟨source, target, attrs⟩

def Edge.ofJson? : Json → Option Edge
  | .object fields => if textOf? (field fields "type") = some "edge" then ofFields? fields else none
  | _ => none

def edgesOf? (fields : List (String × Json)) : Option (List Edge) :=
  match field fields "edges" with
  | .array items => items.mapM Edge.ofJson?
  | _ => none

namespace Entry

mutual

def ofJson? : Json → Option (Entry Node)
  | .object fields =>
    if textOf? (field fields "type") = some "node" then (Node.ofFields? fields).map .node
    else if textOf? (field fields "type") = some Tag.subgraph.name then do
      let id ← idOf? fields
      let entries ← ofFields? fields
      let edges ← edgesOf? fields
      let attrs ← Attrs.ofJson? (field fields "attr")
      return .subgraph id entries edges attrs
    else none
  | _ => none

/-- The entries in the fields of a container. -/
def ofFields? : List (String × Json) → Option (List (Entry Node))
  | [] => none
  | (name, value) :: rest => if name = "nodes" then ofArray? value else ofFields? rest

def ofArray? : Json → Option (List (Entry Node))
  | .array items => ofItems? items
  | _ => none

def ofItems? : List Json → Option (List (Entry Node))
  | [] => some []
  | item :: items => do
    let entry ← ofJson? item
    let entries ← ofItems? items
    return entry :: entries

end

end Entry

def Graph.ofFields? (kind : GraphKind) (fields : List (String × Json)) : Option Graph := do
  let strict ← strictOf? fields
  let id ← idOf? fields
  let entries ← Entry.ofFields? fields
  let edges ← edgesOf? fields
  let attrs ← Attrs.ofJson? (field fields "attr")
  return ⟨kind, strict, id, entries, edges, attrs⟩

def Element.ofJson? : Json → Option Element
  | .object fields =>
    match textOf? (field fields "type") with
    | some "graph" => (Graph.ofFields? .graph fields).map .graph
    | some "digraph" => (Graph.ofFields? .digraph fields).map .graph
    | some "edge" => (Edge.ofFields? fields).map .edge
    | _ => (Entry.ofJson? (.object fields)).map .entry
  | _ => none

end DotGraph
