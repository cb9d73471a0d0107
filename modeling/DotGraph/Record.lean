import DotGraph.Json.Display
import DotGraph.Statement.Basic

/-!
# Records

What is told about a run: what was read and resolved, and what was left out. Nothing is left out
without a record.
-/

namespace DotGraph

inductive Record
  /-- A text of a length was read as a number of declarations. -/
  | read (declarations length : Nat)
  | droppedTarget (target : Json)
  | droppedTag (tag : Json)
  | ignoredItem (label : String)
  | ignoredChild (label : String) (container : Option String)
  /-- A graph was resolved, with nodes in all its scopes and edges in its own. -/
  | resolved (tag : Tag) (id : Option String) (nodes edges : Nat)

namespace Record

def displayId (id : Option String) : String :=
  match id with
  | none => Json.null.display
  | some id => (Json.string id).display

def message : Record → String
  | .read declarations length =>
    s!"Read {declarations} graph(s) from {length} characters of DOT"
  | .droppedTarget target => "Dropping attr_stmt with unknown target " ++ target.display
  | .droppedTag tag => "Dropping raw statement with unknown tag " ++ tag.display
  | .ignoredItem label => "Ignoring top-level statement " ++ label
  | .ignoredChild label container =>
    "Ignoring " ++ label ++ " inside subgraph " ++ displayId container
  | .resolved tag id nodes edges =>
    "Resolved " ++ tag.name ++ " " ++ displayId id ++
      s!": {nodes} node(s), {edges} top-level edge(s)"

end Record

end DotGraph
