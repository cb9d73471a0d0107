import DotGraph.Proofs.Containers
import DotGraph.Proofs.NodeAttrs
import DotGraph.Session

/-!
# Bodies that go on

Statements that follow those of a body add entries and edges after the ones that are there. Of what
is there they change the attributes of the nodes that they state something on and the attributes of
the container itself, and nothing else (`Graph.extendsBy_append`).
-/

namespace DotGraph

/-- A node with what later statements on it add. -/
def Node.restated (later : List Statement) (node : Node) : Node :=
  ⟨node.id, node.attrs.overlay (Statement.ownPairsAll node.id later)⟩

/-- What later statements make of a container. The entries that are there stay in front, with every
subgraph among them as it was but for the nodes that are restated. -/
structure Container.ExtendsBy (later : List Statement) (first second : Container Node) : Prop where
  entries : Entry.mapAll (Node.restated later) first.entries <+: second.entries
  edges : first.edges <+: second.edges
  attrs : second.attrs = first.attrs.overlay (Statement.defaultPairs .graph later)

/-- A container as it is reduced, with the attributes that its nodes have in the end. -/
def Reduction.resolved (reduction : Reduction) : Container Node :=
  reduction.container.map reduction.table.node

namespace Statement

/-- A node that a body places is in the table after it. -/
theorem get?_of_mem_nodesAll {scope : Scope} {table : NodeTable} {statements : List Statement}
    {id : String} (placed : id ∈ Entry.nodesAll (reduceAll scope table statements).entries) :
    ∃ attrs, (reduceAll scope table statements).table.get? id = some attrs := by
  rw [nodesAll_reduceAll] at placed
  have known : id ∈ (reduceAll scope table statements).table.keys := by
    rw [keys_reduceAll]
    exact List.mem_append_right _ placed
  exact Option.isSome_iff_exists.mp (OrderedMap.mem_keys_iff.mp known)

theorem extendsBy_reduceAll (scope : Scope) (table : NodeTable) (children later : List Statement) :
    (reduceAll scope table children).resolved.ExtendsBy later
      (reduceAll scope table (children ++ later)).resolved := by
  rw [reduceAll_append]
  generalize reduced : reduceAll scope table children = first
  generalize added : reduceAll first.scope first.table later = second
  have stated (id : String) (placed : id ∈ Entry.nodesAll first.entries) :
      Node.restated later (first.table.node id) = second.table.node id := by
    subst reduced added
    obtain ⟨attrs, there⟩ := get?_of_mem_nodesAll placed
    rw [NodeTable.node, NodeTable.node, there, get?_reduceAll_of_some _ there]
    rfl
  refine ⟨?_, List.prefix_append _ _, ?_⟩
  · change Entry.mapAll (Node.restated later) (Entry.mapAll first.table.node first.entries) <+:
      Entry.mapAll second.table.node (first.entries ++ second.entries)
    rw [Entry.mapAll_mapAll_congr first.entries stated, Entry.mapAll_eq_map _ (_ ++ _),
      List.map_append, ← Entry.mapAll_eq_map]
    exact List.prefix_append _ _
  · subst added
    exact defaults_reduceAll .graph first.scope first.table later

end Statement

namespace Graph

/-- What follows the statements of a body changes nothing that they have made but the attributes of
nodes that it states something on and those of the container. This holds of a graph, whatever its
header, and of a subgraph, whatever the scope and the table that it starts from. -/
theorem extendsBy_append (children later : List Statement) :
    (∀ kind strict id,
      let first := ofDecl ⟨kind, strict, id, children⟩
      let second := ofDecl ⟨kind, strict, id, children ++ later⟩
      (second.kind, second.strict, second.id) = (first.kind, first.strict, first.id) ∧
        first.container.ExtendsBy later second.container) ∧
    ∀ (session : Session) (id : Option String), ∃ first second : Container Node,
      (session.body id children).1 = .subgraph id first.entries first.edges first.attrs ∧
        (session.body id (children ++ later)).1 =
          .subgraph id second.entries second.edges second.attrs ∧
        first.ExtendsBy later second := by
  constructor
  · intro kind strict id first second
    exact ⟨rfl, Statement.extendsBy_reduceAll ∅ ∅ children later⟩
  · intro session id
    exact ⟨_, _, rfl, rfl, Statement.extendsBy_reduceAll session.scope session.table children later⟩

end Graph

end DotGraph
