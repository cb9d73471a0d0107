import DotGraph.Proofs.NodeAttrs
import DotGraph.Session

/-!
# Calls that share a node table

Nodes, chains and bodies may be reduced in any order and under any defaults, with one node table for
all of them. After each call the nodes that the calls have yielded are those of the table, in its
order; of a node that is there already a call changes only what it states
(`Run.ofCalls_consistent`).
-/

namespace DotGraph

namespace Statement

mutual

/-- The ids of the statements on nodes, at any depth. -/
def stated : Statement → List String
  | .subgraph _ children => statedAll children
  | .node ref _ => [ref.id]
  | .edge .. | .attr .. | .graph .. | .foreign _ => []

def statedAll : List Statement → List String
  | [] => []
  | statement :: statements => stated statement ++ statedAll statements

end

mutual

theorem ownPairs_of_not_stated {id : String} : ∀ statement : Statement,
    id ∉ statement.stated → ownPairs id statement = []
  | .subgraph _ children => ownPairsAll_of_not_stated children
  | .node ref _ => fun absent => by
    have other : ref.id ≠ id := by simpa [stated, eq_comm] using absent
    simp [ownPairs, other]
  | .edge .. | .attr .. | .graph .. | .foreign _ => fun _ => by simp [ownPairs]

theorem ownPairsAll_of_not_stated {id : String} : ∀ statements : List Statement,
    id ∉ statedAll statements → ownPairsAll id statements = []
  | [] => fun _ => by simp [ownPairsAll]
  | statement :: statements => fun absent => by
    rw [statedAll, List.mem_append, not_or] at absent
    simp [ownPairsAll, ownPairs_of_not_stated statement absent.1,
      ownPairsAll_of_not_stated statements absent.2]

end

end Statement

namespace NodeTable

/-- A later table keeps the nodes of an earlier one and their attributes in place, and changes
attributes only of nodes on which something is stated. -/
structure Grows (stated : List String) (before after : NodeTable) : Prop where
  ids : before.keys <+: after.keys
  attrs : ∀ id attrs, before.get? id = some attrs →
    ∃ later, after.get? id = some later ∧ attrs.keys <+: later.keys ∧
      (id ∉ stated → later = attrs)

theorem map_id_nodes (table : NodeTable) : table.nodes.map Node.id = table.keys := by
  simp [nodes, OrderedMap.keys, Function.comp_def]

theorem grows_reduce (scope : Scope) (table : NodeTable) (statement : Statement) :
    Grows statement.stated table (statement.reduce scope table).table where
  ids := by
    rw [Statement.keys_reduce]
    exact List.prefix_append _ _
  attrs id attrs there := by
    refine ⟨_, Statement.get?_reduce_of_some scope there statement, ?_, fun unstated => ?_⟩
    · rw [OrderedMap.keys_overlay]
      exact List.prefix_append _ _
    · rw [Statement.ownPairs_of_not_stated statement unstated, OrderedMap.overlay_nil]

end NodeTable

/-- What is reduced, with the defaults given for it alone: a statement on a node, a chain, or a body
in a scope. -/
inductive Call
  | node (defaults : Attrs) (ref : NodeRef) (attrs : List AttrItem)
  | edge (nodeDefaults edgeDefaults : Attrs) (chain : List NodeRef) (attrs : List AttrItem)
  | body (scope : Scope) (id : Option String) (children : List Statement)

namespace Call

/-- The entries that a call yields, as they stand after it, and the table that it leaves. -/
def run (table : NodeTable) : Call → List (Entry Node) × NodeTable
  | .node defaults ref attrs =>
    let session : Session := ⟨⟨∅, defaults, ∅⟩, [], table⟩
    let (yielded, after) := session.statement (.node ref attrs)
    (yielded.1, after.table)
  | .edge nodeDefaults edgeDefaults chain attrs =>
    let session : Session := ⟨⟨∅, nodeDefaults, edgeDefaults⟩, [], table⟩
    let (yielded, after) := session.statement (.edge chain attrs)
    (yielded.1, after.table)
  | .body scope id children =>
    let session : Session := ⟨scope, [], table⟩
    let (entry, after) := session.body id children
    ([entry], after.table)

/-- The ids of the statements on nodes that a call contains. -/
def stated : Call → List String
  | .node _ ref _ => [ref.id]
  | .edge .. => []
  | .body _ _ children => Statement.statedAll children

/-- A call reduces one statement in some scope: a body as a subgraph. -/
theorem exists_reduce (call : Call) : ∃ (scope : Scope) (statement : Statement),
    statement.stated = call.stated ∧ ∀ table, call.run table =
      (Entry.mapAll (statement.reduce scope table).table.node
          (statement.reduce scope table).entries,
        (statement.reduce scope table).table) := by
  cases call with
  | node defaults ref attrs => exact ⟨⟨∅, defaults, ∅⟩, .node ref attrs, rfl, fun _ => rfl⟩
  | edge nodeDefaults edgeDefaults chain attrs =>
    exact ⟨⟨∅, nodeDefaults, edgeDefaults⟩, .edge chain attrs, rfl, fun _ => rfl⟩
  | body scope id children => exact ⟨scope, .subgraph id children, rfl, fun _ => rfl⟩

theorem grows_run (table : NodeTable) (call : Call) :
    NodeTable.Grows call.stated table (call.run table).2 := by
  obtain ⟨scope, statement, stated, reduced⟩ := call.exists_reduce
  rw [← stated, reduced]
  exact NodeTable.grows_reduce scope table statement

/-- The table gains the nodes that a call yields, in their order. -/
theorem keys_run (table : NodeTable) (call : Call) :
    (call.run table).2.keys =
      table.keys ++ (Entry.nodesAll (call.run table).1).map Node.id := by
  obtain ⟨scope, statement, -, reduced⟩ := call.exists_reduce
  rw [reduced]
  dsimp only
  rw [Statement.keys_reduce, Entry.ids_mapAll_node, Statement.nodes_reduce]

end Call

/-- What calls made one after another have yielded, and the table after them. -/
structure Run where
  yielded : List (Entry Node)
  table : NodeTable

namespace Run

def start : Run := ⟨[], ∅⟩

def call (run : Run) (call : Call) : Run :=
  ⟨run.yielded ++ (call.run run.table).1, (call.run run.table).2⟩

def ofCalls (calls : List Call) : Run := calls.foldl Run.call start

theorem ofCalls_append_singleton (calls : List Call) (call : Call) :
    ofCalls (calls ++ [call]) = (ofCalls calls).call call := by
  simp [ofCalls]

/-- The table holds each node once, under its id, and its nodes are those that were yielded, in the
order in which they stand in what was yielded. -/
structure Consistent (run : Run) : Prop where
  ids : run.table.nodes.map Node.id = run.table.keys
  nodup : run.table.keys.Nodup
  yielded : (Entry.nodesAll run.yielded).map Node.id = run.table.keys

theorem consistent_start : start.Consistent :=
  ⟨NodeTable.map_id_nodes _, List.nodup_nil, rfl⟩

theorem Consistent.call {run : Run} (consistent : run.Consistent) (next : Call) :
    (run.call next).Consistent where
  ids := NodeTable.map_id_nodes _
  nodup := (run.call next).table.nodup_keys
  yielded := by
    have gained := next.keys_run run.table
    rw [Run.call, Entry.nodesAll_append, List.map_append, consistent.yielded, gained]

theorem Consistent.calls {run : Run} (consistent : run.Consistent) (calls : List Call) :
    (calls.foldl Run.call run).Consistent := by
  induction calls generalizing run with
  | nil => exact consistent
  | cons next calls ih => exact ih (consistent.call next)

/-- Whatever is called, and so after each of several calls: what was yielded so far and the table
agree, and a further call leaves the nodes that are there in their places, with their attributes in
place and as they were if it has no statement on them. -/
theorem ofCalls_consistent (calls : List Call) :
    (ofCalls calls).Consistent ∧
    ∀ call : Call, NodeTable.Grows call.stated (ofCalls calls).table
      (ofCalls (calls ++ [call])).table := by
  refine ⟨consistent_start.calls calls, fun call => ?_⟩
  rw [ofCalls_append_singleton]
  exact call.grows_run (ofCalls calls).table

end Run

end DotGraph
