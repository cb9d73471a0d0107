import DotGraph.Graph.ToDecl
import DotGraph.Proofs.Composition
import DotGraph.Proofs.Edges
import DotGraph.Proofs.NodeAttrs

/-!
# Normal forms

What resolution yields is in normal form: every node has one entry, the ends of an edge have theirs
no later than the container of the edge has all its own, and every attribute has a key. A graph in
normal form is resolved to itself when it is declared with all that it holds
(`Graph.ofItems_toDecl`).
-/

namespace DotGraph

/-- Pairs that all have a key. -/
def KeyedPairs (pairs : List (String × String)) : Prop := "" ∉ pairs.map Prod.fst

def Attrs.Keyed (attrs : Attrs) : Prop := KeyedPairs attrs.entries

@[simp] theorem keyedPairs_append {first second : List (String × String)} :
    KeyedPairs (first ++ second) ↔ KeyedPairs first ∧ KeyedPairs second := by
  simp [KeyedPairs, not_or]

theorem keyedPairs_flatMap {α : Type} {pairs : α → List (String × String)} {list : List α}
    (keyed : ∀ a ∈ list, KeyedPairs (pairs a)) : KeyedPairs (list.flatMap pairs) := by
  induction list with
  | nil => simp [KeyedPairs]
  | cons a list ih =>
    rw [List.flatMap_cons, keyedPairs_append]
    exact ⟨keyed a List.mem_cons_self, ih fun b inside => keyed b (List.mem_cons_of_mem a inside)⟩

theorem keyedPairs_effectivePairs (items : List AttrItem) : KeyedPairs (effectivePairs items) := by
  induction items with
  | nil => simp [KeyedPairs]
  | cons item items ih =>
    have first : KeyedPairs (effectivePairs [item]) := by
      cases item with
      | pair key value =>
        by_cases empty : key = "" <;>
          simp [KeyedPairs, effectivePairs, AttrItem.effective?, empty, eq_comm]
      | foreign => simp [KeyedPairs, effectivePairs, AttrItem.effective?]
    rw [← List.singleton_append, effectivePairs_append, keyedPairs_append]
    exact ⟨first, ih⟩

namespace Attrs

theorem keyed_empty : (∅ : Attrs).Keyed := by simp [Keyed, KeyedPairs]

theorem keyed_overlay {attrs : Attrs} {pairs : List (String × String)} (keyed : attrs.Keyed)
    (keyed' : KeyedPairs pairs) : Keyed (attrs.overlay pairs) := by
  change "" ∉ (attrs.overlay pairs).keys
  rw [OrderedMap.keys_overlay, mem_append_fresh, List.mem_append, not_or]
  exact ⟨keyed, keyed'⟩

theorem effectivePairs_toItems {attrs : Attrs} (keyed : attrs.Keyed) :
    effectivePairs attrs.toItems = attrs.entries := by
  have each : ∀ pairs : List (String × String), KeyedPairs pairs →
      effectivePairs (pairs.map fun entry => .pair entry.1 entry.2) = pairs := by
    intro pairs
    induction pairs with
    | nil => simp
    | cons pair pairs ih =>
      intro keyed
      simp only [KeyedPairs, List.map_cons, List.mem_cons, not_or] at keyed
      have later := ih keyed.2
      simp only [effectivePairs] at later
      simp [effectivePairs, AttrItem.effective?, Ne.symm keyed.1, later]
  exact each attrs.entries keyed

/-- Attributes that are written out are laid over nothing as they were. -/
theorem update_toItems {attrs : Attrs} (keyed : attrs.Keyed) :
    (∅ : Attrs).update attrs.toItems = attrs := by
  rw [update_eq_overlay, effectivePairs_toItems keyed]
  exact OrderedMap.ofPairs_entries attrs

end Attrs

/-! ### Normal forms -/

/-- An edge between nodes that have their entries. -/
structure Edge.Settled (known : List String) (edge : Edge) : Prop where
  source : edge.source ∈ known
  target : edge.target ∈ known
  keyed : edge.attrs.Keyed

namespace Entry

mutual

/-- An entry in normal form after entries of nodes with some ids. -/
def Normal (before : List String) : Entry Node → Prop
  | .node value => value.id ∉ before ∧ value.attrs.Keyed
  | .subgraph _ entries edges attrs =>
    NormalAll before entries ∧
      (∀ edge ∈ edges, edge.Settled (before ++ (nodesAll entries).map Node.id)) ∧ attrs.Keyed

def NormalAll (before : List String) : List (Entry Node) → Prop
  | [] => True
  | entry :: entries =>
    Normal before entry ∧ NormalAll (before ++ (nodes entry).map Node.id) entries

end

theorem normalAll_append {before : List String} {first second : List (Entry Node)} :
    NormalAll before (first ++ second) ↔
      NormalAll before first ∧ NormalAll (before ++ (nodesAll first).map Node.id) second := by
  induction first generalizing before with
  | nil => simp [NormalAll, nodesAll]
  | cons entry entries ih => simp [NormalAll, nodesAll, ih, and_assoc]

theorem normalAll_nodes {before ids : List String} {value : String → Node}
    (named : ∀ id, (value id).id = id) (keyed : ∀ id, (value id).attrs.Keyed)
    (new : ∀ id ∈ ids, id ∉ before) (nodup : ids.Nodup) :
    NormalAll before (mapAll value (ids.map .node)) := by
  induction ids generalizing before with
  | nil => simp [mapAll, NormalAll]
  | cons id ids ih =>
    obtain ⟨absent, nodup⟩ := List.nodup_cons.mp nodup
    refine ⟨⟨?_, keyed id⟩, ih (fun other inside => ?_) nodup⟩
    · rw [named]
      exact new id List.mem_cons_self
    · have apart : other ≠ id := by
        rintro rfl
        exact absent inside
      simp [map, nodes, named, apart, new other (List.mem_cons_of_mem id inside)]

mutual

theorem fresh_nodes : ∀ (entry : Entry Node) {before : List String}, Normal before entry →
    fresh before ((nodes entry).map Node.id) = (nodes entry).map Node.id
  | .node value, before => fun normal => by
    simp [nodes, fresh_singleton, normal.1]
  | .subgraph _ entries _ _, before => fun normal => fresh_nodesAll entries normal.1

theorem fresh_nodesAll : ∀ (entries : List (Entry Node)) {before : List String},
    NormalAll before entries →
      fresh before ((nodesAll entries).map Node.id) = (nodesAll entries).map Node.id
  | [], _ => fun _ => by simp [nodesAll]
  | entry :: entries, before => fun normal => by
    rw [nodesAll, List.map_append, fresh_append, fresh_nodes entry normal.1,
      fresh_nodesAll entries normal.2]

end

mutual

theorem map_id {ν : Type} : ∀ entry : Entry ν, map id entry = entry
  | .node _ => rfl
  | .subgraph name entries edges attrs =>
    congrArg (Entry.subgraph name · edges attrs) (mapAll_id entries)

theorem mapAll_id {ν : Type} : ∀ entries : List (Entry ν), mapAll id entries = entries
  | [] => rfl
  | entry :: entries => by rw [mapAll, map_id, mapAll_id]

end

theorem mapAll_mapAll_of_nodes {ν μ : Type} {f : ν → μ} {g : μ → ν} {entries : List (Entry ν)}
    (same : ∀ value ∈ nodesAll entries, g (f value) = value) :
    mapAll g (mapAll f entries) = entries :=
  (mapAll_mapAll_congr entries same).trans (mapAll_id entries)

end Entry

/-! ### What is declared in normal form is reduced to itself -/

namespace NodeTable

/-- A table with some more nodes. -/
def withNodes (table : NodeTable) (nodes : List Node) : NodeTable :=
  OrderedMap.overlay table (nodes.map fun node => (node.id, node.attrs))

theorem withNodes_append (table : NodeTable) (first second : List Node) :
    table.withNodes (first ++ second) = (table.withNodes first).withNodes second := by
  simp [withNodes, OrderedMap.overlay_append]

theorem keys_withNodes {table : NodeTable} {entries : List (Entry Node)}
    (normal : Entry.NormalAll table.keys entries) :
    (table.withNodes (Entry.nodesAll entries)).keys =
      table.keys ++ (Entry.nodesAll entries).map Node.id := by
  have names : ((Entry.nodesAll entries).map fun node => (node.id, node.attrs)).map Prod.fst =
      (Entry.nodesAll entries).map Node.id := by simp [Function.comp_def]
  rw [withNodes, OrderedMap.keys_overlay, names, Entry.fresh_nodesAll entries normal]

theorem node_withNodes {entries : List (Entry Node)} (normal : Entry.NormalAll [] entries)
    {value : Node} (inside : value ∈ Entry.nodesAll entries) :
    (withNodes ∅ (Entry.nodesAll entries)).node value.id = value := by
  have distinct : (((Entry.nodesAll entries).map fun node => (node.id, node.attrs)).reverse.map
      Prod.fst).Nodup := by
    have ids := Entry.fresh_nodesAll entries normal
    rw [fresh_of_nothing] at ids
    have nodup := nodup_eraseDups ((Entry.nodesAll entries).map Node.id)
    rw [ids] at nodup
    rw [List.map_reverse, List.map_map, List.Nodup, List.pairwise_reverse]
    exact nodup.imp Ne.symm
  have found : (withNodes ∅ (Entry.nodesAll entries)).get? value.id = some value.attrs := by
    change (OrderedMap.ofPairs _).get? _ = _
    rw [OrderedMap.get?_ofPairs, OrderedMap.lookup_eq_some_iff_mem distinct]
    simpa using ⟨value, inside, rfl, rfl⟩
  rw [node, found, Option.getD_some]

theorem newIds_self (table : NodeTable) : table.newIds table = [] :=
  newIds_eq (List.append_nil _).symm

theorem mention_of_mem {table : NodeTable} {id : String} (there : id ∈ table.keys)
    (defaults : Attrs) : table.mention defaults id = table :=
  if_pos (OrderedMap.mem_keys_iff.mp there)

theorem declare_of_new {table : NodeTable} {id : String} (new : id ∉ table.keys)
    (defaults : Attrs) (items : List AttrItem) :
    table.declare defaults id items = table.insert id (defaults.update items) := by
  rw [declare, OrderedMap.get?_eq_none_iff.mpr new, Option.getD_none]

end NodeTable

namespace Statement

theorem reduce_node {table : NodeTable} {value : Node} (new : value.id ∉ table.keys)
    (keyed : value.attrs.Keyed) :
    reduce ∅ table value.toStatement =
      ⟨[.node value.id], [], ∅, table.withNodes [value]⟩ := by
  have declared : table.declare (∅ : Scope).node value.id value.attrs.toItems =
      table.withNodes [value] := by
    rw [NodeTable.declare_of_new new]
    exact congrArg (table.insert value.id) (Attrs.update_toItems keyed)
  have ids := NodeTable.newIds_eq (table.keys_declare (∅ : Scope).node value.id value.attrs.toItems)
  rw [fresh_singleton, if_neg new] at ids
  simp only [Node.toStatement, reduce, reduceNode, ids]
  simp only [declared, List.map_cons, List.map_nil]

theorem reduce_edge {table : NodeTable} {edge : Edge} (settled : edge.Settled table.keys) :
    reduce ∅ table edge.toStatement = ⟨[], [edge], ∅, table⟩ := by
  have mentioned : table.mentionAll (∅ : Scope).node [edge.source, edge.target] = table := by
    simp [NodeTable.mentionAll, NodeTable.mention_of_mem settled.source,
      NodeTable.mention_of_mem settled.target]
  have attrs : (∅ : Scope).edge.update edge.attrs.toItems = edge.attrs :=
    Attrs.update_toItems settled.keyed
  simp [Edge.toStatement, reduce, reduceEdge, mentioned, attrs, NodeTable.newIds_self, edgesOfChain]

theorem reduceAll_edges {table : NodeTable} {edges : List Edge}
    (settled : ∀ edge ∈ edges, edge.Settled table.keys) :
    reduceAll ∅ table (edges.map Edge.toStatement) = ⟨[], edges, ∅, table⟩ := by
  induction edges with
  | nil => simp [reduceAll, Reduction.nothing]
  | cons edge edges ih =>
    have later := ih fun other inside => settled other (List.mem_cons_of_mem edge inside)
    simp [reduceAll, reduce_edge (settled edge List.mem_cons_self), later, Reduction.followedBy]

/-- The body of a container in normal form, given what its entries are reduced to. -/
theorem reduceAll_containerBody {table after : NodeTable} {statements : List Statement}
    {entries : List (Entry String)} {edges : List Edge} {attrs : Attrs}
    (reduced : reduceAll ∅ table statements = ⟨entries, [], ∅, after⟩)
    (settled : ∀ edge ∈ edges, edge.Settled after.keys) (keyed : attrs.Keyed) :
    reduceAll ∅ table (containerBody statements edges attrs) =
      ⟨entries, edges, ⟨attrs, ∅, ∅⟩, after⟩ := by
  have own : reduceAll ∅ after [.attr .graph attrs.toItems] = ⟨[], [], ⟨attrs, ∅, ∅⟩, after⟩ := by
    have updated : (∅ : Scope).graph.update attrs.toItems = attrs := Attrs.update_toItems keyed
    simp only [reduceAll, reduce, Reduction.nothing, Reduction.followedBy, Scope.update, updated]
    rfl
  simp [containerBody, reduceAll_append, reduced, reduceAll_edges settled, own,
    Reduction.followedBy]

mutual

theorem reduce_toStatement : ∀ (entry : Entry Node) {table : NodeTable},
    entry.Normal table.keys → reduce ∅ table entry.toStatement =
      ⟨[entry.map Node.id], [], ∅, table.withNodes entry.nodes⟩
  | .node value, table => fun normal => reduce_node normal.1 normal.2
  | .subgraph id entries edges attrs, table => fun normal => by
    have inner := reduceAll_toStatements entries normal.1
    have settled := normal.2.1
    rw [← NodeTable.keys_withNodes normal.1] at settled
    have body := reduceAll_containerBody inner settled normal.2.2
    simp only [Entry.toStatement, reduce, body]
    rfl

theorem reduceAll_toStatements : ∀ (entries : List (Entry Node)) {table : NodeTable},
    Entry.NormalAll table.keys entries → reduceAll ∅ table (Entry.toStatements entries) =
      ⟨Entry.mapAll Node.id entries, [], ∅, table.withNodes (Entry.nodesAll entries)⟩
  | [], table => fun _ => rfl
  | entry :: entries, table => fun normal => by
    have keys : (table.withNodes entry.nodes).keys = table.keys ++ entry.nodes.map Node.id := by
      have alone : Entry.NormalAll table.keys [entry] := ⟨normal.1, trivial⟩
      simpa [Entry.nodesAll] using NodeTable.keys_withNodes alone
    have first := reduce_toStatement entry normal.1
    have remaining : Entry.NormalAll (table.withNodes entry.nodes).keys entries := by
      rw [keys]
      exact normal.2
    have later := reduceAll_toStatements entries remaining
    simp [Entry.toStatements, reduceAll, first, later, Reduction.followedBy, Entry.mapAll,
      Entry.nodesAll, NodeTable.withNodes_append]

end

/-! ### Every attribute has a key -/

theorem keyedPairs_defaultPairs (target : Target) (statements : List Statement) :
    KeyedPairs (defaultPairs target statements) := by
  apply keyedPairs_flatMap
  intro statement _
  cases statement with
  | attr other items =>
    by_cases same : other = target
    · simp [same, keyedPairs_effectivePairs]
    · simp [same, KeyedPairs]
  | _ => simp [KeyedPairs]

mutual

theorem keyedPairs_ownPairs (id : String) : ∀ statement : Statement,
    KeyedPairs (ownPairs id statement)
  | .subgraph _ children => keyedPairs_ownPairsAll id children
  | .node ref items => by
    by_cases same : ref.id = id
    · simp [ownPairs, same, keyedPairs_effectivePairs]
    · simp [ownPairs, same, KeyedPairs]
  | .edge .. | .attr .. | .graph .. | .foreign _ => by simp [ownPairs, KeyedPairs]

theorem keyedPairs_ownPairsAll (id : String) : ∀ statements : List Statement,
    KeyedPairs (ownPairsAll id statements)
  | [] => by simp [ownPairsAll, KeyedPairs]
  | statement :: statements => by
    rw [ownPairsAll, keyedPairs_append]
    exact ⟨keyedPairs_ownPairs id statement, keyedPairs_ownPairsAll id statements⟩

end

end Statement

theorem keyed_of_mem_chainEdges {attrs : Attrs} (keyed : attrs.Keyed) {ids : List String}
    {edge : Edge} (inside : edge ∈ chainEdges attrs ids) : edge.attrs.Keyed := by
  rw [← edgesOfChain_eq] at inside
  obtain ⟨ends, -, rfl⟩ := List.mem_map.mp inside
  exact keyed

namespace Scope

/-- A scope whose defaults all have keys. -/
def Keyed (scope : Scope) : Prop := ∀ target, (scope.defaults target).Keyed

theorem keyed_empty : (∅ : Scope).Keyed := fun target => by
  cases target <;> exact Attrs.keyed_empty

theorem Keyed.reduce {scope : Scope} (keyed : scope.Keyed) (table : NodeTable)
    (statement : Statement) : (statement.reduce scope table).scope.Keyed := fun target => by
  rw [Statement.defaults_reduce]
  exact Attrs.keyed_overlay (keyed target) (Statement.keyedPairs_defaultPairs target [statement])

theorem Keyed.reduceAll {scope : Scope} (keyed : scope.Keyed) (table : NodeTable)
    (statements : List Statement) : (Statement.reduceAll scope table statements).scope.Keyed :=
  fun target => by
    rw [Statement.defaults_reduceAll]
    exact Attrs.keyed_overlay (keyed target) (Statement.keyedPairs_defaultPairs target statements)

end Scope

namespace Statement

theorem keyed_of_mem_bodyEdges {defaults : Attrs} (keyed : defaults.Keyed)
    {statements : List Statement} {edge : Edge} (inside : edge ∈ bodyEdges defaults statements) :
    edge.attrs.Keyed := by
  obtain ⟨⟨earlier, statement⟩, -, own⟩ := List.mem_flatMap.mp inside
  have inherited := Attrs.keyed_overlay keyed (keyedPairs_defaultPairs .edge earlier)
  cases statement with
  | edge chain items =>
    exact keyed_of_mem_chainEdges
      (Attrs.keyed_overlay inherited (keyedPairs_effectivePairs items)) own
  | _ => simp [ownEdges] at own

/-! ### What is reduced is in normal form -/

theorem mem_keys_reduceAll (scope : Scope) (table : NodeTable) {statements : List Statement}
    {id : String} (mentioned : id ∈ mentionsAll statements) :
    id ∈ (reduceAll scope table statements).table.keys := by
  rw [keys_reduceAll, mem_append_fresh]
  exact List.mem_append_right table.keys mentioned

/-- At the end of a body the ends of its edges are all there. -/
theorem settled_reduceAll {scope : Scope} (keyed : scope.Keyed) (table : NodeTable)
    (statements : List Statement) : ∀ edge ∈ (reduceAll scope table statements).edges,
      edge.Settled (reduceAll scope table statements).table.keys := by
  intro edge inside
  have ends := mem_mentionsAll_of_mem_edges edge scope table statements
    (List.mem_append_left _ inside)
  rw [edges_reduceAll] at inside
  exact ⟨mem_keys_reduceAll scope table ends.1, mem_keys_reduceAll scope table ends.2,
    keyed_of_mem_bodyEdges (keyed .edge) inside⟩

theorem normalAll_newIds {final before after : NodeTable} {names : List String}
    (tidy : ∀ id, (final.node id).attrs.Keyed)
    (grown : after.keys = before.keys ++ fresh before.keys names) :
    Entry.NormalAll before.keys
      (Entry.mapAll final.node ((before.newIds after).map Entry.node)) := by
  rw [NodeTable.newIds_eq grown]
  exact Entry.normalAll_nodes (fun _ => rfl) tidy (fun id new => (mem_fresh.mp new).2)
    (nodup_eraseDups _)

mutual

/-- What a statement is reduced to is in normal form once its nodes have all their attributes. -/
theorem normalAll_reduce {final : NodeTable} (tidy : ∀ id, (final.node id).attrs.Keyed)
    {scope : Scope} (keyed : scope.Keyed) (table : NodeTable) :
    ∀ statement : Statement, Entry.NormalAll table.keys
      (Entry.mapAll final.node (reduce scope table statement).entries)
  | .subgraph id children => by
    have known : table.keys ++ ((Entry.nodesAll (Entry.mapAll final.node
        (reduceAll scope table children).entries)).map Node.id) =
          (reduceAll scope table children).table.keys := by
      rw [Entry.ids_mapAll_node, nodesAll_reduceAll, keys_reduceAll]
    refine ⟨⟨normalAll_reduceAll tidy keyed table children, ?_,
      keyed.reduceAll table children .graph⟩, trivial⟩
    rw [known]
    exact settled_reduceAll keyed table children
  | .node ref items => normalAll_newIds tidy (table.keys_declare scope.node ref.id items)
  | .edge chain _ => normalAll_newIds tidy (table.keys_mentionAll scope.node (chain.map NodeRef.id))
  | .attr .. | .graph .. | .foreign _ => trivial

theorem normalAll_reduceAll {final : NodeTable} (tidy : ∀ id, (final.node id).attrs.Keyed)
    {scope : Scope} (keyed : scope.Keyed) (table : NodeTable) :
    ∀ statements : List Statement, Entry.NormalAll table.keys
      (Entry.mapAll final.node (reduceAll scope table statements).entries)
  | [] => trivial
  | statement :: statements => by
    have first := normalAll_reduce tidy keyed table statement
    have later := normalAll_reduceAll tidy (keyed.reduce table statement)
      (reduce scope table statement).table statements
    have split : (reduceAll scope table (statement :: statements)).entries =
        (reduce scope table statement).entries ++ (reduceAll (reduce scope table statement).scope
          (reduce scope table statement).table statements).entries := rfl
    have names : ((Entry.nodesAll (Entry.mapAll final.node
        (reduce scope table statement).entries)).map Node.id) =
          fresh table.keys statement.mentions := by
      rw [Entry.ids_mapAll_node, nodes_reduce]
    rw [keys_reduce] at later
    rw [split, Entry.mapAll_eq_map, List.map_append, ← Entry.mapAll_eq_map, ← Entry.mapAll_eq_map,
      Entry.normalAll_append, names]
    exact ⟨first, later⟩

end

end Statement

namespace Graph

/-- A graph in normal form. -/
structure Normal (graph : Graph) : Prop where
  entries : Entry.NormalAll [] graph.entries
  edges : ∀ edge ∈ graph.edges, edge.Settled graph.nodeIds
  keyed : graph.attrs.Keyed

theorem ofDecl_toDecl {graph : Graph} (normal : graph.Normal) : ofDecl graph.toDecl = graph := by
  obtain ⟨kind, strict, id, entries, edges, attrs⟩ := graph
  have fresh : Entry.NormalAll (∅ : NodeTable).keys entries := normal.entries
  have inner := Statement.reduceAll_toStatements entries fresh
  have settled : ∀ edge ∈ edges,
      edge.Settled (NodeTable.withNodes ∅ (Entry.nodesAll entries)).keys := by
    rw [NodeTable.keys_withNodes fresh]
    exact normal.edges
  have body := Statement.reduceAll_containerBody inner settled normal.keyed
  have nodes := Entry.mapAll_mapAll_of_nodes fun value inside =>
    NodeTable.node_withNodes normal.entries inside
  simp only [ofDecl, ofBody, toDecl, bodyOf, body, nodes]

/-- The attributes of a node come from defaults and from statements on it. -/
theorem keyed_node (children : List Statement) (id : String) :
    ((bodyOf children).table.node id).attrs.Keyed := by
  by_cases mentioned : id ∈ Statement.mentionsAll children
  · obtain ⟨way, first⟩ :=
      Statement.FirstMention.exists_of_body children mentioned [] List.not_mem_nil
    have attrs := @attrs_of_firstMention ⟨.graph, false, none, children⟩ id way first
    rw [attrs]
    apply Attrs.keyed_overlay Attrs.keyed_empty
    rw [keyedPairs_append]
    exact ⟨keyedPairs_flatMap fun before _ => Statement.keyedPairs_defaultPairs .node before,
      Statement.keyedPairs_ownPairsAll id children⟩
  · have absent : (bodyOf children).table.get? id = none :=
      Statement.get?_reduceAll_of_not_mentioned ∅ (OrderedMap.get?_empty id) mentioned
    rw [NodeTable.node, absent]
    exact Attrs.keyed_empty

theorem normal_ofDecl (decl : GraphDecl) : (ofDecl decl).Normal where
  entries := Statement.normalAll_reduceAll (keyed_node decl.children) Scope.keyed_empty ∅
    decl.children
  edges := by
    have settled := Statement.settled_reduceAll Scope.keyed_empty ∅ decl.children
    have known : (ofDecl decl).nodeIds = (bodyOf decl.children).table.keys := by
      rw [nodeIds_ofDecl, bodyOf, Statement.keys_reduceAll, OrderedMap.keys_empty, List.nil_append,
        fresh_of_nothing]
    rw [known]
    exact settled
  keyed := Scope.keyed_empty.reduceAll ∅ decl.children .graph

theorem exists_decl_of_ofStatement? {statement : Statement} {graph : Graph}
    (resolved : (ofStatement? statement).outcome = .ok (some graph)) :
    ∃ decl, ofDecl decl = graph := by
  cases statement with
  | graph tag strict id children =>
    cases tag <;> cases resolved <;> exact ⟨_, rfl⟩
  | _ => cases resolved

theorem exists_decl_of_ofItem? {item : Item} {graph : Graph}
    (resolved : (ofItem? item).outcome = .ok (some graph)) : ∃ decl, ofDecl decl = graph := by
  cases item with
  | statement statement => exact exists_decl_of_ofStatement? resolved
  | untyped value =>
    cases value with
    | object fields =>
      rw [ofItem?, Journal.outcome_bind] at resolved
      cases loaded : ((Statement.ofJson (.object fields)).mapError ResolveError.load).outcome with
      | error error => rw [loaded] at resolved; cases resolved
      | ok statement =>
        rw [loaded] at resolved
        cases statement with
        | none => exact exists_decl_of_ofStatement? resolved
        | some statement => exact exists_decl_of_ofStatement? resolved
    | _ => exact exists_decl_of_ofStatement? resolved

/-- Every graph of a result is what some declaration means. -/
theorem exists_decl_of_ofItems {items : List Item} {graphs : List Graph}
    (resolved : (ofItems items).outcome = .ok graphs) :
    ∀ graph ∈ graphs, ∃ decl, ofDecl decl = graph := by
  induction items generalizing graphs with
  | nil =>
    cases resolved
    simp
  | cons item items ih =>
    rw [outcome_ofItems_cons] at resolved
    cases first : (ofItem? item).outcome with
    | error error => rw [first] at resolved; cases resolved
    | ok found =>
      cases later : (ofItems items).outcome with
      | error error => rw [first, later] at resolved; cases resolved
      | ok others =>
        rw [first, later] at resolved
        cases resolved
        intro graph inside
        rcases List.mem_append.mp inside with here | there
        · exact exists_decl_of_ofItem? (Option.mem_toList.mp here ▸ first)
        · exact ih later graph there

/-- A graph that was resolved, declared with all its entries, edges and attributes, is resolved to
itself. -/
theorem ofItems_toDecl {items : List Item} {graphs : List Graph}
    (resolved : (ofItems items).outcome = .ok graphs) : ∀ graph ∈ graphs,
      (ofStatements [graph.toDecl.toStatement]).outcome = .ok [graph] := by
  intro graph inside
  obtain ⟨decl, rfl⟩ := exists_decl_of_ofItems resolved graph inside
  have again := outcome_ofStatements [(ofDecl decl).toDecl]
  rwa [List.map_singleton, List.map_singleton, ofDecl_toDecl (normal_ofDecl decl)] at again

/-- Defaults, a subgraph whose edge mentions its ends first, and a statement on one of them after
it. -/
theorem ofItems_toDecl_subgraph :
    let decl : GraphDecl := ⟨.digraph, true, some "g",
      [.attr .node [.pair "shape" "box"],
        .subgraph none [.attr .graph [.pair "rank" "same"],
          .edge [⟨"a", none⟩, ⟨"b", some "n"⟩] [.pair "" "x", .pair "w" "1"]],
        .node ⟨"b", none⟩ [.pair "color" "red"], .edge [⟨"c", none⟩, ⟨"a", none⟩] []]⟩
    let graph : Graph := ⟨.digraph, true, some "g",
      [.subgraph none [.node ⟨"a", .ofPairs [("shape", "box")]⟩,
          .node ⟨"b", .ofPairs [("shape", "box"), ("color", "red")]⟩]
          [⟨"a", "b", .ofPairs [("w", "1")]⟩] (.ofPairs [("rank", "same")]),
        .node ⟨"c", .ofPairs [("shape", "box")]⟩], [⟨"c", "a", ∅⟩], ∅⟩
    (ofItems [.statement decl.toStatement, .untyped .null]).outcome = .ok [graph] ∧
      (ofStatements [graph.toDecl.toStatement]).outcome = .ok [graph] := by
  intro decl graph
  have resolved :
      (ofItems [.statement decl.toStatement, .untyped .null]).outcome = .ok [graph] := by
    rfl
  exact ⟨resolved, ofItems_toDecl resolved graph List.mem_cons_self⟩

end Graph

end DotGraph
