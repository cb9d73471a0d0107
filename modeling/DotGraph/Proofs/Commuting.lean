import DotGraph.Proofs.Desugaring

/-!
# Statements that may change places

Defaults of a target are read by some statements only; a statement on a node reads and writes what
the node has; a chain of nodes that are known reads nothing of them. So two neighbours that do not
touch each other's part of the scope and of the node table may change places, in every context in
which their nodes are known (`Statement.Independent`, `Statement.EquivalentAfter`), and the graph
stays exactly what it is (`Graph.ofDecl_swapped`).
-/

namespace DotGraph

namespace OrderedMap

universe u
variable {α : Type u}

/-- Values are written under two keys in any order, if one of the keys is there. -/
theorem insert_comm {m : OrderedMap α} {key other : String} (apart : key ≠ other)
    (there : key ∈ m.keys) (first second : α) :
    (m.insert key first).insert other second = (m.insert other second).insert key first := by
  refine ext_get? ?_ fun name => ?_
  · have later : key ∈ (m.insert other second).keys := by
      rw [keys_insert_eq_append]
      exact List.mem_append_left _ there
    rw [keys_insert _ key, if_pos later, keys_insert, keys_insert m key, if_pos there, keys_insert]
  · simp only [get?_insert]
    by_cases same : name = key
    · rw [if_neg (same ▸ apart), if_pos same, if_pos same]
    · rw [if_neg same, if_neg same]

end OrderedMap

/-- Defaults of two targets are set in any order. -/
theorem Scope.update_comm (scope : Scope) {target other : Target} (apart : target ≠ other)
    (first second : List AttrItem) :
    (scope.update target first).update other second =
      (scope.update other second).update target first := by
  cases target <;> cases other <;> first | rfl | exact absurd rfl apart

namespace NodeTable

/-- The defaults are of no account for a node that is there. -/
theorem declare_of_mem {table : NodeTable} {id : String} (there : id ∈ table.keys)
    (defaults other : Attrs) (items : List AttrItem) :
    table.declare defaults id items = table.declare other id items := by
  obtain ⟨attrs, found⟩ := Option.isSome_iff_exists.mp (OrderedMap.mem_keys_iff.mp there)
  rw [declare, declare, found, Option.getD_some, Option.getD_some]

theorem keys_declare_of_mem {table : NodeTable} {id : String} (there : id ∈ table.keys)
    (defaults : Attrs) (items : List AttrItem) :
    (table.declare defaults id items).keys = table.keys := by
  rw [keys_declare, fresh_singleton, if_pos there, List.append_nil]

theorem mem_keys_declare {table : NodeTable} {id : String} (there : id ∈ table.keys)
    (defaults : Attrs) (other : String) (items : List AttrItem) :
    id ∈ (table.declare defaults other items).keys := by
  rw [keys_declare]
  exact List.mem_append_left _ there

theorem get?_declare_of_ne (table : NodeTable) {id other : String} (apart : id ≠ other)
    (defaults : Attrs) (items : List AttrItem) :
    (table.declare defaults other items).get? id = table.get? id := by
  rw [declare, OrderedMap.get?_insert, if_neg apart]

/-- Two nodes, one of which is there, are stated on in any order. -/
theorem declare_comm {table : NodeTable} {id other : String} (apart : id ≠ other)
    (there : id ∈ table.keys) (defaults : Attrs) (first second : List AttrItem) :
    (table.declare defaults id first).declare defaults other second =
      (table.declare defaults other second).declare defaults id first := by
  rw [declare, get?_declare_of_ne _ apart.symm, declare, OrderedMap.insert_comm apart there,
    declare, get?_declare_of_ne _ apart, declare]

end NodeTable

namespace Statement

/-! ### What a statement does not read -/

theorem reduce_node_eq (scope : Scope) (table : NodeTable) (ref : NodeRef)
    (items : List AttrItem) :
    reduce scope table (.node ref items) =
      ⟨(fresh table.keys [ref.id]).map .node, [], scope,
        table.declare scope.node ref.id items⟩ := by
  rw [← NodeTable.newIds_eq (table.keys_declare scope.node ref.id items)]
  rfl

theorem reduce_node_of_mem {table : NodeTable} {ref : NodeRef} (there : ref.id ∈ table.keys)
    (scope : Scope) (items : List AttrItem) :
    reduce scope table (.node ref items) =
      ⟨[], [], scope, table.declare scope.node ref.id items⟩ := by
  rw [reduce_node_eq, fresh_singleton, if_pos there]
  rfl

theorem reduce_edge_of_mem {table : NodeTable} {chain : List NodeRef}
    (there : ∀ ref ∈ chain, ref.id ∈ table.keys) (scope : Scope) (items : List AttrItem) :
    reduce scope table (.edge chain items) =
      ⟨[], edgesOfChain (scope.edge.update items) (chain.map NodeRef.id), scope, table⟩ := by
  have same := NodeTable.mentionAll_of_mem (List.forall_mem_map.mpr there) scope.node
  rw [reduce, reduceEdge]
  simp only [same, NodeTable.newIds_self, List.map_nil]

/-- A statement that changes no defaults and is reduced alike whether the defaults of a target are
set before it or not. -/
structure Overlooks (statement : Statement) (target : Target) (scope : Scope) (table : NodeTable) :
    Prop where
  scope_eq : (reduce scope table statement).scope = scope
  reduce_update : ∀ items, reduce (scope.update target items) table statement =
    { reduce scope table statement with scope := scope.update target items }

theorem overlooks_graph_node (ref : NodeRef) (items : List AttrItem) (scope : Scope)
    (table : NodeTable) : (node ref items).Overlooks .graph scope table :=
  ⟨rfl, fun _ => rfl⟩

theorem overlooks_graph_edge (chain : List NodeRef) (items : List AttrItem) (scope : Scope)
    (table : NodeTable) : (edge chain items).Overlooks .graph scope table :=
  ⟨rfl, fun _ => rfl⟩

theorem overlooks_edge_node (ref : NodeRef) (items : List AttrItem) (scope : Scope)
    (table : NodeTable) : (node ref items).Overlooks .edge scope table :=
  ⟨rfl, fun _ => rfl⟩

theorem overlooks_node_node {ref : NodeRef} {table : NodeTable} (there : ref.id ∈ table.keys)
    (items : List AttrItem) (scope : Scope) : (node ref items).Overlooks .node scope table where
  scope_eq := rfl
  reduce_update others := by
    rw [reduce_node_of_mem there, reduce_node_of_mem there,
      NodeTable.declare_of_mem there _ scope.node]

theorem overlooks_node_edge {chain : List NodeRef} {table : NodeTable}
    (there : ∀ ref ∈ chain, ref.id ∈ table.keys) (items : List AttrItem) (scope : Scope) :
    (edge chain items).Overlooks .node scope table where
  scope_eq := rfl
  reduce_update others := by
    rw [reduce_edge_of_mem there, reduce_edge_of_mem there]
    rfl

/-! ### Neighbours that change places -/

theorem reduceAll_pair (scope : Scope) (table : NodeTable) (first second : Statement) :
    reduceAll scope table [first, second] =
      (reduce scope table first).followedBy
        (reduce (reduce scope table first).scope (reduce scope table first).table second) := by
  rw [reduceAll, reduceAll_singleton]

theorem Overlooks.reduceAll_swap {statement : Statement} {target : Target} {scope : Scope}
    {table : NodeTable} (overlooks : statement.Overlooks target scope table)
    (items : List AttrItem) :
    reduceAll scope table [.attr target items, statement] =
      reduceAll scope table [statement, .attr target items] := by
  rw [reduceAll_pair, reduceAll_pair, overlooks.scope_eq]
  simp only [reduce, Reduction.nothing, Reduction.followedBy, overlooks.reduce_update,
    List.nil_append, List.append_nil]

theorem reduceAll_attrs_swap (scope : Scope) (table : NodeTable) {target other : Target}
    (apart : target ≠ other) (first second : List AttrItem) :
    reduceAll scope table [.attr target first, .attr other second] =
      reduceAll scope table [.attr other second, .attr target first] := by
  rw [reduceAll_pair, reduceAll_pair]
  simp only [reduce, Reduction.nothing, Reduction.followedBy, scope.update_comm apart]

theorem reduceAll_nodes_swap {table : NodeTable} {ref other : NodeRef}
    (apart : ref.id ≠ other.id) (there : ref.id ∈ table.keys) (scope : Scope)
    (first second : List AttrItem) :
    reduceAll scope table [.node ref first, .node other second] =
      reduceAll scope table [.node other second, .node ref first] := by
  have later := NodeTable.mem_keys_declare there scope.node other.id second
  rw [reduceAll_pair, reduceAll_pair, reduce_node_of_mem there, reduce_node_eq, reduce_node_eq]
  dsimp only
  rw [NodeTable.keys_declare_of_mem there, reduce_node_of_mem later,
    NodeTable.declare_comm apart there]
  simp only [Reduction.followedBy, List.nil_append, List.append_nil]

theorem reduceAll_node_edge_swap {table : NodeTable} {chain : List NodeRef}
    (there : ∀ ref ∈ chain, ref.id ∈ table.keys) (scope : Scope) (ref : NodeRef)
    (first second : List AttrItem) :
    reduceAll scope table [.node ref first, .edge chain second] =
      reduceAll scope table [.edge chain second, .node ref first] := by
  have later : ∀ other ∈ chain, other.id ∈ (table.declare scope.node ref.id first).keys :=
    fun other inside => NodeTable.mem_keys_declare (there other inside) scope.node ref.id first
  rw [reduceAll_pair, reduceAll_pair, reduce_node_eq, reduce_edge_of_mem there]
  dsimp only
  rw [reduce_edge_of_mem later, reduce_node_eq]
  simp only [Reduction.followedBy, List.nil_append, List.append_nil]

/-- Two statements that may change places where some ids are known: defaults of two targets;
defaults and a statement that does not read them, or that would read them only for a new node and
has known ones; statements on two nodes, one of them known; and a statement on a node and a chain of
known nodes. -/
inductive Independent (known : List String) : Statement → Statement → Prop
  | symm {first second : Statement} : Independent known first second →
      Independent known second first
  | attrs {target other : Target} {first second : List AttrItem} : target ≠ other →
      Independent known (.attr target first) (.attr other second)
  | graphNode {ref : NodeRef} {first second : List AttrItem} :
      Independent known (.attr .graph first) (.node ref second)
  | graphEdge {chain : List NodeRef} {first second : List AttrItem} :
      Independent known (.attr .graph first) (.edge chain second)
  | edgeNode {ref : NodeRef} {first second : List AttrItem} :
      Independent known (.attr .edge first) (.node ref second)
  | nodeNode {ref : NodeRef} {first second : List AttrItem} : ref.id ∈ known →
      Independent known (.attr .node first) (.node ref second)
  | nodeEdge {chain : List NodeRef} {first second : List AttrItem} :
      (∀ ref ∈ chain, ref.id ∈ known) → Independent known (.attr .node first) (.edge chain second)
  | nodes {ref other : NodeRef} {first second : List AttrItem} : ref.id ≠ other.id →
      ref.id ∈ known → Independent known (.node ref first) (.node other second)
  | chain {ref : NodeRef} {chain : List NodeRef} {first second : List AttrItem} :
      (∀ other ∈ chain, other.id ∈ known) →
      Independent known (.node ref first) (.edge chain second)

theorem Independent.reduceAll_eq {known : List String} {first second : Statement}
    (independent : Independent known first second) {table : NodeTable} (there : known ⊆ table.keys)
    (scope : Scope) :
    reduceAll scope table [first, second] = reduceAll scope table [second, first] := by
  induction independent with
  | symm _ ih => exact ih.symm
  | attrs apart => exact reduceAll_attrs_swap scope table apart _ _
  | graphNode => exact (overlooks_graph_node _ _ scope table).reduceAll_swap _
  | graphEdge => exact (overlooks_graph_edge _ _ scope table).reduceAll_swap _
  | edgeNode => exact (overlooks_edge_node _ _ scope table).reduceAll_swap _
  | nodeNode mentioned =>
    exact (overlooks_node_node (there mentioned) _ scope).reduceAll_swap _
  | nodeEdge mentioned =>
    exact (overlooks_node_edge (fun ref inside => there (mentioned ref inside)) _
      scope).reduceAll_swap _
  | nodes apart mentioned => exact reduceAll_nodes_swap apart (there mentioned) scope _ _
  | chain mentioned =>
    exact reduceAll_node_edge_swap (fun other inside => there (mentioned other inside)) scope _ _ _

theorem Independent.ignoredAll_eq {known : List String} {first second : Statement}
    (independent : Independent known first second) (container : Option String) :
    ignoredAll container [first, second] = ignoredAll container [second, first] := by
  induction independent with
  | symm _ ih => exact ih.symm
  | _ => rfl

/-! ### The context of the neighbours -/

/-- Statements that are reduced to the same in every scope and with every table that has some ids,
and leave the same records. -/
structure EquivalentAfter (known : List String) (first second : List Statement) : Prop where
  reduceAll_eq : ∀ {table : NodeTable}, known ⊆ table.keys → ∀ scope,
    reduceAll scope table first = reduceAll scope table second
  ignoredAll_eq : ∀ container, ignoredAll container first = ignoredAll container second

theorem Independent.equivalentAfter {known : List String} {first second : Statement}
    (independent : Independent known first second) :
    EquivalentAfter known [first, second] [second, first] :=
  ⟨independent.reduceAll_eq, independent.ignoredAll_eq⟩

namespace EquivalentAfter

variable {known : List String} {first second : List Statement}

theorem equivalent (same : EquivalentAfter [] first second) : Equivalent first second :=
  ⟨fun scope _ => same.reduceAll_eq (List.nil_subset _) scope, same.ignoredAll_eq⟩

/-- What the statements before mention is known to those after them. -/
theorem between {before : List Statement}
    (same : EquivalentAfter (known ++ mentionsAll before) first second) (after : List Statement) :
    EquivalentAfter known (before ++ first ++ after) (before ++ second ++ after) where
  reduceAll_eq {table} there scope := by
    have mentioned : known ++ mentionsAll before ⊆ (reduceAll scope table before).table.keys := by
      intro id inside
      rw [keys_reduceAll, mem_append_fresh]
      exact List.append_subset.mpr ⟨List.subset_append_of_subset_left _ there,
        List.subset_append_right _ _⟩ inside
    simp only [reduceAll_append, same.reduceAll_eq mentioned]
  ignoredAll_eq container := by
    simp only [ignoredAll_append, same.ignoredAll_eq]

theorem subgraph (same : EquivalentAfter known first second) (id : Option String) :
    EquivalentAfter known [.subgraph id first] [.subgraph id second] where
  reduceAll_eq there scope := by
    simp only [reduceAll, reduce, same.reduceAll_eq there]
  ignoredAll_eq container := by
    simp only [ignoredAll, ignored, same.ignoredAll_eq]

/-- A graph among statements is ignored as a whole. -/
theorem graph (known : List String) (tag : Tag) (strict : Bool) (id : Option String)
    (first second : List Statement) :
    EquivalentAfter known [.graph tag strict id first] [.graph tag strict id second] :=
  ⟨fun _ _ => rfl, fun _ => rfl⟩

end EquivalentAfter

/-- Two neighbours change places that are independent where they stand, given the ids that are
mentioned before: in the body itself, or at any depth below the subgraphs and graphs in it. -/
inductive Swapped : List String → List Statement → List Statement → Prop
  | here {known : List String} {before : List Statement} {first second : Statement}
      (after : List Statement) : Independent (known ++ mentionsAll before) first second →
      Swapped known (before ++ [first, second] ++ after) (before ++ [second, first] ++ after)
  | subgraph {known : List String} {before inner other : List Statement}
      (after : List Statement) (id : Option String) :
      Swapped (known ++ mentionsAll before) inner other →
      Swapped known (before ++ [.subgraph id inner] ++ after)
        (before ++ [.subgraph id other] ++ after)
  | graph {known : List String} {before inner other : List Statement} (after : List Statement)
      (tag : Tag) (strict : Bool) (id : Option String) :
      Swapped (known ++ mentionsAll before) inner other →
      Swapped known (before ++ [.graph tag strict id inner] ++ after)
        (before ++ [.graph tag strict id other] ++ after)

theorem Swapped.equivalentAfter {known : List String} {children others : List Statement}
    (swapped : Swapped known children others) : EquivalentAfter known children others := by
  induction swapped with
  | here after independent => exact independent.equivalentAfter.between after
  | subgraph after id _ ih => exact (ih.subgraph id).between after
  | graph after tag strict id _ _ => exact (EquivalentAfter.graph _ tag strict id _ _).between after

end Statement

namespace Graph

open Statement (Swapped)

/-- Two independent neighbours at any depth of a graph may change places: the graph stays exactly
what it is, and so does what is told about resolving it. -/
theorem ofDecl_swapped {children others : List Statement} (swapped : Swapped [] children others) :
    (∀ kind strict id,
      ofDecl ⟨kind, strict, id, children⟩ = ofDecl ⟨kind, strict, id, others⟩) ∧
    ∀ tag strict id,
      ofStatement? (.graph tag strict id children) =
        ofStatement? (.graph tag strict id others) := by
  have equivalent := swapped.equivalentAfter.equivalent
  exact ⟨ofDecl_eq_of_equivalent equivalent, ofStatement?_eq_of_equivalent equivalent⟩

/-- Defaults for nodes and a chain in a subgraph: its ends are mentioned before it, one of them in
another subgraph. -/
theorem ofDecl_swapped_defaults :
    let defaults : Statement := .attr .node [.pair "shape" "box"]
    let chain : Statement := .edge [⟨"a", none⟩, ⟨"b", none⟩] [.pair "w" "1"]
    let children (inner : List Statement) : List Statement :=
      [.node ⟨"a", none⟩ [], .subgraph none [.node ⟨"b", none⟩ []],
        .subgraph (some "s") (inner ++ [.node ⟨"c", none⟩ []])]
    Swapped [] (children [defaults, chain]) (children [chain, defaults]) ∧
      ofDecl ⟨.digraph, false, none, children [defaults, chain]⟩ =
        ofDecl ⟨.digraph, false, none, children [chain, defaults]⟩ := by
  intro defaults chain children
  have known : ∀ ref ∈ ([⟨"a", none⟩, ⟨"b", none⟩] : List NodeRef), ref.id ∈ ["a", "b"] := by
    decide
  have inside : Swapped ["a", "b"] ([defaults, chain] ++ [.node ⟨"c", none⟩ []])
      ([chain, defaults] ++ [.node ⟨"c", none⟩ []]) :=
    @Swapped.here _ [] _ _ [.node ⟨"c", none⟩ []] (.nodeEdge known)
  have swapped : Swapped [] (children [defaults, chain]) (children [chain, defaults]) :=
    @Swapped.subgraph _ [.node ⟨"a", none⟩ [], .subgraph none [.node ⟨"b", none⟩ []]] _ _ []
      (some "s") inside
  exact ⟨swapped, (ofDecl_swapped swapped).1 .digraph false none⟩

end Graph

end DotGraph
