import DotGraph.Proofs.Edges
import DotGraph.Proofs.Equivalence
import DotGraph.Proofs.NormalForm

/-!
# What chains and attribute lists stand for

A chain stands for its links one after another, and for the mentions of its nodes; a statement with
attributes stands for one after another with parts of them. Wherever a statement is written out in
one of these ways (`Statement.Desugars`), the graph stays exactly what it is
(`Graph.ofDecl_desugared`).
-/

namespace DotGraph

namespace OrderedMap

universe u
variable {α : Type u}

theorem insert_insert (m : OrderedMap α) (key : String) (first second : α) :
    (m.insert key first).insert key second = m.insert key second := by
  refine ext_get? ?_ fun other => ?_
  · by_cases inside : key ∈ m.keys <;> simp [keys_insert, inside]
  · simp only [get?_insert]
    split <;> rfl

theorem insert_of_get? {m : OrderedMap α} {key : String} {value : α}
    (there : m.get? key = some value) : m.insert key value = m := by
  have inside : key ∈ m.keys := mem_keys_iff.mpr (by simp [there])
  refine ext_get? ?_ fun other => ?_
  · rw [keys_insert, if_pos inside]
  · rw [get?_insert]
    split
    · next same => rw [same, there]
    · rfl

end OrderedMap

theorem Scope.update_append (scope : Scope) (target : Target) (first second : List AttrItem) :
    scope.update target (first ++ second) = (scope.update target first).update target second := by
  cases target <;> simp only [update, Attrs.update_append]

namespace NodeTable

variable (table : NodeTable) (defaults : Attrs)

theorem declare_append (id : String) (first second : List AttrItem) :
    table.declare defaults id (first ++ second) =
      (table.declare defaults id first).declare defaults id second := by
  simp only [declare, OrderedMap.get?_insert, if_true, Option.getD_some, OrderedMap.insert_insert,
    Attrs.update_append]

/-- A statement on a node without attributes is a mention. -/
theorem declare_nil (id : String) : table.declare defaults id [] = table.mention defaults id := by
  unfold mention
  split
  · next there =>
    obtain ⟨attrs, found⟩ := Option.isSome_iff_exists.mp there
    rw [declare, found, Option.getD_some, Attrs.update_nil, OrderedMap.insert_of_get? found]
  · rfl

theorem mentionAll_cons (id : String) (ids : List String) :
    table.mentionAll defaults (id :: ids) =
      (table.mention defaults id).mentionAll defaults ids :=
  rfl

theorem mentionAll_append (first second : List String) :
    table.mentionAll defaults (first ++ second) =
      (table.mentionAll defaults first).mentionAll defaults second :=
  List.foldl_append

theorem mentionAll_of_mem {table : NodeTable} {ids : List String}
    (known : ∀ id ∈ ids, id ∈ table.keys) (defaults : Attrs) :
    table.mentionAll defaults ids = table := by
  induction ids with
  | nil => rfl
  | cons id ids ih =>
    rw [mentionAll_cons, mention_of_mem (known id List.mem_cons_self)]
    exact ih fun other inside => known other (List.mem_cons_of_mem id inside)

theorem mem_keys_mentionAll {ids : List String} {id : String} (inside : id ∈ ids) :
    id ∈ (table.mentionAll defaults ids).keys := by
  rw [keys_mentionAll, mem_append_fresh]
  exact List.mem_append_right _ inside

/-- What a table gains on the way from one to another and then to a third one. -/
theorem newIds_append {before middle after : NodeTable} {more others : List String}
    (grown : middle.keys = before.keys ++ more) (grown' : after.keys = middle.keys ++ others) :
    before.newIds after = before.newIds middle ++ middle.newIds after := by
  rw [newIds_eq grown, newIds_eq grown']
  apply newIds_eq
  rw [grown', grown, List.append_assoc]

end NodeTable

namespace Reduction

open NodeTable

/-- What mentions of nodes amount to, with the edges that are made between them. -/
def ofMentions (scope : Scope) (table : NodeTable) (ids : List String) (edges : List Edge) :
    Reduction :=
  ⟨(table.newIds (table.mentionAll scope.node ids)).map .node, edges, scope,
    table.mentionAll scope.node ids⟩

theorem ofMentions_nil (scope : Scope) (table : NodeTable) :
    ofMentions scope table [] [] = nothing scope table := by
  have none : table.mentionAll scope.node [] = table := rfl
  simp only [ofMentions, nothing, none, newIds_self, List.map_nil]

theorem followedBy_nothing (reduction : Reduction) :
    reduction.followedBy (nothing reduction.scope reduction.table) = reduction := by
  simp only [followedBy, nothing, List.append_nil]

theorem ofMentions_followedBy (scope : Scope) (table : NodeTable) (first second : List String)
    (edges more : List Edge) :
    (ofMentions scope table first edges).followedBy
        (ofMentions scope (table.mentionAll scope.node first) second more) =
      ofMentions scope table (first ++ second) (edges ++ more) := by
  have ids := newIds_append (keys_mentionAll table scope.node first)
    (keys_mentionAll (table.mentionAll scope.node first) scope.node second)
  simp only [ofMentions, followedBy, mentionAll_append, ids, List.map_append]

/-- Only the first mention of a node counts. -/
theorem ofMentions_of_mem (scope : Scope) (table : NodeTable) {first second : List String}
    (known : ∀ id ∈ second, id ∈ first) (rest : List String) (edges : List Edge) :
    ofMentions scope table (first ++ second ++ rest) edges =
      ofMentions scope table (first ++ rest) edges := by
  have repeated : table.mentionAll scope.node (first ++ second) =
      table.mentionAll scope.node first := by
    rw [mentionAll_append]
    exact mentionAll_of_mem (fun id inside => mem_keys_mentionAll table _ (known id inside)) _
  have same : table.mentionAll scope.node (first ++ second ++ rest) =
      table.mentionAll scope.node (first ++ rest) := by
    rw [mentionAll_append, repeated, ← mentionAll_append]
  simp only [ofMentions, same]

end Reduction

namespace Statement

open Reduction

theorem reduce_edge_eq (scope : Scope) (table : NodeTable) (chain : List NodeRef)
    (items : List AttrItem) :
    reduce scope table (.edge chain items) =
      ofMentions scope table (chain.map NodeRef.id)
        (chainEdges (scope.edge.update items) (chain.map NodeRef.id)) := by
  rw [← edgesOfChain_eq]
  rfl

theorem reduce_bare (scope : Scope) (table : NodeTable) (ref : NodeRef) :
    reduce scope table (.node ref []) = ofMentions scope table [ref.id] [] := by
  simp only [reduce, reduceNode, NodeTable.declare_nil]
  rfl

theorem reduceAll_singleton (scope : Scope) (table : NodeTable) (statement : Statement) :
    reduceAll scope table [statement] = reduce scope table statement :=
  followedBy_nothing _

theorem reduceAll_cons_of_mentions {scope : Scope} {table : NodeTable} {statement : Statement}
    {statements : List Statement} {ids others : List String} {edges more : List Edge}
    (first : reduce scope table statement = ofMentions scope table ids edges)
    (later : reduceAll scope (table.mentionAll scope.node ids) statements =
      ofMentions scope (table.mentionAll scope.node ids) others more) :
    reduceAll scope table (statement :: statements) =
      ofMentions scope table (ids ++ others) (edges ++ more) := by
  rw [reduceAll, first]
  dsimp only [ofMentions]
  rw [later]
  exact ofMentions_followedBy scope table ids others edges more

/-! ### What a statement can be written out as -/

/-- Statements without attributes on nodes. -/
def bareNodes (refs : List NodeRef) : List Statement := refs.map fun ref => .node ref []

theorem reduceAll_bareNodes (scope : Scope) (table : NodeTable) (refs : List NodeRef) :
    reduceAll scope table (bareNodes refs) =
      ofMentions scope table (refs.map NodeRef.id) [] := by
  induction refs generalizing table with
  | nil => exact (ofMentions_nil scope table).symm
  | cons ref refs ih => exact reduceAll_cons_of_mentions (reduce_bare scope table ref) (ih _)

/-- The links of a chain, each in a statement of its own. -/
def links (items : List AttrItem) : List NodeRef → List Statement
  | first :: second :: rest => .edge [first, second] items :: links items (second :: rest)
  | _ => []

theorem reduceAll_links (scope : Scope) (table : NodeTable) (items : List AttrItem)
    (first second : NodeRef) (rest : List NodeRef) :
    reduceAll scope table (links items (first :: second :: rest)) =
      reduce scope table (.edge (first :: second :: rest) items) := by
  induction rest generalizing table first second with
  | nil => exact reduceAll_singleton ..
  | cons third rest ih =>
    have later (table : NodeTable) := (ih table second third).trans (reduce_edge_eq ..)
    rw [links, reduceAll_cons_of_mentions (reduce_edge_eq ..) (later _), reduce_edge_eq]
    -- the second node ends one link and begins the next
    have known : ∀ id ∈ [second.id], id ∈ [first.id, second.id] := by simp
    exact ofMentions_of_mem scope table known _ _

theorem reduceAll_mentions (scope : Scope) (table : NodeTable) {chain refs : List NodeRef}
    (items : List AttrItem) (same : refs.map NodeRef.id = chain.map NodeRef.id) :
    reduceAll scope table (bareNodes refs ++ [.edge chain items]) =
      reduce scope table (.edge chain items) := by
  have known : ∀ id ∈ chain.map NodeRef.id, id ∈ chain.map NodeRef.id := fun _ inside => inside
  have twice := ofMentions_of_mem scope table known []
    (chainEdges (scope.edge.update items) (chain.map NodeRef.id))
  rw [List.append_nil, List.append_nil] at twice
  rw [reduceAll_append, reduceAll_bareNodes, reduceAll_singleton, same, reduce_edge_eq,
    reduce_edge_eq, ← twice]
  exact ofMentions_followedBy scope table _ _ [] _

theorem reduceAll_node_append (scope : Scope) (table : NodeTable) (ref : NodeRef)
    (first second : List AttrItem) :
    reduceAll scope table [.node ref first, .node ref second] =
      reduce scope table (.node ref (first ++ second)) := by
  have ids := NodeTable.newIds_append (table.keys_declare scope.node ref.id first)
    ((table.declare scope.node ref.id first).keys_declare scope.node ref.id second)
  rw [reduceAll, reduceAll_singleton]
  simp only [reduce, reduceNode, followedBy, NodeTable.declare_append, ids, List.map_append,
    List.append_nil]

theorem reduceAll_attr_append (scope : Scope) (table : NodeTable) (target : Target)
    (first second : List AttrItem) :
    reduceAll scope table [.attr target first, .attr target second] =
      reduce scope table (.attr target (first ++ second)) := by
  rw [reduceAll, reduceAll_singleton]
  simp only [reduce, nothing, followedBy, Scope.update_append, List.append_nil]

theorem ignoredAll_bareNodes (container : Option String) (refs : List NodeRef) :
    ignoredAll container (bareNodes refs) = [] := by
  induction refs with
  | nil => rfl
  | cons ref refs ih => exact ih

theorem ignoredAll_links (container : Option String) (items : List AttrItem)
    (chain : List NodeRef) : ignoredAll container (links items chain) = [] := by
  fun_induction links items chain with
  | case1 first second rest ih => exact ih
  | case2 => rfl

/-- A statement and what it can be written out as: a chain as its links or after statements on its
nodes, a chain of one node as a statement on it, a chain of none as nothing, and what has attributes
as two statements with some of them each. -/
inductive Desugars : List Statement → List Statement → Prop
  | links {chain : List NodeRef} {items : List AttrItem} : 3 ≤ chain.length →
      Desugars [.edge chain items] (Statement.links items chain)
  | mentions {chain refs : List NodeRef} {items : List AttrItem} :
      refs.map NodeRef.id = chain.map NodeRef.id →
      Desugars [.edge chain items] (bareNodes refs ++ [.edge chain items])
  | single {ref : NodeRef} {items : List AttrItem} : Desugars [.edge [ref] items] [.node ref []]
  | empty {items : List AttrItem} : Desugars [.edge [] items] []
  | node {ref : NodeRef} {first second : List AttrItem} :
      Desugars [.node ref (first ++ second)] [.node ref first, .node ref second]
  | attr {target : Target} {first second : List AttrItem} :
      Desugars [.attr target (first ++ second)] [.attr target first, .attr target second]

theorem Desugars.reduceAll_eq {first second : List Statement} (desugars : Desugars first second)
    (scope : Scope) (table : NodeTable) :
    reduceAll scope table first = reduceAll scope table second := by
  cases desugars with
  | @links chain items long =>
    match chain, long with
    | first :: second :: rest, _ =>
      rw [reduceAll_singleton, reduceAll_links]
  | mentions same =>
    rw [reduceAll_mentions scope table _ same, reduceAll_singleton]
  | single =>
    rw [reduceAll_singleton, reduceAll_singleton, reduce_edge_eq, reduce_bare]
    rfl
  | empty =>
    rw [reduceAll_singleton, reduce_edge_eq]
    exact ofMentions_nil scope table
  | node => rw [reduceAll_singleton, reduceAll_node_append]
  | attr => rw [reduceAll_singleton, reduceAll_attr_append]

theorem Desugars.ignoredAll_eq {first second : List Statement} (desugars : Desugars first second)
    (container : Option String) : ignoredAll container first = ignoredAll container second := by
  cases desugars with
  | links _ => rw [ignoredAll_links]; rfl
  | mentions _ => rw [ignoredAll_append, ignoredAll_bareNodes]; rfl
  | _ => rfl

theorem Desugars.equivalent {first second : List Statement} (desugars : Desugars first second) :
    Equivalent first second :=
  ⟨desugars.reduceAll_eq, desugars.ignoredAll_eq⟩

end Statement

namespace Graph

open Statement (Within Desugars)

/-- A statement at any depth of a graph that is written out leaves the graph exactly as it is, and
what is told about resolving it. -/
theorem ofDecl_desugared {children others : List Statement}
    (written : Within Desugars children others) :
    (∀ kind strict id,
      ofDecl ⟨kind, strict, id, children⟩ = ofDecl ⟨kind, strict, id, others⟩) ∧
    ∀ tag strict id,
      ofStatement? (.graph tag strict id children) =
        ofStatement? (.graph tag strict id others) := by
  have equivalent := written.equivalent Desugars.equivalent
  exact ⟨ofDecl_eq_of_equivalent equivalent, ofStatement?_eq_of_equivalent equivalent⟩

/-- A chain that comes back to its first node, in a subgraph before a statement on its other
node. -/
theorem ofDecl_desugared_loop :
    ofDecl ⟨.graph, false, none,
        [.subgraph none [.edge [⟨"a", none⟩, ⟨"b", none⟩, ⟨"a", some "n"⟩] [.pair "w" "x"]],
          .node ⟨"b", none⟩ [.pair "k" "v"]]⟩ =
      ofDecl ⟨.graph, false, none,
        [.subgraph none [.edge [⟨"a", none⟩, ⟨"b", none⟩] [.pair "w" "x"],
            .edge [⟨"b", none⟩, ⟨"a", some "n"⟩] [.pair "w" "x"]],
          .node ⟨"b", none⟩ [.pair "k" "v"]]⟩ := by
  have step := @Desugars.links [⟨"a", none⟩, ⟨"b", none⟩, ⟨"a", some "n"⟩] [.pair "w" "x"]
    (by decide)
  have inside := Within.here [] [] step
  exact (ofDecl_desugared (.subgraph [] [.node ⟨"b", none⟩ [.pair "k" "v"]] none inside)).1
    .graph false none

end Graph

end DotGraph
