import DotGraph.Proofs.Defaults
import DotGraph.Proofs.Placement

/-!
# The attributes of nodes

A node has the defaults in effect where it is first mentioned, and over them the attributes of all
statements on it, wherever they stand (`Graph.attrs_ofDecl`).
-/

namespace DotGraph

namespace Statement

mutual

/-- The pairs of the statements on a node, at any depth, from left to right. -/
def ownPairs (id : String) : Statement → List (String × String)
  | .subgraph _ children => ownPairsAll id children
  | .node ref items => if ref.id = id then effectivePairs items else []
  | .edge .. | .attr .. | .graph .. | .foreign _ => []

def ownPairsAll (id : String) : List Statement → List (String × String)
  | [] => []
  | statement :: statements => ownPairs id statement ++ ownPairsAll id statements

end

theorem ownPairsAll_append (id : String) (first second : List Statement) :
    ownPairsAll id (first ++ second) = ownPairsAll id first ++ ownPairsAll id second := by
  induction first with
  | nil => rfl
  | cons statement statements ih => simp [ownPairsAll, ih]

theorem mem_mentions_node {id : String} {ref : NodeRef} {items : List AttrItem}
    (here : ref.id = id) : id ∈ (Statement.node ref items).mentions := by
  rw [mentions, List.mem_singleton, here]

mutual

theorem ownPairs_of_not_mentioned {id : String} : ∀ statement : Statement,
    id ∉ statement.mentions → ownPairs id statement = []
  | .subgraph _ children => ownPairsAll_of_not_mentioned children
  | .node .. => fun absent => if_neg fun same => absent (mem_mentions_node same)
  | .edge .. | .attr .. | .graph .. | .foreign _ => fun _ => rfl

theorem ownPairsAll_of_not_mentioned {id : String} : ∀ statements : List Statement,
    id ∉ mentionsAll statements → ownPairsAll id statements = []
  | [] => fun _ => rfl
  | statement :: statements => fun absent => by
    rw [mentionsAll, List.mem_append, not_or] at absent
    rw [ownPairsAll, ownPairs_of_not_mentioned statement absent.1,
      ownPairsAll_of_not_mentioned statements absent.2, List.append_nil]

end

/-- The way to the first mention of an id: for each scope on it, from the outermost in, the
statements that stand before the one that leads on, or that mentions the id. -/
inductive FirstMention (id : String) : List Statement → List (List Statement) → Prop
  | node {before after : List Statement} {ref : NodeRef} {items : List AttrItem}
      (unmentioned : id ∉ mentionsAll before) (here : ref.id = id) :
      FirstMention id (before ++ .node ref items :: after) [before]
  | edge {before after : List Statement} {chain : List NodeRef} {items : List AttrItem}
      (unmentioned : id ∉ mentionsAll before) (here : id ∈ chain.map NodeRef.id) :
      FirstMention id (before ++ .edge chain items :: after) [before]
  | inside {before after children : List Statement} {name : Option String}
      {way : List (List Statement)} (unmentioned : id ∉ mentionsAll before)
      (within : FirstMention id children way) :
      FirstMention id (before ++ .subgraph name children :: after) (before :: way)

namespace FirstMention

variable {id : String}

theorem mentioned {statements : List Statement} {way : List (List Statement)}
    (first : FirstMention id statements way) : id ∈ mentionsAll statements := by
  induction first with
  | node _ here => simp [mentionsAll_append, mentionsAll, mentions, here]
  | edge _ here =>
    rw [mentionsAll_append, mentionsAll, mentions]
    exact List.mem_append_right _ (List.mem_append_left _ here)
  | inside _ _ ih => simp [mentionsAll_append, mentionsAll, mentions, ih]

mutual

theorem exists_of_statement : ∀ (statement : Statement), id ∈ statement.mentions →
    ∀ before after : List Statement, id ∉ mentionsAll before →
      ∃ way, FirstMention id (before ++ statement :: after) way
  | .subgraph name children => fun inside before after unmentioned => by
    obtain ⟨way, within⟩ := exists_of_body children inside [] (by simp [mentionsAll])
    exact ⟨before :: way, .inside unmentioned within⟩
  | .node ref items => fun here before after unmentioned =>
    ⟨[before], .node unmentioned (List.mem_singleton.mp here).symm⟩
  | .edge chain items => fun here before after unmentioned =>
    ⟨[before], .edge unmentioned here⟩
  | .attr .. | .graph .. | .foreign _ => fun absent => absurd absent List.not_mem_nil

theorem exists_of_body : ∀ (statements : List Statement), id ∈ mentionsAll statements →
    ∀ before : List Statement, id ∉ mentionsAll before →
      ∃ way, FirstMention id (before ++ statements) way
  | [] => fun absent => absurd absent List.not_mem_nil
  | statement :: statements => fun mentioned before unmentioned => by
    by_cases here : id ∈ statement.mentions
    · exact exists_of_statement statement here before statements unmentioned
    · have later : id ∈ mentionsAll statements := by simpa [mentionsAll, here] using mentioned
      have still : id ∉ mentionsAll (before ++ [statement]) := by
        simp [mentionsAll_append, mentionsAll, unmentioned, here]
      simpa using exists_of_body statements later (before ++ [statement]) still

end

/-- The first of the statements of a body that mention an id is one of a kind. -/
theorem split_unique {before after before' after' : List Statement} {statement other : Statement}
    (same : before ++ statement :: after = before' ++ other :: after')
    (unmentioned : id ∉ mentionsAll before) (here : id ∈ statement.mentions)
    (unmentioned' : id ∉ mentionsAll before') (here' : id ∈ other.mentions) :
    before = before' ∧ statement = other ∧ after = after' := by
  rcases List.append_eq_append_iff.mp same with ⟨between, long, rest⟩ | ⟨between, long, rest⟩
  · cases between with
    | nil => simp_all
    | cons head tail =>
      cases rest
      exact absurd (by simp [long, mentionsAll_append, mentionsAll, here]) unmentioned'
  · cases between with
    | nil => simp_all
    | cons head tail =>
      cases rest
      exact absurd (by simp [long, mentionsAll_append, mentionsAll, here']) unmentioned

/-- The way to a first mention is known from the statement that mentions the id. -/
theorem inversion {before after : List Statement} {statement : Statement}
    {way : List (List Statement)} (first : FirstMention id (before ++ statement :: after) way)
    (unmentioned : id ∉ mentionsAll before) (here : id ∈ statement.mentions) :
    way = [before] ∧ (∀ name children, statement ≠ .subgraph name children) ∨
      ∃ name children inner, statement = .subgraph name children ∧ way = before :: inner ∧
        FirstMention id children inner := by
  generalize same : before ++ statement :: after = statements at first
  cases first with
  | node unmentioned' here' =>
    obtain ⟨rfl, rfl, -⟩ := split_unique same unmentioned here unmentioned'
      (mem_mentions_node here')
    exact .inl ⟨rfl, nofun⟩
  | edge unmentioned' here' =>
    obtain ⟨rfl, rfl, -⟩ := split_unique same unmentioned here unmentioned' here'
    exact .inl ⟨rfl, nofun⟩
  | inside unmentioned' within =>
    obtain ⟨rfl, rfl, -⟩ := split_unique same unmentioned here unmentioned' within.mentioned
    exact .inr ⟨_, _, _, rfl, rfl, within⟩

theorem unique {statements : List Statement} {way other : List (List Statement)}
    (first : FirstMention id statements way) (second : FirstMention id statements other) :
    other = way := by
  induction first generalizing other with
  | node unmentioned here =>
    rcases second.inversion unmentioned (mem_mentions_node here) with ⟨same, -⟩ | ⟨_, _, _, kind, _⟩
    · exact same
    · cases kind
  | edge unmentioned here =>
    rcases second.inversion unmentioned here with ⟨same, -⟩ | ⟨_, _, _, kind, _⟩
    · exact same
    · cases kind
  | inside unmentioned within ih =>
    rcases second.inversion unmentioned within.mentioned with ⟨-, kind⟩ | ⟨_, _, _, kind, rfl, rest⟩
    · exact absurd rfl (kind _ _)
    · cases kind
      rw [ih rest]

end FirstMention

end Statement

namespace NodeTable

theorem get?_declare (table : NodeTable) (defaults : Attrs) (id other : String)
    (items : List AttrItem) :
    (table.declare defaults id items).get? other =
      if other = id then some (((table.get? id).getD defaults).overlay (effectivePairs items))
      else table.get? other := by
  rw [declare, OrderedMap.get?_insert, Attrs.update_eq_overlay]

theorem get?_mention (table : NodeTable) (defaults : Attrs) (id other : String) :
    (table.mention defaults id).get? other =
      (table.get? other).or (if other = id then some defaults else none) := by
  unfold mention
  split
  · next known =>
    by_cases same : other = id
    · subst same
      obtain ⟨attrs, there⟩ := Option.isSome_iff_exists.mp known
      simp [there]
    · simp [same]
  · next unknown =>
    rw [get?_declare]
    by_cases same : other = id
    · subst same
      simp [Option.not_isSome_iff_eq_none.mp unknown]
    · simp [same]

theorem get?_mentionAll (table : NodeTable) (defaults : Attrs) (ids : List String)
    (other : String) :
    (table.mentionAll defaults ids).get? other =
      (table.get? other).or (if other ∈ ids then some defaults else none) := by
  induction ids generalizing table with
  | nil => simp [mentionAll]
  | cons id ids ih =>
    change ((table.mention defaults id).mentionAll defaults ids).get? other = _
    rw [ih, get?_mention, Option.or_assoc]
    by_cases same : other = id <;> simp [same]

end NodeTable

namespace Statement

mutual

/-- A node that is there gets the pairs of the statements on it, and nothing else. -/
theorem get?_reduce_of_some {id : String} (scope : Scope) {table : NodeTable} {attrs : Attrs}
    (there : table.get? id = some attrs) : ∀ statement : Statement,
    (reduce scope table statement).table.get? id = some (attrs.overlay (ownPairs id statement))
  | .subgraph _ children => get?_reduceAll_of_some scope there children
  | .node ref items => by
    change (table.declare scope.node ref.id items).get? id = _
    rw [NodeTable.get?_declare, ownPairs]
    by_cases same : ref.id = id
    · simp [same, there]
    · simp [same, Ne.symm same, there]
  | .edge chain _ => by
    change (table.mentionAll scope.node (chain.map NodeRef.id)).get? id = _
    rw [NodeTable.get?_mentionAll, there]
    rfl
  | .attr .. | .graph .. | .foreign _ => there

theorem get?_reduceAll_of_some {id : String} (scope : Scope) {table : NodeTable} {attrs : Attrs}
    (there : table.get? id = some attrs) : ∀ statements : List Statement,
    (reduceAll scope table statements).table.get? id =
      some (attrs.overlay (ownPairsAll id statements))
  | [] => there
  | statement :: statements => by
    change (reduceAll _ _ statements).table.get? id = _
    rw [get?_reduceAll_of_some _ (get?_reduce_of_some scope there statement), ownPairsAll,
      OrderedMap.overlay_append]

end

theorem get?_reduceAll_of_not_mentioned {id : String} (scope : Scope) {table : NodeTable}
    {statements : List Statement} (absent : table.get? id = none)
    (unmentioned : id ∉ mentionsAll statements) :
    (reduceAll scope table statements).table.get? id = none := by
  rw [OrderedMap.get?_eq_none_iff] at absent ⊢
  rw [keys_reduceAll, List.mem_append, mem_fresh]
  simp [absent, unmentioned]

/-- If the statement that mentions an id first gives it some attributes, it has at the end these and
the pairs of the statements that follow. -/
theorem get?_reduceAll_of_split {id : String} {scope : Scope} {table : NodeTable}
    {before after : List Statement} {statement : Statement} {attrs : Attrs}
    (unmentioned : id ∉ mentionsAll before)
    (introduced : (reduce (reduceAll scope table before).scope (reduceAll scope table before).table
      statement).table.get? id = some (attrs.overlay (ownPairs id statement))) :
    (reduceAll scope table (before ++ statement :: after)).table.get? id =
      some (attrs.overlay (ownPairsAll id (before ++ statement :: after))) := by
  rw [reduceAll_append]
  change (reduceAll _ _ after).table.get? id = _
  rw [get?_reduceAll_of_some _ introduced, ← OrderedMap.overlay_append, ownPairsAll_append,
    ownPairsAll_of_not_mentioned before unmentioned, List.nil_append, ownPairsAll]

theorem get?_reduceAll_of_firstMention {id : String} (scope : Scope) {table : NodeTable}
    {statements : List Statement} {way : List (List Statement)}
    (absent : table.get? id = none) (first : FirstMention id statements way) :
    (reduceAll scope table statements).table.get? id =
      some ((scope.node.overlay (way.flatMap (defaultPairs .node))).overlay
        (ownPairsAll id statements)) := by
  -- The scopes on the way are entered one after another, so the induction is on the way.
  have defaults (before : List Statement) (scope : Scope) (table : NodeTable) :
      (reduceAll scope table before).scope.node = scope.node.overlay (defaultPairs .node before) :=
    defaults_reduceAll .node scope table before
  induction first generalizing scope table with
  | node unmentioned here =>
    apply get?_reduceAll_of_split unmentioned
    have still := get?_reduceAll_of_not_mentioned scope absent unmentioned
    simp [reduce, reduceNode, NodeTable.get?_declare, still, here, ownPairs, defaults]
  | edge unmentioned here =>
    apply get?_reduceAll_of_split unmentioned
    have still := get?_reduceAll_of_not_mentioned scope absent unmentioned
    simp only [reduce, reduceEdge, NodeTable.get?_mentionAll, still, here, ownPairs, defaults]
    simp
  | @inside before after children name way unmentioned within ih =>
    apply get?_reduceAll_of_split unmentioned
    have still := get?_reduceAll_of_not_mentioned scope absent unmentioned
    change (reduceAll _ _ children).table.get? id = _
    rw [ih _ still, defaults, List.flatMap_cons, OrderedMap.overlay_append, ownPairs]

end Statement

namespace Graph

theorem attrs_of_firstMention {decl : GraphDecl} {id : String} {way : List (List Statement)}
    (first : Statement.FirstMention id decl.children way) :
    (bodyOf decl.children).table.node id =
      ⟨id, .ofPairs (way.flatMap (Statement.defaultPairs .node) ++
        Statement.ownPairsAll id decl.children)⟩ := by
  have found := Statement.get?_reduceAll_of_firstMention ∅ (OrderedMap.get?_empty id) first
  rw [NodeTable.node, bodyOf, found, Option.getD_some, ← OrderedMap.overlay_append]
  rfl

/-- The attributes of a node: the defaults for nodes on the way to its first mention, from the
outside in, and over them the pairs of all statements on it. -/
theorem attrs_ofDecl (decl : GraphDecl) (node : Node)
    (mem : node ∈ Entry.nodesAll (ofDecl decl).entries) :
    ∃ way, Statement.FirstMention node.id decl.children way ∧
      (∀ other, Statement.FirstMention node.id decl.children other → other = way) ∧
      node.attrs = .ofPairs (way.flatMap (Statement.defaultPairs .node) ++
        Statement.ownPairsAll node.id decl.children) := by
  rw [ofDecl, ofBody, Entry.nodesAll_mapAll] at mem
  obtain ⟨id, placed, rfl⟩ := List.mem_map.mp mem
  rw [bodyOf, Statement.nodesAll_reduceAll] at placed
  have mentioned : id ∈ Statement.mentionsAll decl.children := (mem_fresh.mp placed).1
  obtain ⟨way, first⟩ :=
    Statement.FirstMention.exists_of_body decl.children mentioned [] List.not_mem_nil
  refine ⟨way, first, fun other second => first.unique second, ?_⟩
  rw [attrs_of_firstMention first]

/-- A node mentioned first by an edge in a subgraph, under defaults of both scopes, and stated again
outside, after defaults that come too late. -/
theorem attrs_ofDecl_stated_again :
    let decl : GraphDecl := ⟨.digraph, false, none,
      [.attr .node [.pair "shape" "box", .pair "color" "red"],
        .subgraph none
          [.attr .node [.pair "color" "blue"], .edge [⟨"a", none⟩, ⟨"b", none⟩] [.pair "w" "1"]],
        .attr .node [.pair "style" "bold"],
        .node ⟨"b", none⟩ [.pair "label" "x", .pair "shape" "oval"]]⟩
    let node : Node :=
      ⟨"b", .ofPairs [("shape", "oval"), ("color", "blue"), ("label", "x")]⟩
    node ∈ Entry.nodesAll (ofDecl decl).entries ∧
      ∃ way, Statement.FirstMention node.id decl.children way ∧
        (∀ other, Statement.FirstMention node.id decl.children other → other = way) ∧
        node.attrs = .ofPairs (way.flatMap (Statement.defaultPairs .node) ++
          Statement.ownPairsAll node.id decl.children) := by
  intro decl node
  have placed : node ∈ Entry.nodesAll (ofDecl decl).entries := by decide
  exact ⟨placed, attrs_ofDecl decl node placed⟩

end Graph

end DotGraph
