import DotGraph.Graph.OfStatements
import DotGraph.Proofs.Mention

/-!
# Where nodes are placed

A resolved container holds, in the order of its statements, a subgraph for each subgraph statement
and a node for each id that a statement is the first of the whole graph to mention. So the nodes of
a graph are its mentions without repetitions (`Graph.placement_ofDecl`).
-/

namespace DotGraph

/-- What stands in a container: ids of nodes, and subgraphs with what stands in them. -/
inductive Outline
  | node (id : String)
  | subgraph (id : Option String) (entries : List Outline)

namespace Entry

variable {ν μ : Type}

mutual

def outline (name : ν → String) : Entry ν → Outline
  | .node value => .node (name value)
  | .subgraph id entries _ _ => .subgraph id (outlineAll name entries)

def outlineAll (name : ν → String) : List (Entry ν) → List Outline
  | [] => []
  | entry :: entries => outline name entry :: outlineAll name entries

end

theorem outlineAll_append (name : ν → String) (first second : List (Entry ν)) :
    outlineAll name (first ++ second) = outlineAll name first ++ outlineAll name second := by
  induction first with
  | nil => rfl
  | cons entry entries ih => simp [outlineAll, ih]

theorem outlineAll_nodes (name : ν → String) (values : List ν) :
    outlineAll name (values.map .node) = values.map fun value => .node (name value) := by
  induction values with
  | nil => rfl
  | cons value values ih => simp [outlineAll, outline, ih]

mutual

theorem outline_map (name : μ → String) (f : ν → μ) : ∀ entry : Entry ν,
    outline name (map f entry) = outline (fun value => name (f value)) entry
  | .node _ => rfl
  | .subgraph id entries _ _ => congrArg (Outline.subgraph id) (outlineAll_mapAll name f entries)

theorem outlineAll_mapAll (name : μ → String) (f : ν → μ) : ∀ entries : List (Entry ν),
    outlineAll name (mapAll f entries) = outlineAll (fun value => name (f value)) entries
  | [] => rfl
  | entry :: entries => by
    rw [mapAll, outlineAll, outlineAll, outline_map, outlineAll_mapAll]

end

theorem nodesAll_nodes (values : List ν) : nodesAll (values.map .node) = values := by
  induction values with
  | nil => rfl
  | cons value values ih => simp [nodesAll, nodes, ih]

mutual

theorem nodes_map (f : ν → μ) : ∀ entry : Entry ν, nodes (map f entry) = (nodes entry).map f
  | .node _ => rfl
  | .subgraph _ entries _ _ => nodesAll_mapAll f entries

theorem nodesAll_mapAll (f : ν → μ) : ∀ entries : List (Entry ν),
    nodesAll (mapAll f entries) = (nodesAll entries).map f
  | [] => rfl
  | entry :: entries => by
    rw [mapAll, nodesAll, nodesAll, nodes_map, nodesAll_mapAll, List.map_append]

end

mutual

/-- Of two maps one after another only what they make of the nodes counts. -/
theorem map_map_congr {κ : Type} {f : ν → μ} {g : μ → κ} {h : ν → κ} : ∀ entry : Entry ν,
    (∀ value ∈ nodes entry, g (f value) = h value) → map g (map f entry) = map h entry
  | .node value => fun same => congrArg Entry.node (same value (List.mem_singleton.mpr rfl))
  | .subgraph id entries edges attrs => fun same => by
    rw [map, map, map, mapAll_mapAll_congr entries same]

theorem mapAll_mapAll_congr {κ : Type} {f : ν → μ} {g : μ → κ} {h : ν → κ} :
    ∀ entries : List (Entry ν), (∀ value ∈ nodesAll entries, g (f value) = h value) →
      mapAll g (mapAll f entries) = mapAll h entries
  | [] => fun _ => rfl
  | entry :: entries => fun same => by
    rw [nodesAll, List.forall_mem_append] at same
    rw [mapAll, mapAll, mapAll, map_map_congr entry same.1, mapAll_mapAll_congr entries same.2]

end

/-- Nodes that are looked up keep the ids under which they are placed. -/
theorem ids_mapAll_node (table : NodeTable) (entries : List (Entry String)) :
    (nodesAll (mapAll table.node entries)).map Node.id = nodesAll entries := by
  simp [nodesAll_mapAll, NodeTable.node, Function.comp_def]

mutual

/-- The edges of the containers within an entry, at any depth. -/
def edges : Entry ν → List Edge
  | .node _ => []
  | .subgraph _ entries own _ => own ++ edgesAll entries

def edgesAll : List (Entry ν) → List Edge
  | [] => []
  | entry :: entries => edges entry ++ edgesAll entries

end

theorem edgesAll_append (first second : List (Entry ν)) :
    edgesAll (first ++ second) = edgesAll first ++ edgesAll second := by
  induction first with
  | nil => rfl
  | cons entry entries ih => simp [edgesAll, ih]

theorem edgesAll_nodes (values : List ν) : edgesAll (values.map Entry.node) = [] := by
  induction values with
  | nil => rfl
  | cons value values ih => simp [edgesAll, edges, ih]

mutual

theorem edges_map (f : ν → μ) : ∀ entry : Entry ν, edges (map f entry) = edges entry
  | .node _ => rfl
  | .subgraph _ entries own _ => congrArg (own ++ ·) (edgesAll_mapAll f entries)

theorem edgesAll_mapAll (f : ν → μ) : ∀ entries : List (Entry ν),
    edgesAll (mapAll f entries) = edgesAll entries
  | [] => rfl
  | entry :: entries => by rw [mapAll, edgesAll, edgesAll, edges_map, edgesAll_mapAll]

end

end Entry

namespace Graph

/-- The ids of the nodes of a graph, in all its containers, in the order of their entries. -/
def nodeIds (graph : Graph) : List String := (Entry.nodesAll graph.entries).map Node.id

/-- The edges of a graph and of all its subgraphs. -/
def allEdges (graph : Graph) : List Edge := graph.edges ++ Entry.edgesAll graph.entries

end Graph

theorem mem_of_mem_edgesOfChain {attrs : Attrs} {ids : List String} {edge : Edge}
    (mem : edge ∈ edgesOfChain attrs ids) : edge.source ∈ ids ∧ edge.target ∈ ids := by
  obtain ⟨ends, inside, rfl⟩ := List.mem_map.mp mem
  have both := List.of_mem_zip inside
  exact ⟨both.1, List.mem_of_mem_tail both.2⟩

namespace Statement

mutual

/-- What a statement places in its container when the ids in `before` are mentioned before it. -/
def outline (before : List String) : Statement → List Outline
  | .subgraph id children => [.subgraph id (outlineAll before children)]
  | .node ref _ => (fresh before [ref.id]).map .node
  | .edge chain _ => (fresh before (chain.map NodeRef.id)).map .node
  | .attr .. | .graph .. | .foreign _ => []

def outlineAll (before : List String) : List Statement → List Outline
  | [] => []
  | statement :: statements =>
    outline before statement ++ outlineAll (before ++ statement.mentions) statements

end

mutual

theorem outline_congr {before other : List String} (same : ∀ id, id ∈ before ↔ id ∈ other) :
    ∀ statement : Statement, outline before statement = outline other statement
  | .subgraph id children => by rw [outline, outline, outlineAll_congr same children]
  | .node .. | .edge .. => by rw [outline, outline, fresh_congr same]
  | .attr .. | .graph .. | .foreign _ => rfl

theorem outlineAll_congr {before other : List String} (same : ∀ id, id ∈ before ↔ id ∈ other) :
    ∀ statements : List Statement, outlineAll before statements = outlineAll other statements
  | [] => rfl
  | statement :: statements => by
    have longer : ∀ id, id ∈ before ++ statement.mentions ↔ id ∈ other ++ statement.mentions :=
      fun id => by simp [same id]
    rw [outlineAll, outlineAll, outline_congr same, outlineAll_congr longer]

end

mutual

theorem outline_reduce (scope : Scope) (table : NodeTable) : ∀ statement : Statement,
    Entry.outlineAll id (reduce scope table statement).entries = outline table.keys statement
  | .subgraph _ children => by
    rw [outline, ← outlineAll_reduceAll scope table children]
    rfl
  | .node ref items => by
    rw [reduce, reduceNode, Entry.outlineAll_nodes,
      NodeTable.newIds_eq (table.keys_declare scope.node ref.id items)]
    rfl
  | .edge chain _ => by
    rw [reduce, reduceEdge, Entry.outlineAll_nodes,
      NodeTable.newIds_eq (table.keys_mentionAll scope.node (chain.map NodeRef.id))]
    rfl
  | .attr .. | .graph .. | .foreign _ => rfl

theorem outlineAll_reduceAll (scope : Scope) (table : NodeTable) : ∀ statements : List Statement,
    Entry.outlineAll id (reduceAll scope table statements).entries =
      outlineAll table.keys statements
  | [] => rfl
  | statement :: statements => by
    change Entry.outlineAll id ((reduce _ _ statement).entries ++ (reduceAll _ _ _).entries) = _
    rw [Entry.outlineAll_append, outline_reduce, outlineAll_reduceAll, keys_reduce, outlineAll,
      outlineAll_congr fun _ => mem_append_fresh]

end

mutual

theorem nodes_reduce (scope : Scope) (table : NodeTable) : ∀ statement : Statement,
    Entry.nodesAll (reduce scope table statement).entries = fresh table.keys statement.mentions
  | .subgraph _ children => by
    rw [mentions, ← nodesAll_reduceAll scope table children]
    exact List.append_nil _
  | .node ref items => by
    rw [reduce, reduceNode, Entry.nodesAll_nodes,
      NodeTable.newIds_eq (table.keys_declare scope.node ref.id items), mentions]
  | .edge chain _ => by
    rw [reduce, reduceEdge, Entry.nodesAll_nodes,
      NodeTable.newIds_eq (table.keys_mentionAll scope.node (chain.map NodeRef.id)), mentions]
  | .attr .. | .graph .. | .foreign _ => rfl

theorem nodesAll_reduceAll (scope : Scope) (table : NodeTable) : ∀ statements : List Statement,
    Entry.nodesAll (reduceAll scope table statements).entries =
      fresh table.keys (mentionsAll statements)
  | [] => rfl
  | statement :: statements => by
    change Entry.nodesAll ((reduce _ _ statement).entries ++ (reduceAll _ _ _).entries) = _
    rw [Entry.nodesAll_append, nodes_reduce, nodesAll_reduceAll, keys_reduce, mentionsAll,
      fresh_append, fresh_congr fun _ => mem_append_fresh]

end

mutual

theorem mem_mentions_of_mem_edges (edge : Edge) (scope : Scope) (table : NodeTable) :
    ∀ statement : Statement,
      edge ∈ (reduce scope table statement).edges ++
        Entry.edgesAll (reduce scope table statement).entries →
      edge.source ∈ statement.mentions ∧ edge.target ∈ statement.mentions
  | .subgraph _ children => fun mem =>
    mem_mentionsAll_of_mem_edges edge scope table children (by
      simpa [reduce, Reduction.toEntry, Entry.edgesAll, Entry.edges] using mem)
  | .node .. => fun mem => by simp [reduce, reduceNode, Entry.edgesAll_nodes] at mem
  | .edge chain items => fun mem => by
    have own : edge ∈ edgesOfChain (scope.edge.update items) (chain.map NodeRef.id) := by
      simpa [reduce, reduceEdge, Entry.edgesAll_nodes] using mem
    exact mem_of_mem_edgesOfChain own
  | .attr .. | .graph .. | .foreign _ => fun mem => by
    simp [reduce, Reduction.nothing, Entry.edgesAll] at mem

theorem mem_mentionsAll_of_mem_edges (edge : Edge) (scope : Scope) (table : NodeTable) :
    ∀ statements : List Statement,
      edge ∈ (reduceAll scope table statements).edges ++
        Entry.edgesAll (reduceAll scope table statements).entries →
      edge.source ∈ mentionsAll statements ∧ edge.target ∈ mentionsAll statements
  | [] => fun mem => by simp [reduceAll, Reduction.nothing, Entry.edgesAll] at mem
  | statement :: statements => fun mem => by
    have here := mem_mentions_of_mem_edges edge scope table statement
    have later := mem_mentionsAll_of_mem_edges edge (reduce scope table statement).scope
      (reduce scope table statement).table statements
    simp only [reduceAll, Reduction.followedBy, Entry.edgesAll_append, List.mem_append]
      at mem here later
    simp only [mentionsAll, List.mem_append]
    grind

end

end Statement

namespace Graph

theorem nodeIds_ofDecl (decl : GraphDecl) :
    (ofDecl decl).nodeIds = (Statement.mentionsAll decl.children).eraseDups := by
  rw [nodeIds, ofDecl, ofBody, Entry.ids_mapAll_node, bodyOf, Statement.nodesAll_reduceAll,
    OrderedMap.keys_empty, fresh_of_nothing]

theorem nodup_nodeIds_ofDecl (decl : GraphDecl) : (ofDecl decl).nodeIds.Nodup := by
  rw [nodeIds_ofDecl]
  exact nodup_eraseDups _

theorem count_nodeIds_ofDecl {decl : GraphDecl} {id : String}
    (mentioned : id ∈ Statement.mentionsAll decl.children) :
    (ofDecl decl).nodeIds.count id = 1 := by
  apply Nat.le_antisymm
  · exact List.nodup_iff_count.mp (nodup_nodeIds_ofDecl decl) id
  · rw [Nat.succ_le_iff, List.count_pos_iff, nodeIds_ofDecl]
    exact List.mem_eraseDups.mpr mentioned

theorem mentioned_of_mem_allEdges {decl : GraphDecl} {edge : Edge}
    (mem : edge ∈ (ofDecl decl).allEdges) :
    edge.source ∈ Statement.mentionsAll decl.children ∧
      edge.target ∈ Statement.mentionsAll decl.children := by
  apply Statement.mem_mentionsAll_of_mem_edges edge ∅ ∅ decl.children
  rwa [allEdges, ofDecl, ofBody, Entry.edgesAll_mapAll] at mem

/-- Every container holds its subgraphs and the nodes first mentioned in it; a graph has one node
for each id that it mentions, in the order of the first mentions, and so one for each end of an
edge. -/
theorem placement_ofDecl (decl : GraphDecl) :
    Entry.outlineAll Node.id (ofDecl decl).entries = Statement.outlineAll [] decl.children ∧
    (ofDecl decl).nodeIds = (Statement.mentionsAll decl.children).eraseDups ∧
    (ofDecl decl).nodeIds.Nodup ∧
    ∀ edge ∈ (ofDecl decl).allEdges,
      (ofDecl decl).nodeIds.count edge.source = 1 ∧
        (ofDecl decl).nodeIds.count edge.target = 1 := by
  refine ⟨?_, nodeIds_ofDecl decl, nodup_nodeIds_ofDecl decl, ?_⟩
  · rw [ofDecl, ofBody, Entry.outlineAll_mapAll]
    exact Statement.outlineAll_reduceAll ∅ ∅ decl.children
  · intro edge mem
    have mentioned := mentioned_of_mem_allEdges mem
    exact ⟨count_nodeIds_ofDecl mentioned.1, count_nodeIds_ofDecl mentioned.2⟩

/-- An edge within a subgraph, one of whose ends has its entry outside. -/
theorem placement_ofDecl_shared_end :
    let decl : GraphDecl := ⟨.digraph, false, none,
      [.node ⟨"a", none⟩ [], .subgraph (some "s") [.edge [⟨"b", none⟩, ⟨"a", none⟩] []]]⟩
    ⟨"b", "a", ∅⟩ ∈ (ofDecl decl).allEdges ∧
      (ofDecl decl).nodeIds.count "b" = 1 ∧ (ofDecl decl).nodeIds.count "a" = 1 := by
  intro decl
  have drawn : ⟨"b", "a", ∅⟩ ∈ (ofDecl decl).allEdges := by decide
  exact ⟨drawn, (placement_ofDecl decl).2.2.2 ⟨"b", "a", ∅⟩ drawn⟩

end Graph

end DotGraph
