import DotGraph.Proofs.Containers

/-!
# The edges of containers

A container has the edges of the chains that stand directly in its body, one for each two neighbours
of a chain, with the defaults for edges in effect at the chain and over them the attributes of the
chain. What comes later in a text adds edges after these and changes none (`Graph.edges_ofDecl`).
-/

namespace DotGraph

/-- One edge from each id of a chain to the next. -/
def chainEdges (attrs : Attrs) : List String → List Edge
  | source :: target :: rest => ⟨source, target, attrs⟩ :: chainEdges attrs (target :: rest)
  | _ => []

theorem edgesOfChain_eq (attrs : Attrs) (ids : List String) :
    edgesOfChain attrs ids = chainEdges attrs ids := by
  fun_induction chainEdges attrs ids with
  | case1 source target rest ih =>
    rw [← ih]
    rfl
  | case2 ids short =>
    cases ids with
    | nil => rfl
    | cons source rest =>
      cases rest with
      | nil => rfl
      | cons target rest => exact absurd rfl (short source target rest)

theorem length_chainEdges (attrs : Attrs) (ids : List String) :
    (chainEdges attrs ids).length = ids.length - 1 := by
  rw [← edgesOfChain_eq, edgesOfChain, List.length_map, List.length_zip, List.length_tail]
  exact Nat.min_eq_right (Nat.sub_le ids.length 1)

namespace Statement

/-- The edges of a chain under the defaults for edges. -/
def ownEdges (defaults : Attrs) : Statement → List Edge
  | .edge chain items =>
    chainEdges (defaults.overlay (effectivePairs items)) (chain.map NodeRef.id)
  | _ => []

/-- The edges of the chains directly in a body, each under the defaults set before it. -/
def bodyEdges (defaults : Attrs) (statements : List Statement) : List Edge :=
  (withEarlier statements).flatMap fun entry =>
    entry.2.ownEdges (defaults.overlay (defaultPairs .edge entry.1))

theorem bodyEdges_append (defaults : Attrs) (first second : List Statement) :
    bodyEdges defaults (first ++ second) =
      bodyEdges defaults first ++
        bodyEdges (defaults.overlay (defaultPairs .edge first)) second := by
  unfold bodyEdges
  rw [withEarlier_append, List.flatMap_append, List.flatMap_map]
  simp only [defaultPairs_append, OrderedMap.overlay_append]

theorem bodyEdges_cons (defaults : Attrs) (statement : Statement) (statements : List Statement) :
    bodyEdges defaults (statement :: statements) =
      statement.ownEdges defaults ++
        bodyEdges (defaults.overlay (defaultPairs .edge [statement])) statements := by
  have alone : bodyEdges defaults [statement] = statement.ownEdges defaults := List.append_nil _
  rw [← alone]
  exact bodyEdges_append defaults [statement] statements

theorem edges_reduce (scope : Scope) (table : NodeTable) (statement : Statement) :
    (reduce scope table statement).edges = statement.ownEdges scope.edge := by
  cases statement with
  | edge chain items =>
    change edgesOfChain (scope.edge.update items) _ = _
    rw [edgesOfChain_eq, Attrs.update_eq_overlay]
    rfl
  | _ => rfl

theorem edges_reduceAll (scope : Scope) (table : NodeTable) (statements : List Statement) :
    (reduceAll scope table statements).edges = bodyEdges scope.edge statements := by
  induction statements generalizing scope table with
  | nil => rfl
  | cons statement statements ih =>
    change (reduce scope table statement).edges ++ (reduceAll _ _ statements).edges = _
    have after := defaults_reduce .edge scope table statement
    rw [ih, edges_reduce, bodyEdges_cons]
    exact congrArg (fun defaults => _ ++ bodyEdges defaults statements) after

/-- A body goes on at its end, or at the end of the subgraph that stands last in it. -/
inductive Continues : List Statement → List Statement → Prop
  | after (statements later : List Statement) : Continues statements (statements ++ later)
  | inside {inner longer : List Statement} (before later : List Statement) (id : Option String)
      (more : Continues inner longer) :
      Continues (before ++ [.subgraph id inner]) (before ++ .subgraph id longer :: later)

/-- What is there already stands at the same place, with the same before it on the way. -/
theorem Continues.place? {statements later : List Statement}
    (more : Continues statements later) {path : List Nat} {place : Place}
    (found : Statement.place? statements path = some place) :
    ∃ longer, Statement.place? later path = some longer ∧ longer.way = place.way ∧
      ∀ defaults, bodyEdges defaults place.body <+: bodyEdges defaults longer.body := by
  induction more generalizing path place with
  | after statements later =>
    cases path with
    | nil =>
      cases found
      refine ⟨_, rfl, rfl, fun defaults => ?_⟩
      rw [bodyEdges_append]
      exact List.prefix_append _ _
    | cons index path =>
      refine ⟨place, ?_, rfl, fun defaults => List.prefix_rfl⟩
      rw [Statement.place?, Option.bind_eq_some_iff] at found ⊢
      obtain ⟨inner, there, rest⟩ := found
      refine ⟨inner, ?_, rest⟩
      rw [subgraphs_append, List.getElem?_append_left (List.getElem?_eq_some_iff.mp there).1]
      exact there
  | @inside inner longer before later id more ih =>
    cases path with
    | nil =>
      cases found
      refine ⟨_, rfl, rfl, fun defaults => ?_⟩
      rw [bodyEdges_append, bodyEdges_append]
      exact (List.prefix_append_right_inj _).mpr List.nil_prefix
    | cons index path =>
      rw [Statement.place?, Option.bind_eq_some_iff] at found
      obtain ⟨next, there, rest⟩ := found
      rw [Statement.place?]
      rcases Nat.lt_trichotomy index (subgraphs before).length with earlier | rfl | beyond
      · rw [getElem?_subgraphs_before _ _ _ _ earlier] at there ⊢
        rw [there, Option.bind_some, rest]
        exact ⟨place, rfl, rfl, fun defaults => List.prefix_rfl⟩
      · rw [getElem?_subgraphs_at] at there ⊢
        cases there
        obtain ⟨deeper, inside, rfl⟩ := Option.map_eq_some_iff.mp rest
        obtain ⟨further, outside, sameWay, edges⟩ := ih inside
        refine ⟨⟨before :: further.way, further.body⟩, ?_, by rw [sameWay], edges⟩
        exact Option.map_eq_some_iff.mpr ⟨further, outside, rfl⟩
      · -- the subgraph that goes on is the last one
        obtain ⟨more, rfl⟩ := Nat.exists_eq_add_of_lt beyond
        rw [getElem?_subgraphs_after] at there
        cases there

end Statement

namespace Graph

theorem edges_at?_ofDecl (decl : GraphDecl) (path : List Nat) :
    ((ofDecl decl).container.at? path).map Container.edges =
      (Statement.place? decl.children path).map fun place =>
        Statement.bodyEdges (.ofPairs (place.inherited .edge)) place.body := by
  have resolved : (ofDecl decl).container =
      (bodyOf decl.children).container.map (bodyOf decl.children).table.node := rfl
  rw [resolved, Container.at?_map, Option.map_map]
  exact Statement.map_at?_reduceAll Container.edges (fun scope => Statement.bodyEdges scope.edge)
    (fun scope table body => Statement.edges_reduceAll scope table body) path ∅ ∅ decl.children

/-- Every container has the edges of the chains directly in its body, under the defaults that are in
effect there: one less than a chain has ends. A text that goes on keeps them. -/
theorem edges_ofDecl (decl : GraphDecl) :
    (∀ path, ((ofDecl decl).container.at? path).map Container.edges =
      (Statement.place? decl.children path).map fun place =>
        Statement.bodyEdges (.ofPairs (place.inherited .edge)) place.body) ∧
    (∀ attrs (chain : List NodeRef),
      (chainEdges attrs (chain.map NodeRef.id)).length = chain.length - 1) ∧
    ∀ later, Statement.Continues decl.children later → ∀ path container,
      (ofDecl decl).container.at? path = some container →
        ∃ longer, (ofDecl { decl with children := later }).container.at? path = some longer ∧
          container.edges <+: longer.edges := by
  refine ⟨edges_at?_ofDecl decl, fun attrs chain => ?_, fun later more path container found => ?_⟩
  · rw [length_chainEdges, List.length_map]
  · have edges := edges_at?_ofDecl decl path
    rw [found] at edges
    obtain ⟨place, there, own⟩ := Option.map_eq_some_iff.mp edges.symm
    obtain ⟨further, place', sameWay, grown⟩ := more.place? there
    have edges' := edges_at?_ofDecl { decl with children := later } path
    rw [place'] at edges'
    obtain ⟨longer, found', own'⟩ := Option.map_eq_some_iff.mp edges'
    have defaults : further.inherited .edge = place.inherited .edge :=
      congrArg (List.flatMap (Statement.defaultPairs .edge)) sameWay
    refine ⟨longer, found', ?_⟩
    rw [own', ← own]
    dsimp only
    rw [defaults]
    exact grown _

/-- A chain in a subgraph, under defaults of both scopes, and what follows it in the subgraph and
outside: defaults that come too late and an edge that joins the first ones. -/
theorem edges_ofDecl_subgraph :
    let chain : Statement := .edge [⟨"a", none⟩, ⟨"b", some "n"⟩, ⟨"a", none⟩] [.pair "w" "2"]
    let inner : List Statement := [.attr .edge [.pair "color" "blue"], chain]
    let later : List Statement := [.attr .edge [.pair "w" "3"], .edge [⟨"c", none⟩, ⟨"c", none⟩] []]
    let before : List Statement := [.attr .edge [.pair "w" "1", .pair "color" "red"]]
    let decl : GraphDecl := ⟨.digraph, false, none, before ++ [.subgraph none inner]⟩
    let attrs : Attrs := .ofPairs [("w", "2"), ("color", "blue")]
    let edges : List Edge := [⟨"a", "b", attrs⟩, ⟨"b", "a", attrs⟩]
    let children : List Statement := before ++ .subgraph none (inner ++ later) :: later
    Statement.Continues decl.children children ∧
      ((ofDecl decl).container.at? [0]).map Container.edges = some edges ∧
      ∃ longer, (ofDecl { decl with children }).container.at? [0] = some longer ∧
        edges <+: longer.edges := by
  intro chain inner later before decl attrs edges children
  have more : Statement.Continues decl.children children :=
    .inside before later none (.after inner later)
  obtain ⟨same, -, grown⟩ := edges_ofDecl decl
  have found : ((ofDecl decl).container.at? [0]).map Container.edges = some edges :=
    (same [0]).trans (by decide)
  obtain ⟨container, there, own⟩ := Option.map_eq_some_iff.mp found
  exact ⟨more, found, own ▸ grown children more [0] container there⟩

end Graph

end DotGraph
