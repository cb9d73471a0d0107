import DotGraph.Proofs.Edges
import DotGraph.Session

/-!
# Scopes are kept apart

What a body does to the scope it stands in is done by its own default statements; the attributes of
a container are the graph defaults where its body starts and its own over them. So what stands in a
subgraph is not seen in the attributes and edges of any container outside it
(`Session.body_isolated`).
-/

namespace DotGraph

namespace Statement

/-- A statement without what stands in it. -/
def shell : Statement → Statement
  | .subgraph id _ => .subgraph id []
  | statement => statement

theorem defaultPairs_shell (target : Target) (statements : List Statement) :
    defaultPairs target (statements.map shell) = defaultPairs target statements := by
  unfold defaultPairs
  rw [List.flatMap_map]
  congr 1
  funext statement
  cases statement <;> rfl

theorem bodyEdges_shell (defaults : Attrs) (statements : List Statement) :
    bodyEdges defaults (statements.map shell) = bodyEdges defaults statements := by
  unfold bodyEdges
  rw [withEarlier_map, List.flatMap_map]
  congr 1
  funext ⟨before, statement⟩
  dsimp only
  rw [defaultPairs_shell]
  cases statement <;> rfl

end Statement

namespace Place

/-- A place without what stands in the subgraphs on the way and in the body. -/
def shell (place : Place) : Place :=
  ⟨place.way.map (List.map Statement.shell), place.body.map Statement.shell⟩

theorem inherited_shell (place : Place) (target : Target) :
    place.shell.inherited target = place.inherited target := by
  unfold inherited shell
  rw [List.flatMap_map]
  congr 1
  funext before
  exact Statement.defaultPairs_shell target before

end Place

namespace Statement

/-- The attributes and edges of a container whose body starts in a scope. -/
def containerValue (scope : Scope) (body : List Statement) : Attrs × List Edge :=
  (scope.graph.overlay (defaultPairs .graph body), bodyEdges scope.edge body)

theorem containerValue_shell (scope : Scope) (place : Place) :
    containerValue (scope.overlay place.shell.inherited) place.shell.body =
      containerValue (scope.overlay place.inherited) place.body := by
  have inherited : place.shell.inherited = place.inherited := by
    funext target
    exact place.inherited_shell target
  rw [inherited]
  unfold containerValue
  rw [Place.shell, defaultPairs_shell, bodyEdges_shell]

/-- Another body stands in the subgraph at a path. -/
inductive Replaced : List Nat → List Statement → List Statement → Prop
  | here (body other : List Statement) : Replaced [] body other
  | inside {path : List Nat} {body other : List Statement} (before after : List Statement)
      (id : Option String) (replaced : Replaced path body other) :
      Replaced ((subgraphs before).length :: path) (before ++ .subgraph id body :: after)
        (before ++ .subgraph id other :: after)

/-- Only what lies within the subgraph is another place. -/
theorem Replaced.place? {path : List Nat} {statements others : List Statement}
    (replaced : Replaced path statements others) {outer : List Nat} (outside : ¬ path <+: outer) :
    (Statement.place? others outer).map Place.shell =
      (Statement.place? statements outer).map Place.shell := by
  have enter (before : List Statement) (place : Option Place) :
      (place.map fun place => (⟨before :: place.way, place.body⟩ : Place)).map Place.shell =
        (place.map Place.shell).map fun place => ⟨before.map shell :: place.way, place.body⟩ := by
    cases place <;> rfl
  induction replaced generalizing outer with
  | here => exact absurd List.nil_prefix outside
  | @inside path body other before after id replaced ih =>
    cases outer with
    | nil => simp [Statement.place?, Place.shell, shell]
    | cons index outer =>
      rw [Statement.place?, Statement.place?]
      rcases Nat.lt_trichotomy index (subgraphs before).length with earlier | rfl | beyond
      · rw [getElem?_subgraphs_before _ _ _ _ earlier, getElem?_subgraphs_before _ _ _ _ earlier]
      · have inside : ¬ path <+: outer :=
          fun within => outside ((List.prefix_cons_inj _).mpr within)
        rw [getElem?_subgraphs_at, getElem?_subgraphs_at, Option.bind_some, Option.bind_some, enter,
          enter, ih inside]
      · obtain ⟨more, rfl⟩ := Nat.exists_eq_add_of_lt beyond
        rw [getElem?_subgraphs_after, getElem?_subgraphs_after]
        cases (subgraphs after)[more]? with
        | none => rfl
        | some inner =>
          change Option.map _ (Option.map _ _) = Option.map _ (Option.map _ _)
          rw [enter, enter]
          simp [shell]

theorem value_at?_reduceAll (scope : Scope) (table : NodeTable) (statements : List Statement)
    (path : List Nat) :
    ((reduceAll scope table statements).container.at? path).map
        (fun container => (container.attrs, container.edges)) =
      (place? statements path).map fun place =>
        containerValue (scope.overlay place.inherited) place.body := by
  refine map_at?_reduceAll _ containerValue (fun scope table body => Prod.ext ?_ ?_) path scope
    table statements
  · exact defaults_reduceAll .graph scope table body
  · exact edges_reduceAll scope table body

/-- Two bodies that differ in a subgraph have the same attributes and edges outside it. -/
theorem Replaced.value_at? {path : List Nat} {statements others : List Statement}
    (replaced : Replaced path statements others) {outer : List Nat} (outside : ¬ path <+: outer)
    (scope : Scope) :
    ((Statement.place? others outer).map fun place =>
        containerValue (scope.overlay place.inherited) place.body) =
      (Statement.place? statements outer).map fun place =>
        containerValue (scope.overlay place.inherited) place.body := by
  have seen := congrArg
    (Option.map fun place : Place => containerValue (scope.overlay place.inherited) place.body)
    (replaced.place? outside)
  simpa only [Option.map_map, Function.comp_def, containerValue_shell] using seen

end Statement

namespace Session

theorem at?_body (session : Session) (id : Option String) (children : List Statement)
    (path : List Nat) :
    (session.body id children).1.at? path =
      ((Statement.reduceAll session.scope session.table children).container.at? path).map
        (Container.map (Statement.reduceAll session.scope session.table children).table.node) :=
  Container.at?_map _ (Reduction.container _) path

theorem value_at?_body (session : Session) (id : Option String) (children : List Statement)
    (path : List Nat) :
    ((session.body id children).1.at? path).map
        (fun container => (container.attrs, container.edges)) =
      (Statement.place? children path).map fun place =>
        Statement.containerValue (session.scope.overlay place.inherited) place.body := by
  rw [at?_body, Option.map_map]
  exact Statement.value_at?_reduceAll session.scope session.table children path

/-- A body sets the defaults that its own statements set, whatever stands in its subgraphs and in
the node table; its attributes are the graph defaults at its end, and so are those of each subgraph
in it. Another body in a subgraph changes no attributes and no edges outside the subgraph. -/
theorem body_isolated (session : Session) (id : Option String) (children : List Statement) :
    (∀ target, (session.body id children).2.scope.defaults target =
      (session.scope.defaults target).overlay (Statement.defaultPairs target children)) ∧
    (session.body id children).2.outer = session.outer ∧
    ((session.body id children).1.at? []).map Container.attrs =
      some (session.body id children).2.scope.graph ∧
    (∀ path, ((session.body id children).1.at? path).map Container.attrs =
      (Statement.place? children path).map fun place =>
        (session.scope.graph.overlay (place.inherited .graph)).overlay
          (Statement.defaultPairs .graph place.body)) ∧
    ∀ path others, Statement.Replaced path children others → ∀ outer, ¬ path <+: outer →
      ((session.body id others).1.at? outer).map
          (fun container => (container.attrs, container.edges)) =
        ((session.body id children).1.at? outer).map
          fun container => (container.attrs, container.edges) := by
  refine ⟨fun target => ?_, rfl, rfl, fun path => ?_, fun path others replaced outer outside => ?_⟩
  · exact Statement.defaults_reduceAll target session.scope session.table children
  · have value := congrArg (Option.map Prod.fst) (value_at?_body session id children path)
    rw [Option.map_map, Option.map_map] at value
    exact value
  · rw [value_at?_body, value_at?_body]
    exact replaced.value_at? outside session.scope

/-- A subgraph within a subgraph, first empty and then with defaults, an edge and a node that the
rest mentions: the outer subgraph has its attributes and its edge as before. -/
theorem body_isolated_inner_subgraph :
    let session : Session := ⟨⟨.ofPairs [("rank", "same")], ∅, .ofPairs [("w", "1")]⟩, [], ∅⟩
    let edge : Statement := .edge [⟨"a", none⟩, ⟨"b", none⟩] []
    let outer (inner : List Statement) : List Statement :=
      [.attr .graph [.pair "label" "x"], .subgraph none inner, edge,
        .attr .graph [.pair "rank" "min"]]
    let children (inner : List Statement) : List Statement := [.subgraph (some "s") (outer inner)]
    let inner : List Statement :=
      [.attr .graph [.pair "label" "y"], .attr .edge [.pair "w" "2"], edge, .node ⟨"a", none⟩ []]
    let value : Attrs × List Edge :=
      (.ofPairs [("rank", "min"), ("label", "x")], [⟨"a", "b", .ofPairs [("w", "1")]⟩])
    Statement.Replaced [0, 0] (children []) (children inner) ∧ ¬ [0, 0] <+: [0] ∧
      ((session.body none (children inner)).1.at? [0]).map
        (fun container => (container.attrs, container.edges)) = some value := by
  intro session edge outer children inner value
  have replaced : Statement.Replaced [0, 0] (children []) (children inner) :=
    .inside [] [] (some "s") (.inside [.attr .graph [.pair "label" "x"]]
      [edge, .attr .graph [.pair "rank" "min"]] none (.here [] inner))
  have outside : ¬ [0, 0] <+: [0] := by decide
  have same := (body_isolated session none (children [])).2.2.2.2 [0, 0] (children inner) replaced
    [0] outside
  exact ⟨replaced, outside, same.trans (by decide)⟩

end Session

end DotGraph
