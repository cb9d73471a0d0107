import DotGraph.Graph.OfStatements
import DotGraph.Proofs.Defaults
import DotGraph.Proofs.Earlier

/-!
# Containers and bodies by their places

A path names a container by the positions of subgraphs: which of the subgraphs directly in the
graph, which of those directly in that one, and so on. The same path names the body that the
container is resolved from, together with the statements before it in each scope on the way. What
can be said of a resolved body by its scope alone holds at each place with the scope that these
statements set (`Statement.map_at?_reduceAll`).
-/

namespace DotGraph

/-- What a graph or a subgraph holds. -/
structure Container (ν : Type) where
  entries : List (Entry ν)
  edges : List Edge
  attrs : Attrs

namespace Entry

variable {ν μ : Type}

def container? : Entry ν → Option (Container ν)
  | .node _ => none
  | .subgraph _ entries edges attrs => some ⟨entries, edges, attrs⟩

end Entry

namespace Container

variable {ν μ : Type}

def subgraphs (container : Container ν) : List (Container ν) :=
  container.entries.filterMap Entry.container?

/-- The container at a path. -/
def at? (container : Container ν) : List Nat → Option (Container ν)
  | [] => some container
  | index :: path => container.subgraphs[index]?.bind fun inner => inner.at? path

def map (f : ν → μ) (container : Container ν) : Container μ :=
  ⟨Entry.mapAll f container.entries, container.edges, container.attrs⟩

theorem container?_map (f : ν → μ) (entry : Entry ν) :
    (entry.map f).container? = entry.container?.map (map f) := by
  cases entry <;> rfl

theorem subgraphs_map (f : ν → μ) (container : Container ν) :
    (container.map f).subgraphs = container.subgraphs.map (map f) := by
  unfold subgraphs map
  rw [Entry.mapAll_eq_map, List.filterMap_map, List.map_filterMap]
  congr 1
  funext entry
  exact container?_map f entry

theorem at?_map (f : ν → μ) (container : Container ν) (path : List Nat) :
    (container.map f).at? path = (container.at? path).map (map f) := by
  induction path generalizing container with
  | nil => rfl
  | cons index path ih =>
    rw [at?, at?, subgraphs_map, List.getElem?_map]
    cases container.subgraphs[index]? with
    | none => rfl
    | some inner => exact ih inner

end Container

/-- The container at a path within an entry. -/
def Entry.at? {ν : Type} (entry : Entry ν) (path : List Nat) : Option (Container ν) :=
  entry.container?.bind fun container => container.at? path

def Graph.container (graph : Graph) : Container Node :=
  ⟨graph.entries, graph.edges, graph.attrs⟩

def Reduction.container (reduction : Reduction) : Container String :=
  ⟨reduction.entries, reduction.edges, reduction.scope.graph⟩

/-- A scope with further pairs for each target. -/
def Scope.overlay (scope : Scope) (pairs : Target → List (String × String)) : Scope :=
  ⟨scope.graph.overlay (pairs .graph), scope.node.overlay (pairs .node),
    scope.edge.overlay (pairs .edge)⟩

theorem Scope.overlay_overlay (scope : Scope) (first second : Target → List (String × String)) :
    (scope.overlay first).overlay second =
      scope.overlay fun target => first target ++ second target := by
  simp [overlay, OrderedMap.overlay_append]

/-- A body with the way to it: for each scope on the way, the statements that stand in it before the
subgraph that leads on. -/
structure Place where
  way : List (List Statement)
  body : List Statement

/-- The pairs that the statements on the way set as defaults of a target, from the outside in. -/
def Place.inherited (place : Place) (target : Target) : List (String × String) :=
  place.way.flatMap (Statement.defaultPairs target)

namespace Statement

def body? : Statement → Option (List Statement)
  | .subgraph _ children => some children
  | _ => none

/-- The subgraphs directly in a body: for each, the statements before it and its own body. -/
def subgraphs (statements : List Statement) : List (List Statement × List Statement) :=
  (withEarlier statements).filterMap fun entry => entry.2.body?.map fun body => (entry.1, body)

theorem subgraphs_append (first second : List Statement) :
    subgraphs (first ++ second) =
      subgraphs first ++ (subgraphs second).map fun inner => (first ++ inner.1, inner.2) := by
  unfold subgraphs
  rw [withEarlier_append, List.filterMap_append, List.filterMap_map, List.map_filterMap]
  congr 2
  funext entry
  simp [Function.comp_def]

theorem subgraphs_cons (statement : Statement) (statements : List Statement) :
    subgraphs (statement :: statements) =
      statement.body?.toList.map (fun body => ([], body)) ++
        (subgraphs statements).map fun inner => (statement :: inner.1, inner.2) := by
  have alone : subgraphs [statement] = statement.body?.toList.map fun body => ([], body) := by
    cases statement <;> rfl
  rw [← alone]
  exact subgraphs_append [statement] statements

theorem subgraphs_split (before after : List Statement) (id : Option String)
    (body : List Statement) :
    subgraphs (before ++ .subgraph id body :: after) =
      subgraphs before ++ (before, body) ::
        (subgraphs after).map fun inner => (before ++ .subgraph id body :: inner.1, inner.2) := by
  rw [subgraphs_append, subgraphs_cons]
  simp [body?, Function.comp_def]

section Split

variable (before after : List Statement) (id : Option String) (body : List Statement)

theorem getElem?_subgraphs_before {index : Nat} (earlier : index < (subgraphs before).length) :
    (subgraphs (before ++ .subgraph id body :: after))[index]? = (subgraphs before)[index]? := by
  rw [subgraphs_split, List.getElem?_append_left earlier]

theorem getElem?_subgraphs_at :
    (subgraphs (before ++ .subgraph id body :: after))[(subgraphs before).length]? =
      some (before, body) := by
  rw [subgraphs_split, List.getElem?_append_right (Nat.le_refl _), Nat.sub_self,
    List.getElem?_cons_zero]

theorem getElem?_subgraphs_after (index : Nat) :
    (subgraphs (before ++ .subgraph id body :: after))[(subgraphs before).length + index + 1]? =
      (subgraphs after)[index]?.map fun inner =>
        (before ++ .subgraph id body :: inner.1, inner.2) := by
  have beyond : (subgraphs before).length + index + 1 - (subgraphs before).length = index + 1 := by
    omega
  rw [subgraphs_split, List.getElem?_append_right (by omega), beyond, List.getElem?_cons_succ,
    List.getElem?_map]

end Split

/-- The body at a path. -/
def place? (statements : List Statement) : List Nat → Option Place
  | [] => some ⟨[], statements⟩
  | index :: path =>
    (subgraphs statements)[index]?.bind fun inner =>
      (place? inner.2 path).map fun place => ⟨inner.1 :: place.way, place.body⟩

theorem scope_reduceAll (scope : Scope) (table : NodeTable) (statements : List Statement) :
    (reduceAll scope table statements).scope =
      scope.overlay fun target => defaultPairs target statements := by
  have same (target : Target) := defaults_reduceAll target scope table statements
  exact (Scope.mk.injEq ..).mpr ⟨same .graph, same .node, same .edge⟩

theorem subgraphs_reduce (scope : Scope) (table : NodeTable) (statement : Statement) :
    (reduce scope table statement).container.subgraphs =
      statement.body?.toList.map fun body => (reduceAll scope table body).container := by
  have noSubgraph (ids : List String) :
      (ids.map Entry.node).filterMap Entry.container? = [] := by
    rw [List.filterMap_map, List.filterMap_eq_nil_iff]
    intro id _
    rfl
  cases statement with
  | node ref items => exact noSubgraph _
  | edge chain items => exact noSubgraph _
  | _ => rfl

/-- Each subgraph is resolved in the scope and with the table that the statements before it
leave. -/
theorem subgraphs_reduceAll (scope : Scope) (table : NodeTable) (statements : List Statement) :
    (reduceAll scope table statements).container.subgraphs =
      (subgraphs statements).map fun inner =>
        (reduceAll (reduceAll scope table inner.1).scope (reduceAll scope table inner.1).table
          inner.2).container := by
  induction statements generalizing scope table with
  | nil => rfl
  | cons statement statements ih =>
    have first := subgraphs_reduce scope table statement
    have others := ih (reduce scope table statement).scope (reduce scope table statement).table
    unfold Container.subgraphs at first others ⊢
    change List.filterMap Entry.container? (_ ++ _) = _
    rw [List.filterMap_append, subgraphs_cons, List.map_append, List.map_map, List.map_map]
    exact congr (congrArg _ first) others

/-- What is known of a resolved body from its scope is known at each place. -/
theorem map_at?_reduceAll {β : Type} (view : Container String → β)
    (meaning : Scope → List Statement → β)
    (means : ∀ scope table body, view (reduceAll scope table body).container = meaning scope body)
    (path : List Nat) (scope : Scope) (table : NodeTable) (statements : List Statement) :
    ((reduceAll scope table statements).container.at? path).map view =
      (place? statements path).map fun place =>
        meaning (scope.overlay place.inherited) place.body := by
  induction path generalizing scope table statements with
  | nil => exact congrArg some (means scope table statements)
  | cons index path ih =>
    rw [Container.at?, place?, subgraphs_reduceAll, List.getElem?_map]
    cases (subgraphs statements)[index]? with
    | none => rfl
    | some inner =>
      change ((reduceAll _ _ inner.2).container.at? path).map view =
        ((place? inner.2 path).map _).map _
      rw [ih, Option.map_map, scope_reduceAll]
      congr 1
      funext place
      rw [Scope.overlay_overlay]
      rfl

end Statement

end DotGraph
