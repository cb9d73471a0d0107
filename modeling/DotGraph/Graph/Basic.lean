import DotGraph.OrderedMap
import DotGraph.Statement.Basic

/-!
# Graphs

A graph holds entries, which are nodes and subgraphs with entries of their own, and edges between
nodes named by their ids.
-/

namespace DotGraph

abbrev Attrs := OrderedMap String

structure Node where
  id : String
  attrs : Attrs
  deriving DecidableEq

structure Edge where
  source : String
  target : String
  attrs : Attrs
  deriving DecidableEq

/-- An entry of a graph or subgraph. A node stands there by a value of any type: by its id as long
as its attributes may still change, with its attributes when they are final. -/
inductive Entry (ν : Type)
  | node (value : ν)
  | subgraph (id : Option String) (entries : List (Entry ν)) (edges : List Edge) (attrs : Attrs)

namespace Entry

instance {ν : Type} : Inhabited (Entry ν) := ⟨.subgraph none [] [] ∅⟩

mutual

def map {ν μ : Type} (f : ν → μ) : Entry ν → Entry μ
  | .node value => .node (f value)
  | .subgraph id entries edges attrs => .subgraph id (mapAll f entries) edges attrs

def mapAll {ν μ : Type} (f : ν → μ) : List (Entry ν) → List (Entry μ)
  | [] => []
  | entry :: entries => map f entry :: mapAll f entries

end

theorem mapAll_eq_map {ν μ : Type} (f : ν → μ) (entries : List (Entry ν)) :
    mapAll f entries = entries.map (map f) := by
  induction entries with
  | nil => rfl
  | cons entry entries ih => simp [mapAll, ih]

mutual

/-- The nodes of an entry, at any depth, in order. -/
def nodes {ν : Type} : Entry ν → List ν
  | .node value => [value]
  | .subgraph _ entries _ _ => nodesAll entries

def nodesAll {ν : Type} : List (Entry ν) → List ν
  | [] => []
  | entry :: entries => nodes entry ++ nodesAll entries

end

theorem nodesAll_append {ν : Type} (first second : List (Entry ν)) :
    nodesAll (first ++ second) = nodesAll first ++ nodesAll second := by
  induction first with
  | nil => rfl
  | cons entry entries ih => simp [nodesAll, ih]

end Entry

structure Graph where
  kind : GraphKind
  strict : Bool
  id : Option String
  entries : List (Entry Node)
  edges : List Edge
  attrs : Attrs

end DotGraph
