import DotGraph.Graph.Basic

/-!
# Scopes of default attributes
-/

namespace DotGraph

/-- The pairs of an attribute list that have an effect: those with a key. -/
def AttrItem.effective? : AttrItem → Option (String × String)
  | .pair key value => if key = "" then none else some (key, value)
  | .foreign => none

def effectivePairs (items : List AttrItem) : List (String × String) :=
  items.filterMap AttrItem.effective?

@[simp] theorem effectivePairs_nil : effectivePairs [] = [] := rfl

@[simp] theorem effectivePairs_append (first second : List AttrItem) :
    effectivePairs (first ++ second) = effectivePairs first ++ effectivePairs second :=
  List.filterMap_append

def Attrs.ofItems (items : List AttrItem) : Attrs := OrderedMap.ofPairs (effectivePairs items)

/-- Later attributes over earlier ones. -/
def Attrs.update (attrs : Attrs) (items : List AttrItem) : Attrs :=
  OrderedMap.overlay attrs (Attrs.ofItems items).entries

/-- The defaults in effect at a place: those of the graph and those for new nodes and edges. -/
structure Scope where
  graph : Attrs
  node : Attrs
  edge : Attrs
  deriving DecidableEq

namespace Scope

def empty : Scope := ⟨∅, ∅, ∅⟩

instance : EmptyCollection Scope := ⟨empty⟩

def defaults (scope : Scope) : Target → Attrs
  | .graph => scope.graph
  | .node => scope.node
  | .edge => scope.edge

def update (scope : Scope) (target : Target) (items : List AttrItem) : Scope :=
  match target with
  | .graph => { scope with graph := scope.graph.update items }
  | .node => { scope with node := scope.node.update items }
  | .edge => { scope with edge := scope.edge.update items }

theorem defaults_update (scope : Scope) (target other : Target) (items : List AttrItem) :
    (scope.update target items).defaults other =
      if other = target then (scope.defaults other).update items else scope.defaults other := by
  cases target <;> cases other <;> rfl

end Scope

end DotGraph
