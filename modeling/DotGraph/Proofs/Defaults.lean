import DotGraph.Graph.Resolution
import DotGraph.Proofs.Overlay

/-!
# Defaults

Of the statements of a body only those that set defaults, standing directly in it, change the
defaults in effect; what happens in its subgraphs stays there (`Statement.defaults_reduceAll`).
-/

namespace DotGraph

namespace Statement

/-- The pairs that the statements of a body set as defaults of a target, subgraphs left aside. -/
def defaultPairs (target : Target) (statements : List Statement) : List (String × String) :=
  statements.flatMap fun
    | .attr other items => if other = target then effectivePairs items else []
    | _ => []

theorem defaultPairs_append (target : Target) (first second : List Statement) :
    defaultPairs target (first ++ second) =
      defaultPairs target first ++ defaultPairs target second :=
  List.flatMap_append

theorem defaults_reduce (target : Target) (scope : Scope) (table : NodeTable)
    (statement : Statement) :
    (reduce scope table statement).scope.defaults target =
      (scope.defaults target).overlay (defaultPairs target [statement]) := by
  cases statement with
  | attr other items =>
    change (scope.update other items).defaults target = _
    rw [Scope.defaults_update, Attrs.update_eq_overlay]
    by_cases same : target = other
    · simp [defaultPairs, same]
    · simp [defaultPairs, same, Ne.symm same]
  | _ => rfl

theorem defaults_reduceAll (target : Target) (scope : Scope) (table : NodeTable)
    (statements : List Statement) :
    (reduceAll scope table statements).scope.defaults target =
      (scope.defaults target).overlay (defaultPairs target statements) := by
  induction statements generalizing scope table with
  | nil => rfl
  | cons statement statements ih =>
    change (reduceAll _ _ statements).scope.defaults target = _
    rw [ih, defaults_reduce, ← OrderedMap.overlay_append, ← defaultPairs_append,
      List.singleton_append]

end Statement

end DotGraph
