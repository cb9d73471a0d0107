import DotGraph.Graph.Resolution
import DotGraph.Proofs.Overlay

/-!
# Mentions

A node is mentioned by the statements on it and by the chains it stands in. Reducing statements adds
to the node table the ids that they mention and that are not there yet, in the order of their first
mention (`Statement.keys_reduceAll`).
-/

namespace DotGraph

namespace Statement

mutual

/-- The ids a statement mentions, from left to right, each as often as it is mentioned. -/
def mentions : Statement → List String
  | .subgraph _ children => mentionsAll children
  | .node ref _ => [ref.id]
  | .edge chain _ => chain.map NodeRef.id
  | .attr .. | .graph .. | .foreign _ => []

def mentionsAll : List Statement → List String
  | [] => []
  | statement :: statements => mentions statement ++ mentionsAll statements

end

theorem mentionsAll_append (first second : List Statement) :
    mentionsAll (first ++ second) = mentionsAll first ++ mentionsAll second := by
  induction first with
  | nil => rfl
  | cons statement statements ih => simp [mentionsAll, ih]

end Statement

namespace NodeTable

theorem newIds_eq {before after : NodeTable} {more : List String}
    (grown : after.keys = before.keys ++ more) : before.newIds after = more := by
  rw [newIds, grown, ← OrderedMap.length_keys, List.drop_left]

theorem keys_declare (table : NodeTable) (defaults : Attrs) (id : String) (items : List AttrItem) :
    (table.declare defaults id items).keys = table.keys ++ fresh table.keys [id] :=
  table.keys_insert_eq_append id _

theorem keys_mention (table : NodeTable) (defaults : Attrs) (id : String) :
    (table.mention defaults id).keys = table.keys ++ fresh table.keys [id] := by
  unfold mention
  split
  · next known => simp [fresh_singleton, OrderedMap.mem_keys_iff, known]
  · exact keys_declare table defaults id []

theorem keys_mentionAll (table : NodeTable) (defaults : Attrs) (ids : List String) :
    (table.mentionAll defaults ids).keys = table.keys ++ fresh table.keys ids := by
  induction ids generalizing table with
  | nil => simp [mentionAll]
  | cons id ids ih =>
    change ((table.mention defaults id).mentionAll defaults ids).keys = _
    rw [ih, keys_mention, append_fresh_append, List.singleton_append]

end NodeTable

namespace Statement

mutual

theorem keys_reduce (scope : Scope) (table : NodeTable) : ∀ statement : Statement,
    (reduce scope table statement).table.keys =
      table.keys ++ fresh table.keys statement.mentions
  | .subgraph _ children => keys_reduceAll scope table children
  | .node ref items => table.keys_declare scope.node ref.id items
  | .edge chain _ => table.keys_mentionAll scope.node (chain.map NodeRef.id)
  | .attr .. | .graph .. | .foreign _ => by simp [reduce, Reduction.nothing, mentions]

theorem keys_reduceAll (scope : Scope) (table : NodeTable) : ∀ statements : List Statement,
    (reduceAll scope table statements).table.keys =
      table.keys ++ fresh table.keys (mentionsAll statements)
  | [] => by simp [reduceAll, Reduction.nothing, mentionsAll]
  | statement :: statements => by
    change (reduceAll _ _ statements).table.keys = _
    rw [keys_reduceAll, keys_reduce, append_fresh_append, mentionsAll]

end

end Statement

end DotGraph
