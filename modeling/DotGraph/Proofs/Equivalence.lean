import DotGraph.Graph.OfStatements

/-!
# Equivalent statements

Two lists of statements are equivalent if they are reduced to the same in every scope and with every
table, and leave the same records. What is around them and what comes after them then makes no
difference (`Statement.Within.equivalent`), and neither list can be told from the other by the graph
that holds it (`Graph.ofDecl_eq_of_equivalent`).
-/

namespace DotGraph

namespace Statement

structure Equivalent (first second : List Statement) : Prop where
  reduceAll_eq : ∀ scope table, reduceAll scope table first = reduceAll scope table second
  ignoredAll_eq : ∀ container, ignoredAll container first = ignoredAll container second

theorem ignoredAll_append (container : Option String) (first second : List Statement) :
    ignoredAll container (first ++ second) =
      ignoredAll container first ++ ignoredAll container second := by
  induction first with
  | nil => rfl
  | cons statement statements ih => simp only [List.cons_append, ignoredAll, ih, List.append_assoc]

namespace Equivalent

theorem refl (statements : List Statement) : Equivalent statements statements :=
  ⟨fun _ _ => rfl, fun _ => rfl⟩

theorem append {first second first' second' : List Statement} (equivalent : Equivalent first second)
    (other : Equivalent first' second') : Equivalent (first ++ first') (second ++ second') where
  reduceAll_eq scope table := by
    simp only [reduceAll_append, equivalent.reduceAll_eq, other.reduceAll_eq]
  ignoredAll_eq container := by
    simp only [ignoredAll_append, equivalent.ignoredAll_eq, other.ignoredAll_eq]

theorem subgraph {first second : List Statement} (equivalent : Equivalent first second)
    (id : Option String) : Equivalent [.subgraph id first] [.subgraph id second] where
  reduceAll_eq scope table := by
    simp only [reduceAll, reduce, equivalent.reduceAll_eq]
  ignoredAll_eq container := by
    simp only [ignoredAll, ignored, equivalent.ignoredAll_eq]

/-- A graph among statements is ignored as a whole. -/
theorem graph (tag : Tag) (strict : Bool) (id : Option String) (first second : List Statement) :
    Equivalent [.graph tag strict id first] [.graph tag strict id second] :=
  ⟨fun _ _ => rfl, fun _ => rfl⟩

end Equivalent

/-- A step taken somewhere among statements: in the body itself, or at any depth below the subgraphs
and graphs that stand in it. -/
inductive Within (step : List Statement → List Statement → Prop) :
    List Statement → List Statement → Prop
  | here {first second : List Statement} (before after : List Statement) : step first second →
      Within step (before ++ first ++ after) (before ++ second ++ after)
  | subgraph {first second : List Statement} (before after : List Statement)
      (id : Option String) : Within step first second →
      Within step (before ++ [.subgraph id first] ++ after)
        (before ++ [.subgraph id second] ++ after)
  | graph {first second : List Statement} (before after : List Statement) (tag : Tag)
      (strict : Bool) (id : Option String) : Within step first second →
      Within step (before ++ [.graph tag strict id first] ++ after)
        (before ++ [.graph tag strict id second] ++ after)

/-- Steps between equivalent statements lead to equivalent bodies. -/
theorem Within.equivalent {step : List Statement → List Statement → Prop}
    (sound : ∀ {first second}, step first second → Equivalent first second)
    {children others : List Statement} (within : Within step children others) :
    Equivalent children others := by
  have around {first second : List Statement} (before after : List Statement)
      (equivalent : Equivalent first second) :
      Equivalent (before ++ first ++ after) (before ++ second ++ after) :=
    ((Equivalent.refl before).append equivalent).append (.refl after)
  induction within with
  | here before after taken => exact around before after (sound taken)
  | subgraph before after id _ ih => exact around before after (ih.subgraph id)
  | graph before after tag strict id _ _ => exact around before after (.graph tag strict id _ _)

end Statement

namespace Graph

open Statement (Equivalent)

theorem ofDecl_eq_of_equivalent {children others : List Statement}
    (equivalent : Equivalent children others) (kind : GraphKind) (strict : Bool)
    (id : Option String) :
    ofDecl ⟨kind, strict, id, children⟩ = ofDecl ⟨kind, strict, id, others⟩ := by
  simp only [ofDecl, bodyOf, equivalent.reduceAll_eq]

/-- What is told about resolving a graph is the same, too. -/
theorem ofStatement?_eq_of_equivalent {children others : List Statement}
    (equivalent : Equivalent children others) (tag : Tag) (strict : Bool) (id : Option String) :
    ofStatement? (.graph tag strict id children) = ofStatement? (.graph tag strict id others) := by
  simp only [ofStatement?, resolutionRecords, ofDecl, bodyOf, equivalent.reduceAll_eq,
    equivalent.ignoredAll_eq]

end Graph

end DotGraph
