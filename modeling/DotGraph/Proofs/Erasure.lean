import DotGraph.Proofs.Loading
import DotGraph.Proofs.Untyped

/-!
# What may be left out

What stands in a body without being a statement of it, and what stands in an attribute list without
being a pair with a key, has no effect on the graph: it may be left out, at every depth. The same
holds of untyped values, where the loader drops it (`Graph.pruned_agrees`).
-/

namespace DotGraph

/-- A list in which elements of no account are left out. -/
inductive Thinned {α : Type} (idle : α → Prop) : List α → List α → Prop
  | nil : Thinned idle [] []
  | keep (a : α) {list others : List α} : Thinned idle list others →
      Thinned idle (a :: list) (a :: others)
  | drop {a : α} {list others : List α} : idle a → Thinned idle list others →
      Thinned idle (a :: list) others

namespace Thinned

variable {α β : Type} {idle : α → Prop} {list others : List α}

theorem filterMap_eq {f : α → Option β} (thinned : Thinned idle list others)
    (none : ∀ a, idle a → f a = none) : others.filterMap f = list.filterMap f := by
  induction thinned with
  | nil => rfl
  | keep a _ ih => rw [List.filterMap_cons, List.filterMap_cons, ih]
  | drop left _ ih => rw [List.filterMap_cons_none (none _ left), ih]

/-- What is read of a list begins with what is read of its first element. -/
theorem mapM_cons_filterMap {ε : Type} (f : α → Except ε (Option β)) (a : α) (list : List α) :
    ((a :: list).mapM f).map (List.filterMap id) =
      f a >>= fun found => ((list.mapM f).map (List.filterMap id)).map (found.toList ++ ·) := by
  rw [List.mapM_cons]
  cases f a with
  | error error => rfl
  | ok found => cases list.mapM f <;> cases found <;> rfl

theorem mapM_eq {ε : Type} {f : α → Except ε (Option β)} (thinned : Thinned idle list others)
    (none : ∀ a, idle a → f a = .ok none) :
    (others.mapM f).map (List.filterMap id) = (list.mapM f).map (List.filterMap id) := by
  induction thinned with
  | nil => rfl
  | keep a _ ih => rw [mapM_cons_filterMap, mapM_cons_filterMap, ih]
  | @drop a list _ left _ ih =>
    rw [ih, mapM_cons_filterMap, none _ left]
    cases list.mapM f <;> rfl

end Thinned

/-! ### Statements -/

namespace Statement

/-- Whether a value in the place of a statement is ignored in a body. -/
def isIgnored : Statement → Bool
  | .graph .. | .foreign _ => true
  | _ => false

/-- Elements of attribute lists are left out that are no pairs with a key. -/
abbrev ThinnedItems : List AttrItem → List AttrItem → Prop := Thinned (·.isKeyed = false)

mutual

/-- A statement in which, at any depth, ignored values and idle elements are left out. -/
inductive Pruned : Statement → Statement → Prop
  | graph (tag : Tag) (strict : Bool) (id : Option String) {children others : List Statement} :
      PrunedAll children others →
      Pruned (.graph tag strict id children) (.graph tag strict id others)
  | subgraph (id : Option String) {children others : List Statement} :
      PrunedAll children others → Pruned (.subgraph id children) (.subgraph id others)
  | node (ref : NodeRef) {items others : List AttrItem} : ThinnedItems items others →
      Pruned (.node ref items) (.node ref others)
  | edge (chain : List NodeRef) {items others : List AttrItem} : ThinnedItems items others →
      Pruned (.edge chain items) (.edge chain others)
  | attr (target : Target) {items others : List AttrItem} : ThinnedItems items others →
      Pruned (.attr target items) (.attr target others)
  | foreign (kind : Json.Kind) : Pruned (.foreign kind) (.foreign kind)

inductive PrunedAll : List Statement → List Statement → Prop
  | nil : PrunedAll [] []
  | cons {statement other : Statement} {statements others : List Statement} :
      Pruned statement other → PrunedAll statements others →
      PrunedAll (statement :: statements) (other :: others)
  | drop {statement : Statement} {statements others : List Statement} :
      statement.isIgnored = true → PrunedAll statements others →
      PrunedAll (statement :: statements) others

end

theorem update_thinned {items others : List AttrItem} (thinned : ThinnedItems items others)
    (attrs : Attrs) : attrs.update others = attrs.update items := by
  have same : effectivePairs others = effectivePairs items :=
    thinned.filterMap_eq fun _ bare => AttrItem.effective?_of_not_keyed bare
  simp only [Attrs.update, Attrs.ofItems, same]

theorem reduce_ignored {statement : Statement} (ignored : statement.isIgnored = true)
    (scope : Scope) (table : NodeTable) : reduce scope table statement = .nothing scope table := by
  cases statement with
  | graph | foreign => rfl
  | _ => cases ignored

mutual

theorem Pruned.reduce_eq {statement other : Statement} (scope : Scope) (table : NodeTable) :
    Pruned statement other → reduce scope table other = reduce scope table statement
  | .graph .. | .foreign _ => rfl
  | .subgraph id pruned => by rw [reduce, reduce, pruned.reduceAll_eq]
  | .node ref thinned => by
    simp only [reduce, reduceNode, NodeTable.declare, update_thinned thinned]
  | .edge chain thinned => by simp only [reduce, reduceEdge, update_thinned thinned]
  | .attr target thinned => by
    cases target <;> simp only [reduce, Scope.update, update_thinned thinned]

theorem PrunedAll.reduceAll_eq {statements others : List Statement} (scope : Scope)
    (table : NodeTable) : PrunedAll statements others →
    reduceAll scope table others = reduceAll scope table statements
  | .nil => rfl
  | .cons first rest => by rw [reduceAll, reduceAll, first.reduce_eq, rest.reduceAll_eq]
  | .drop ignored rest => by
    rw [reduceAll, reduce_ignored ignored, rest.reduceAll_eq]
    rfl

end

end Statement

/-! ### Untyped values -/

namespace Json

open Statement (optionalText ofJson ofItems childrenOf attrItem? attrsField nodeOfFields
  edgeOfFields attrOfFields elementsOrNone)

/-- An entry of an attribute list that is no pair with a key. -/
inductive IdleEntry : Json → Prop
  | notObject {value : Json} : value.kind ≠ .object → IdleEntry value
  | notPair {fields : List (String × Json)} : field fields "type" ≠ .string "attr" →
      IdleEntry (.object fields)
  | noKey {fields : List (String × Json)} : optionalText (field fields "id") = .ok none →
      IdleEntry (.object fields)
  | emptyKey {fields : List (String × Json)} : optionalText (field fields "id") = .ok (some "") →
      IdleEntry (.object fields)

/-- An object that stands for no statement: it has none of the tags, or sets defaults for something
else. -/
inductive Dropped : Json → Prop
  | tag {fields : List (String × Json)} :
      (∀ tag : Tag, field fields "type" ≠ .string tag.name) → Dropped (.object fields)
  | target {fields : List (String × Json)} : field fields "type" = .string Tag.attr.name →
      (field fields "target").isScalar = true →
      (∀ target : Target, field fields "target" ≠ .string target.name) → Dropped (.object fields)

/-- Fields that read the same, but for one. -/
def AgreeBut (name : String) (fields others : List (String × Json)) : Prop :=
  ∀ other, other ≠ name → field others other = field fields other

theorem agreeBut_append (name : String) (before after : List (String × Json)) (value other : Json) :
    AgreeBut name (before ++ (name, value) :: after) (before ++ (name, other) :: after) := by
  intro read apart
  unfold field
  rw [List.lookup_append, List.lookup_append, List.lookup_cons, List.lookup_cons,
    beq_false_of_ne apart]

mutual

/-- A value in which, at any depth, dropped objects and idle entries are left out of the lists of
children and attributes. -/
inductive Pruned : Json → Json → Prop
  | same (value : Json) : Pruned value value
  | trans {value other third : Json} : Pruned value other → Pruned other third →
      Pruned value third
  | children {fields others : List (String × Json)} {values kept : List Json} :
      AgreeBut "children" fields others → field fields "children" = .array values →
      field others "children" = .array kept → PrunedAll values kept →
      Pruned (.object fields) (.object others)
  | attrs {fields others : List (String × Json)} {entries kept : List Json} :
      AgreeBut "attr_list" fields others → field fields "attr_list" = .array entries →
      field others "attr_list" = .array kept → Thinned IdleEntry entries kept →
      Pruned (.object fields) (.object others)

inductive PrunedAll : List Json → List Json → Prop
  | nil : PrunedAll [] []
  | cons {value other : Json} {values others : List Json} : Pruned value other →
      PrunedAll values others → PrunedAll (value :: values) (other :: others)
  | drop {value : Json} {values others : List Json} : Dropped value → PrunedAll values others →
      PrunedAll (value :: values) others

end

theorem IdleEntry.attrItem?_eq {value : Json} (idle : IdleEntry value) :
    attrItem? value = .ok none := by
  cases idle with
  | notObject other => exact Statement.attrItem?_of_kind other
  | notPair other => exact Statement.attrItem?_untagged other
  | @noKey fields text =>
    by_cases tagged : field fields "type" = .string "attr"
    · rw [Statement.attrItem?_tagged tagged, text]
      rfl
    · exact Statement.attrItem?_untagged tagged
  | @emptyKey fields text =>
    by_cases tagged : field fields "type" = .string "attr"
    · rw [Statement.attrItem?_tagged tagged, text]
      rfl
    · exact Statement.attrItem?_untagged tagged

theorem Dropped.outcome_ofJson {value : Json} (dropped : Dropped value) :
    (ofJson value).outcome = .ok none := by
  cases dropped with
  | tag untagged => rw [Statement.ofJson_untagged untagged]
  | target tagged scalar unknown =>
    rw [Statement.ofJson_attr tagged, Statement.attrOfFields_unknown scalar unknown]

section Fields

variable {fields others : List (String × Json)}

theorem attrsField_eq_of_thinned {entries kept : List Json}
    (listed : field fields "attr_list" = .array entries)
    (listed' : field others "attr_list" = .array kept) (thinned : Thinned IdleEntry entries kept) :
    attrsField others = attrsField fields := by
  rw [Statement.attrsField_eq, Statement.attrsField_eq, listed, listed',
    Statement.elementsOrNone_array, Statement.elementsOrNone_array]
  exact thinned.mapM_eq fun _ idle => idle.attrItem?_eq

/-- What is loaded from an object is told by what is loaded from its children and its attributes and
by what its other fields read. -/
theorem outcome_ofJson_congr
    (same : ∀ name, name ≠ "children" → name ≠ "attr_list" → field others name = field fields name)
    (children : (childrenOf others).outcome = (childrenOf fields).outcome)
    (attrs : attrsField others = attrsField fields) :
    (ofJson (.object others)).outcome = (ofJson (.object fields)).outcome := by
  have id := same "id" (by decide) (by decide)
  have type := same "type" (by decide) (by decide)
  by_cases tagged : ∃ tag : Tag, field fields "type" = .string tag.name
  · obtain ⟨tag, tagged⟩ := tagged
    have tagged' := type.trans tagged
    cases tag with
    | graph =>
      rw [@Statement.ofJson_graph _ .graph tagged, @Statement.ofJson_graph _ .graph tagged']
      simp only [Journal.outcome_bind, same "strict" (by decide) (by decide), id, children]
    | digraph =>
      rw [@Statement.ofJson_graph _ .digraph tagged, @Statement.ofJson_graph _ .digraph tagged']
      simp only [Journal.outcome_bind, same "strict" (by decide) (by decide), id, children]
    | subgraph =>
      rw [Statement.ofJson_subgraph tagged, Statement.ofJson_subgraph tagged']
      simp only [Journal.outcome_bind, id, children]
    | node =>
      rw [Statement.ofJson_node tagged, Statement.ofJson_node tagged']
      simp only [nodeOfFields, same "node_id" (by decide) (by decide), attrs]
    | edge =>
      rw [Statement.ofJson_edge tagged, Statement.ofJson_edge tagged']
      simp only [edgeOfFields, same "edge_list" (by decide) (by decide), attrs]
    | attr =>
      rw [Statement.ofJson_attr tagged, Statement.ofJson_attr tagged']
      simp only [attrOfFields, same "target" (by decide) (by decide), attrs]
  · have untagged := not_exists.mp tagged
    rw [Statement.ofJson_untagged untagged, Statement.ofJson_untagged (type ▸ untagged)]

end Fields

mutual

theorem Pruned.outcome_eq {value other : Json} :
    Pruned value other → (ofJson other).outcome = (ofJson value).outcome
  | .same _ => rfl
  | .trans first second => second.outcome_eq.trans first.outcome_eq
  | .children agree listed listed' pruned => by
    apply outcome_ofJson_congr fun name apart _ => agree name apart
    · rw [Statement.childrenOf_array listed, Statement.childrenOf_array listed']
      exact pruned.outcome_eq
    · unfold attrsField
      rw [agree "attr_list" (by decide)]
  | .attrs agree listed listed' thinned => by
    apply outcome_ofJson_congr fun name _ apart => agree name apart
    · rw [Statement.childrenOf_eq, Statement.childrenOf_eq, agree "children" (by decide)]
    · exact attrsField_eq_of_thinned listed listed' thinned

theorem PrunedAll.outcome_eq {values others : List Json} :
    PrunedAll values others → (ofItems others).outcome = (ofItems values).outcome
  | .nil => rfl
  | .cons first rest => by
    rw [ofItems, ofItems]
    simp only [Journal.outcome_bind, first.outcome_eq, rest.outcome_eq]
  | @PrunedAll.drop value values others dropped rest => by
    rw [ofItems, rest.outcome_eq]
    simp only [Journal.outcome_bind, dropped.outcome_ofJson]
    cases (ofItems values).outcome <;> rfl

end

end Json

namespace Graph

open Statement (PrunedAll)

/-- What a body ignores and what has no key in an attribute list may be left out at any depth, and
the graph stays what it is. What the loader drops may be left out of untyped values at any depth,
and what is loaded stays what it is. -/
theorem pruned_agrees :
    (∀ children others, PrunedAll children others →
      (∀ kind strict id,
        ofDecl ⟨kind, strict, id, others⟩ = ofDecl ⟨kind, strict, id, children⟩) ∧
      ∀ tag strict id, (ofStatement? (.graph tag strict id others)).outcome =
        (ofStatement? (.graph tag strict id children)).outcome) ∧
    ∀ value other, Json.Pruned value other →
      (Statement.ofJson other).outcome = (Statement.ofJson value).outcome := by
  refine ⟨fun children others pruned => ?_, fun value other pruned => pruned.outcome_eq⟩
  have same (kind : GraphKind) (strict : Bool) (id : Option String) :
      ofDecl ⟨kind, strict, id, others⟩ = ofDecl ⟨kind, strict, id, children⟩ := by
    simp only [ofDecl, bodyOf, pruned.reduceAll_eq]
  refine ⟨same, fun tag strict id => ?_⟩
  cases tag with
  | graph => exact congrArg (Except.ok ∘ some) (same .graph strict id)
  | digraph => exact congrArg (Except.ok ∘ some) (same .digraph strict id)
  | _ => rfl

/-- A graph within a subgraph, with a node that is mentioned after it, and a pair without a key; and
an untyped subgraph with a child of no tag and an attribute without an id. -/
theorem pruned_agrees_nested :
    let inner (values : List Statement) (items : List AttrItem) : List Statement :=
      [.subgraph none (values ++ [.node ⟨"a", none⟩ (items ++ [.pair "k" "v"])])]
    let ignored : Statement := .graph .graph false none [.node ⟨"a", none⟩ [.pair "x" "y"]]
    let node (entries : List Json) : Json :=
      .object ([("type", .string "node_stmt"), ("node_id", .object [("id", .string "a")])] ++
        [("attr_list", .array (entries ++
          [.object [("type", .string "attr"), ("id", .string "k")]]))])
    let subgraph (values : List Json) : Json :=
      .object ([("type", .string "subgraph")] ++ [("children", .array values)])
    let statement : Statement := .subgraph none [.node ⟨"a", none⟩ [.pair "k" ""]]
    ofDecl ⟨.graph, false, none, inner [] []⟩ =
        ofDecl ⟨.graph, false, none, inner [ignored, .foreign .int] [.pair "" "x"]⟩ ∧
      (Statement.ofJson (subgraph [node []])).outcome = .ok (some statement) ∧
      (Statement.ofJson (subgraph [.object [("type", .int 1)],
        node [.object [("type", .string "attr")], .null]])).outcome = .ok (some statement) := by
  intro inner ignored node subgraph statement
  have pruned : PrunedAll (inner [ignored, .foreign .int] [.pair "" "x"]) (inner [] []) :=
    .cons (.subgraph none (.drop rfl (.drop rfl (.cons (.node ⟨"a", none⟩
      (.drop rfl (.keep _ .nil))) .nil)))) .nil
  have entries : Thinned Json.IdleEntry
      [.object [("type", .string "attr")], .null,
        .object [("type", .string "attr"), ("id", .string "k")]]
      [.object [("type", .string "attr"), ("id", .string "k")]] :=
    .drop (.noKey rfl) (.drop (.notObject nofun) (.keep _ .nil))
  have values : Json.PrunedAll [.object [("type", .int 1)],
      node [.object [("type", .string "attr")], .null]] [node []] :=
    .drop (.tag nofun) (.cons (.attrs (Json.agreeBut_append _ _ [] _ _) rfl rfl entries) .nil)
  have untyped : Json.Pruned (subgraph [.object [("type", .int 1)],
      node [.object [("type", .string "attr")], .null]]) (subgraph [node []]) :=
    .children (Json.agreeBut_append _ _ [] _ _) rfl rfl values
  have loaded : (Statement.ofJson (subgraph [node []])).outcome = .ok (some statement) := rfl
  exact ⟨(pruned_agrees.1 _ _ pruned).1 .graph false none, loaded,
    (pruned_agrees.2 _ _ untyped).symm.trans loaded⟩

end Graph

end DotGraph
