import DotGraph.Proofs.Composition
import DotGraph.Proofs.Loading
import DotGraph.Statement.ToJson

/-!
# Untyped statements

Statements that are written out as untyped values are loaded as they were, without the elements of
their attribute lists that have no key. These have no effect, so the values mean the same graphs as
the statements. To load values one by one, as graphs are resolved, is to load them all before
(`Graph.untyped_agrees`).
-/

namespace DotGraph

/-- Whether an element of an attribute list is a pair with a key. -/
def AttrItem.isKeyed : AttrItem → Bool
  | .pair key _ => key != ""
  | .foreign => false

theorem AttrItem.effective?_of_not_keyed {item : AttrItem} (bare : item.isKeyed = false) :
    item.effective? = none := by
  cases item with
  | pair key value => simpa [isKeyed, effective?] using bare
  | foreign => rfl

theorem effectivePairs_filter_isKeyed (items : List AttrItem) :
    effectivePairs (items.filter AttrItem.isKeyed) = effectivePairs items := by
  induction items with
  | nil => simp
  | cons item items ih =>
    simp only [effectivePairs] at ih ⊢
    cases keyed : item.isKeyed with
    | true => simp [keyed, List.filterMap_cons, ih]
    | false => simp [keyed, AttrItem.effective?_of_not_keyed keyed, ih]

@[simp] theorem Attrs.update_filter_isKeyed (attrs : Attrs) (items : List AttrItem) :
    attrs.update (items.filter AttrItem.isKeyed) = attrs.update items := by
  simp only [update, ofItems, effectivePairs_filter_isKeyed]

namespace Statement

mutual

/-- A statement, down to its innermost ones. The graphs among them have the tag of a graph. -/
def isTyped : Statement → Bool
  | .graph tag _ _ children => (GraphKind.ofTag? tag).isSome && isTypedAll children
  | .subgraph _ children => isTypedAll children
  | .node .. | .edge .. | .attr .. => true
  | .foreign _ => false

def isTypedAll : List Statement → Bool
  | [] => true
  | statement :: statements => isTyped statement && isTypedAll statements

end

mutual

/-- A statement with those elements of its attribute lists that are pairs with a key. -/
def trimmed : Statement → Statement
  | .graph tag strict id children => .graph tag strict id (trimmedAll children)
  | .subgraph id children => .subgraph id (trimmedAll children)
  | .node ref items => .node ref (items.filter AttrItem.isKeyed)
  | .edge chain items => .edge chain (items.filter AttrItem.isKeyed)
  | .attr target items => .attr target (items.filter AttrItem.isKeyed)
  | .foreign kind => .foreign kind

def trimmedAll : List Statement → List Statement
  | [] => []
  | statement :: statements => trimmed statement :: trimmedAll statements

end

/-! ### Elements without a key have no effect -/

theorem declare_filter_isKeyed (table : NodeTable) (defaults : Attrs) (id : String)
    (items : List AttrItem) :
    table.declare defaults id (items.filter AttrItem.isKeyed) =
      table.declare defaults id items := by
  simp [NodeTable.declare]

theorem update_filter_isKeyed (scope : Scope) (target : Target) (items : List AttrItem) :
    scope.update target (items.filter AttrItem.isKeyed) = scope.update target items := by
  cases target <;> simp [Scope.update]

mutual

theorem reduce_trimmed (scope : Scope) (table : NodeTable) : ∀ statement : Statement,
    reduce scope table statement.trimmed = reduce scope table statement
  | .subgraph id children => by simp [trimmed, reduce, reduceAll_trimmed scope table children]
  | .node ref items => by simp [trimmed, reduce, reduceNode, declare_filter_isKeyed]
  | .edge chain items => by simp [trimmed, reduce, reduceEdge]
  | .attr target items => by simp [trimmed, reduce, update_filter_isKeyed]
  | .graph .. | .foreign _ => by simp [trimmed, reduce]

theorem reduceAll_trimmed (scope : Scope) (table : NodeTable) : ∀ statements : List Statement,
    reduceAll scope table (trimmedAll statements) = reduceAll scope table statements
  | [] => by simp [trimmedAll]
  | statement :: statements => by
    simp [trimmedAll, reduceAll, reduce_trimmed scope table statement,
      reduceAll_trimmed _ _ statements]

end

mutual

theorem ignored_trimmed (container : Option String) : ∀ statement : Statement,
    ignored container statement.trimmed = ignored container statement
  | .subgraph id children => by simp [trimmed, ignored, ignoredAll_trimmed id children]
  | .node .. | .edge .. | .attr .. | .graph .. | .foreign _ => by simp [trimmed, ignored]

theorem ignoredAll_trimmed (container : Option String) : ∀ statements : List Statement,
    ignoredAll container (trimmedAll statements) = ignoredAll container statements
  | [] => by simp [trimmedAll]
  | statement :: statements => by
    simp [trimmedAll, ignoredAll, ignored_trimmed container statement,
      ignoredAll_trimmed container statements]

end

/-! ### What is written out is loaded -/

@[simp] theorem nodeRef?_toJson (ref : NodeRef) : nodeRef? ref.toJson = .ok (some ref) := by
  obtain ⟨id, port⟩ := ref
  cases port <;> rfl

theorem attrItem?_toJson (item : AttrItem) :
    attrItem? item.toJson = .ok (if item.isKeyed then some item else none) := by
  cases item with
  | pair key value =>
    by_cases empty : key = ""
    · subst empty
      rfl
    · have keyed : (AttrItem.pair key value).isKeyed = true := by
        simpa [AttrItem.isKeyed] using empty
      rw [if_pos keyed]
      exact if_neg empty
  | foreign => rfl

@[simp] theorem elementsOrNone_array (items : List Json) :
    elementsOrNone (.array items) = .ok items :=
  elementsOrNone_listing rfl

theorem attrsField_of_field {fields : List (String × Json)} {items : List AttrItem}
    (listed : Json.field fields "attr_list" = .array (items.map (·.toJson))) :
    attrsField fields = .ok (items.filter AttrItem.isKeyed) := by
  have kept : (items.map fun item => if item.isKeyed then some item else none).filterMap id =
      items.filter AttrItem.isKeyed := by
    rw [List.filterMap_map, ← List.filterMap_eq_filter]
    rfl
  unfold attrsField
  rw [listed]
  simp only [elementsOrNone_array, Json.mapM_map_of_reads attrItem?_toJson, bind, Except.bind, pure,
    Except.pure, kept]

theorem allSome_map_some {α : Type} (values : List α) :
    allSome (values.map some) = some values := by
  induction values with
  | nil => rfl
  | cons value values ih => simp [allSome, ih]

theorem nodeOfFields_of_fields {fields : List (String × Json)} {ref : NodeRef}
    {items : List AttrItem} (named : Json.field fields "node_id" = ref.toJson)
    (listed : Json.field fields "attr_list" = .array (items.map (·.toJson))) :
    nodeOfFields fields = .ok (.node ref (items.filter AttrItem.isKeyed)) := by
  unfold nodeOfFields
  rw [named]
  simp only [nodeRef?_toJson, attrsField_of_field listed, bind, Except.bind]
  rfl

theorem edgeOfFields_of_fields {fields : List (String × Json)} {chain : List NodeRef}
    {items : List AttrItem}
    (chained : Json.field fields "edge_list" = .array (chain.map (·.toJson)))
    (listed : Json.field fields "attr_list" = .array (items.map (·.toJson))) :
    edgeOfFields fields = .ok (.edge chain (items.filter AttrItem.isKeyed)) := by
  unfold edgeOfFields
  rw [chained]
  simp only [elementsOrNone_array, Json.mapM_map_of_reads nodeRef?_toJson, allSome_map_some,
    attrsField_of_field listed, bind, Except.bind, pure, Except.pure]

theorem attrOfFields_of_fields {fields : List (String × Json)} {target : Target}
    {items : List AttrItem} (aimed : Json.field fields "target" = .string target.name)
    (listed : Json.field fields "attr_list" = .array (items.map (·.toJson))) :
    attrOfFields fields = pure (some (.attr target (items.filter AttrItem.isKeyed))) := by
  rw [attrOfFields_known aimed, attrsField_of_field listed]
  rfl

theorem tagOf?_field (tag : Tag) (fields : List (String × Json)) :
    tagOf? (Json.field (("type", .string tag.name) :: fields) "type") = some tag :=
  Tag.ofName?_name tag

mutual

/-- A statement that is written out is loaded as it was, without the elements of its attribute lists
that have no key. -/
theorem ofJson_toJson : ∀ statement : Statement, statement.isTyped = true →
    ofJson statement.toJson = pure (some statement.trimmed)
  | .graph tag strict id children, typed => by
    simp only [isTyped, Bool.and_eq_true] at typed
    have inner := ofItems_toJsonAll children typed.2
    rw [toJson, ofJson, tagOf?_field, childrenOf_array rfl, inner]
    cases tag with
    | graph | digraph => cases id <;> cases strict <;> rfl
    | _ => cases typed.1
  | .subgraph id children, typed => by
    have inner := ofItems_toJsonAll children typed
    rw [toJson, ofJson, tagOf?_field, childrenOf_array rfl, inner]
    cases id <;> rfl
  | .node ref items, _ => by
    have loaded : nodeOfFields [("type", .string Tag.node.name), ("node_id", ref.toJson),
        attrList items] = .ok (.node ref (items.filter AttrItem.isKeyed)) :=
      nodeOfFields_of_fields rfl rfl
    rw [toJson, ofJson, tagOf?_field]
    simp only [loaded]
    rfl
  | .edge chain items, _ => by
    have loaded : edgeOfFields [("type", .string Tag.edge.name),
        ("edge_list", .array (chain.map (·.toJson))), attrList items] =
          .ok (.edge chain (items.filter AttrItem.isKeyed)) :=
      edgeOfFields_of_fields rfl rfl
    rw [toJson, ofJson, tagOf?_field]
    simp only [loaded]
    rfl
  | .attr target items, _ => by
    have loaded : attrOfFields [("type", .string Tag.attr.name), ("target", .string target.name),
        attrList items] = pure (some (.attr target (items.filter AttrItem.isKeyed))) :=
      attrOfFields_of_fields rfl rfl
    rw [toJson, ofJson, tagOf?_field]
    simp only [loaded]
    rfl

theorem ofItems_toJsonAll : ∀ statements : List Statement, isTypedAll statements = true →
    ofItems (toJsonAll statements) = pure (trimmedAll statements)
  | [], _ => by rw [toJsonAll, ofItems, trimmedAll]
  | statement :: statements, typed => by
    simp only [isTypedAll, Bool.and_eq_true] at typed
    rw [toJsonAll, ofItems, ofJson_toJson statement typed.1, ofItems_toJsonAll statements typed.2]
    rfl

end

/-! ### What is loaded -/

theorem nodeOfFields_eq_ok {fields : List (String × Json)} {statement : Statement}
    (loaded : nodeOfFields fields = .ok statement) :
    ∃ ref items, statement = .node ref items := by
  obtain ⟨ref, -, loaded⟩ := bind_eq_ok.mp loaded
  cases ref with
  | none => cases loaded
  | some ref =>
    obtain ⟨items, -, loaded⟩ := bind_eq_ok.mp loaded
    cases loaded
    exact ⟨ref, items, rfl⟩

theorem edgeOfFields_eq_ok {fields : List (String × Json)} {statement : Statement}
    (loaded : edgeOfFields fields = .ok statement) :
    ∃ chain items, statement = .edge chain items := by
  obtain ⟨values, -, loaded⟩ := bind_eq_ok.mp loaded
  obtain ⟨refs, -, loaded⟩ := bind_eq_ok.mp loaded
  cases all : allSome refs with
  | none => rw [all] at loaded; cases loaded
  | some chain =>
    rw [all] at loaded
    obtain ⟨items, -, loaded⟩ := bind_eq_ok.mp loaded
    cases loaded
    exact ⟨chain, items, rfl⟩

theorem attrOfFields_eq_ok {fields : List (String × Json)} {statement : Statement}
    (loaded : (attrOfFields fields).outcome = .ok (some statement)) :
    ∃ target items, statement = .attr target items := by
  unfold attrOfFields at loaded
  split at loaded
  case h_1 | h_2 => cases loaded
  case h_3 =>
    dsimp only at loaded
    split at loaded
    case h_1 target _ =>
      obtain ⟨items, -, loaded⟩ := Journal.outcome_bind_eq_ok.mp loaded
      cases loaded
      exact ⟨target, items, rfl⟩
    case h_2 => cases loaded

end Statement

/-! ### What is read off a text are statements -/

theorem SimpleTree.isTyped_statement (tree : SimpleTree) : tree.statement.isTyped = true := by
  rcases tree with _ | ⟨_ | _ | _, _⟩ <;> rfl

mutual

theorem StatementTree.isTyped_statement : ∀ tree : StatementTree, tree.statement.isTyped = true
  | .simple tree => tree.isTyped_statement
  | .subgraph _ _ body _ => body.isTypedAll_statements

theorem BodyTree.isTypedAll_statements : ∀ body : BodyTree,
    Statement.isTypedAll body.statements = true
  | .nil => rfl
  | .cons statement _ rest => by
    rw [BodyTree.statements, Statement.isTypedAll, statement.isTyped_statement,
      rest.isTypedAll_statements]
    rfl

end

theorem GraphDecl.isTypedAll_of_parse {source : String} {decls : List GraphDecl}
    (read : GraphDecl.parse source = .ok decls) :
    Statement.isTypedAll (decls.map GraphDecl.toStatement) = true := by
  obtain ⟨-, trees, -, rfl⟩ := GraphDecl.parse_eq_ok_iff.mp read
  clear read
  induction trees with
  | nil => rfl
  | cons tree trees ih =>
    simp only [List.map_cons, Statement.isTypedAll, ih, GraphDecl.toStatement, Statement.isTyped,
      GraphKind.ofTag?_tag, DeclTree.decl, tree.body.isTypedAll_statements, Option.isSome_some,
      Bool.and_self]

namespace Graph

theorem ofStatement?_trimmed (statement : Statement) :
    ofStatement? statement.trimmed = ofStatement? statement := by
  cases statement with
  | graph tag strict id children =>
    simp only [Statement.trimmed, ofStatement?, resolutionRecords, ofDecl, bodyOf,
      Statement.ignoredAll_trimmed, Statement.reduceAll_trimmed]
  | _ => rfl

theorem ofItem?_toJson {statement : Statement} (typed : statement.isTyped = true) :
    ofItem? (.untyped statement.toJson) = ofItem? (.statement statement) := by
  have loaded := Statement.ofJson_toJson statement typed
  rw [ofItem?, ← ofStatement?_trimmed]
  cases statement with
  | foreign => cases typed
  | _ =>
    rw [Statement.toJson] at loaded ⊢
    simp only [ofItem?, loaded]
    rfl

theorem ofItems_toJsonAll {statements : List Statement}
    (typed : Statement.isTypedAll statements = true) :
    ofItems ((Statement.toJsonAll statements).map .untyped) = ofStatements statements := by
  unfold ofStatements
  induction statements with
  | nil => rfl
  | cons statement statements ih =>
    simp only [Statement.isTypedAll, Bool.and_eq_true] at typed
    rw [Statement.toJsonAll, List.map_cons, List.map_cons, ofItems, ofItems,
      ofItem?_toJson typed.1, ih typed.2]

theorem exists_ofStatement?_of_typed {statement : Statement} (typed : statement.isTyped = true) :
    ∃ graph, (ofStatement? statement).outcome = .ok graph := by
  cases statement with
  | graph tag =>
    cases tag with
    | graph | digraph => exact ⟨_, rfl⟩
    | _ => cases typed
  | _ => exact ⟨_, rfl⟩

theorem exists_ofStatements_of_typed {statements : List Statement}
    (typed : Statement.isTypedAll statements = true) :
    ∃ graphs, (ofStatements statements).outcome = .ok graphs := by
  induction statements with
  | nil => exact ⟨_, rfl⟩
  | cons statement statements ih =>
    simp only [Statement.isTypedAll, Bool.and_eq_true] at typed
    obtain ⟨graph, first⟩ := exists_ofStatement?_of_typed typed.1
    obtain ⟨graphs, later⟩ := ih typed.2
    unfold ofStatements at later ⊢
    rw [List.map_cons, outcome_ofItems_cons, ofItem?, first, later]
    exact ⟨_, rfl⟩

/-- No statement that is loaded keeps its graph from being resolved. -/
theorem exists_ofStatement?_of_ofJson {value : Json} {statement : Statement}
    (loaded : (Statement.ofJson value).outcome = .ok (some statement)) :
    ∃ graph, (ofStatement? statement).outcome = .ok graph := by
  cases value with
  | object fields =>
    rw [Statement.ofJson] at loaded
    cases named : Statement.tagOf? (Json.field fields "type") with
    | none => rw [named] at loaded; cases loaded
    | some tag =>
      rw [named] at loaded
      cases tag with
      | graph | digraph | subgraph =>
        obtain ⟨_, -, loaded⟩ := Journal.outcome_bind_eq_ok.mp loaded
        obtain ⟨_, -, loaded⟩ := Journal.outcome_bind_eq_ok.mp loaded
        cases loaded
        exact ⟨_, rfl⟩
      | node =>
        obtain ⟨_, found, loaded⟩ := Journal.outcome_bind_eq_ok.mp loaded
        cases loaded
        obtain ⟨_, _, rfl⟩ := Statement.nodeOfFields_eq_ok found
        exact ⟨_, rfl⟩
      | edge =>
        obtain ⟨_, found, loaded⟩ := Journal.outcome_bind_eq_ok.mp loaded
        cases loaded
        obtain ⟨_, _, rfl⟩ := Statement.edgeOfFields_eq_ok found
        exact ⟨_, rfl⟩
      | attr =>
        obtain ⟨_, _, rfl⟩ := Statement.attrOfFields_eq_ok loaded
        exact ⟨_, rfl⟩
  | _ => cases loaded

/-- A value that is loaded means at its place what it is loaded as. -/
theorem exists_ofItem?_of_ofJson {fields : List (String × Json)} {found : Option Statement}
    (loaded : (Statement.ofJson (.object fields)).outcome = .ok found) :
    ∃ graph, (ofItem? (.untyped (.object fields))).outcome = .ok graph ∧
      ∀ statements, (ofStatements (found.toList ++ statements)).outcome = do
        let graphs ← (ofStatements statements).outcome
        return graph.toList ++ graphs := by
  have same : (ofItem? (.untyped (.object fields))).outcome =
      (ofStatement? (found.getD (.foreign .null))).outcome := by
    rw [ofItem?, Journal.outcome_bind, Journal.mapError, loaded]
    cases found <;> rfl
  rw [same]
  cases found with
  | none =>
    refine ⟨none, rfl, fun statements => ?_⟩
    change _ = (ofStatements statements).outcome >>= pure
    rw [bind_pure]
    rfl
  | some statement =>
    obtain ⟨graph, resolved⟩ := exists_ofStatement?_of_ofJson loaded
    refine ⟨graph, resolved, fun statements => ?_⟩
    unfold ofStatements
    rw [Option.toList_some, List.singleton_append, List.map_cons, outcome_ofItems_cons, ofItem?,
      resolved]
    rfl

/-- Values that are loaded one by one, each before what it amounts to is resolved, and values that
are all loaded first. -/
theorem outcome_ofItems_untyped (data : List (List (String × Json))) :
    (ofItems (data.map fun fields => .untyped (.object fields))).outcome =
      (Statement.ofItems (data.map .object)).outcome.mapError .load >>= fun statements =>
        (ofStatements statements).outcome := by
  induction data with
  | nil => rfl
  | cons fields data ih =>
    rw [List.map_cons, List.map_cons, outcome_ofItems_cons, ih, Statement.ofItems]
    simp only [Journal.outcome_bind]
    cases loaded : (Statement.ofJson (.object fields)).outcome with
    | error error =>
      rw [ofItem?, Journal.outcome_bind, Journal.mapError, loaded]
      rfl
    | ok found =>
      obtain ⟨graph, first, later⟩ := exists_ofItem?_of_ofJson loaded
      rw [first]
      cases (Statement.ofItems (data.map .object)).outcome with
      | error error => rfl
      | ok statements => exact (later statements).symm

/-- Statements that are written out are loaded without the elements of attribute lists that have no
key, and mean the same graphs, with the same records. So do those that are read off a text. Untyped
values mean the graphs, or have the error, of the statements that they are loaded as. -/
theorem untyped_agrees :
    (∀ statements, Statement.isTypedAll statements = true →
      Statement.ofItems (Statement.toJsonAll statements) = pure (Statement.trimmedAll statements) ∧
      ofItems ((Statement.toJsonAll statements).map .untyped) = ofStatements statements ∧
      ∃ graphs, (ofStatements statements).outcome = .ok graphs) ∧
    (∀ source decls, GraphDecl.parse source = .ok decls → ∃ graphs,
      (parse source).outcome = .ok graphs ∧
      (ofItems ((Statement.toJsonAll (decls.map GraphDecl.toStatement)).map .untyped)).outcome =
        .ok graphs) ∧
    ∀ data : List (List (String × Json)),
      (ofItems (data.map fun fields => .untyped (.object fields))).outcome =
        (Statement.ofItems (data.map .object)).outcome.mapError .load >>= fun statements =>
          (ofStatements statements).outcome := by
  refine ⟨fun statements typed => ⟨Statement.ofItems_toJsonAll statements typed,
    ofItems_toJsonAll typed, exists_ofStatements_of_typed typed⟩, fun source decls read => ?_,
    outcome_ofItems_untyped⟩
  refine ⟨decls.map ofDecl, ?_, ?_⟩
  · rw [outcome_parse, read]
  · rw [ofItems_toJsonAll (GraphDecl.isTypedAll_of_parse read), outcome_ofStatements]

/-- An empty port, a pair without a key and a graph in the body of another; a text; and a node
without an id below a graph. -/
theorem untyped_agrees_nested :
    let statements : List Statement :=
      [.graph .graph true none [.node ⟨"a", some ""⟩ [.pair "" "x", .pair "w" "1"],
        .graph .digraph false (some "") []], .attr .node []]
    let decls : List GraphDecl := [⟨.digraph, false, none, []⟩]
    let data : List (List (String × Json)) :=
      [[("type", .string "graph")], [("type", .string "node_stmt")]]
    (Statement.isTypedAll statements = true ∧
      (ofItems ((Statement.toJsonAll statements).map .untyped)).outcome =
        .ok [⟨.graph, true, none, [.node ⟨"a", .ofPairs [("w", "1")]⟩], [], ∅⟩]) ∧
    (GraphDecl.parse "digraph\x7b\x7d" = .ok decls ∧
      (ofItems ((Statement.toJsonAll (decls.map GraphDecl.toStatement)).map .untyped)).outcome =
        .ok [⟨.digraph, false, none, [], [], ∅⟩]) ∧
    (ofItems (data.map fun fields => .untyped (.object fields))).outcome =
      .error (.load .missingNodeId) := by
  intro statements decls data
  have cut : Token.tokenize "digraph\x7b\x7d" = .ok
      [⟨.identifier, "digraph", 0⟩, ⟨.leftBrace, "\x7b", 7⟩, ⟨.rightBrace, "\x7d", 8⟩,
        ⟨.endOfInput, "", 9⟩] := by
    cbv
  have read : GraphDecl.parse "digraph\x7b\x7d" = .ok decls :=
    (GraphDecl.parse_of_tokenize cut).mpr ⟨[⟨.endOfInput, "", 9⟩],
      Reader.reads_declarations.complete
        [⟨none, .digraph, ⟨⟨.identifier, "digraph", 0⟩, by decide⟩, none,
          ⟨⟨.leftBrace, "\x7b", 7⟩, rfl⟩, .nil, ⟨⟨.rightBrace, "\x7d", 8⟩, rfl⟩⟩] rfl⟩
  obtain ⟨written, parsed, loaded⟩ := untyped_agrees
  obtain ⟨graphs, meaning, same⟩ := parsed _ decls read
  rw [outcome_parse, read] at meaning
  refine ⟨⟨rfl, ?_⟩, ⟨read, ?_⟩, ?_⟩
  · rw [(written statements rfl).2.1]
    rfl
  · cases meaning
    rw [same]
    rfl
  · rw [loaded]
    rfl

end Graph

end DotGraph
