import DotGraph.Proofs.Erasure
import DotGraph.Proofs.Placement
import DotGraph.Proofs.Visits

/-!
# Records account for what is left out

Each value that is visited when untyped data is loaded is kept as a statement or has a record of its
own. Each item that is resolved has a record for all that its body ignores and one for its graph, or
one that it was ignored itself (`Record.account`).
-/

namespace DotGraph

open Json (field visited)

theorem Journal.records_bind {ε α β : Type} {journal : Journal ε α} {value : α}
    (found : journal.outcome = .ok value) (next : α → Journal ε β) :
    (journal >>= next).records = journal.records ++ (next value).records := by
  obtain ⟨records, outcome⟩ := journal
  cases found
  rfl

namespace Statement

mutual

/-- The number of statements that a statement consists of, at any depth. -/
def size : Statement → Nat
  | .graph _ _ _ children | .subgraph _ children => sizeAll children + 1
  | .node .. | .edge .. | .attr .. | .foreign _ => 1

def sizeAll : List Statement → Nat
  | [] => 0
  | statement :: statements => size statement + sizeAll statements

end

/-- The size of what is loaded from one value. -/
def sizeFound : Option Statement → Nat
  | none => 0
  | some statement => statement.size

theorem size_container (tag : Tag) (strict : Bool) (id : Option String)
    (children : List Statement) :
    (container tag strict id children).size = sizeAll children + 1 := by
  cases tag <;> rfl

theorem sizeAll_toList_append (found : Option Statement) (statements : List Statement) :
    sizeAll (found.toList ++ statements) = sizeFound found + sizeAll statements := by
  cases found with
  | none => exact (Nat.zero_add _).symm
  | some statement => rfl

end Statement

/-! ### Loading -/

open Statement (sizeAll sizeFound tagOf? targetOf? ofJson childrenOf ofItems)

/-- The record of a value that is dropped. -/
def Record.ofDropped? : Json → Option Record
  | .object fields =>
    match tagOf? (field fields "type") with
    | none => some (.droppedTag (field fields "type"))
    | some .attr =>
      match targetOf? (field fields "target") with
      | none => some (.droppedTarget (field fields "target"))
      | some _ => none
    | some _ => none
  | _ => none

theorem Record.ofDropped?_tagged {fields : List (String × Json)} {tag : Tag}
    (tagged : field fields "type" = .string tag.name) (other : tag ≠ .attr) :
    ofDropped? (.object fields) = none := by
  rw [ofDropped?, Statement.tagOf?_eq_some_iff.mpr tagged]
  cases tag with
  | attr => exact absurd rfl other
  | _ => rfl

theorem Record.ofDropped?_attr {fields : List (String × Json)}
    (tagged : field fields "type" = .string Tag.attr.name) :
    ofDropped? (.object fields) =
      if (targetOf? (field fields "target")).isSome then none
      else some (.droppedTarget (field fields "target")) := by
  rw [ofDropped?, Statement.tagOf?_eq_some_iff.mpr tagged]
  cases targetOf? (field fields "target") <;> rfl

/-- When a run that visits some values succeeds, it has made the records of those that are dropped,
and each of the others is among what is kept. -/
def Accounts {α : Type} (seen : List Json) (kept : α → Nat) (run : Journal LoadError α) : Prop :=
  ∀ value, run.outcome = .ok value →
    run.records = seen.filterMap Record.ofDropped? ∧
      run.records.length + kept value = seen.length

namespace Accounts

theorem fail {α : Type} (seen : List Json) (kept : α → Nat) (error : LoadError) :
    Accounts seen kept (Journal.fail error) := by
  rintro value ⟨⟩

theorem nothing : Accounts [] sizeAll (pure [] : Journal LoadError (List Statement)) := by
  intro value loaded
  cases loaded
  exact ⟨rfl, rfl⟩

theorem dropped {item : Json} {record : Record} (told : Record.ofDropped? item = some record) :
    Accounts [item] sizeFound
      (⟨[record], .ok none⟩ : Journal LoadError (Option Statement)) := by
  intro value loaded
  cases loaded
  exact ⟨by rw [List.filterMap_cons_some told, List.filterMap_nil], rfl⟩

/-- A statement without others in it. -/
theorem kept {α : Type} {item : Json} (told : Record.ofDropped? item = none)
    {outcome : Except LoadError α} {build : α → Statement}
    (single : ∀ value, outcome = .ok value → (build value).size = 1) :
    Accounts [item] sizeFound
      (do return some (build (← outcome)) : Journal LoadError (Option Statement)) := by
  intro value loaded
  obtain ⟨statement, found, loaded⟩ := Journal.outcome_bind_eq_ok.mp loaded
  cases loaded
  rw [Journal.records_bind found, List.filterMap_cons_none told]
  exact ⟨rfl, congrArg (0 + ·) (single statement found)⟩

/-- A container, which is kept with what is kept of its children. -/
theorem container {item : Json} (told : Record.ofDropped? item = none) {seen : List Json}
    {children : Journal LoadError (List Statement)} (inner : Accounts seen sizeAll children)
    (id : Except LoadError (Option String)) (build : Option String → List Statement → Statement)
    (grows : ∀ id statements, (build id statements).size = sizeAll statements + 1) :
    Accounts (item :: seen) sizeFound
      (do
        let id ← id
        return some (build id (← children)) : Journal LoadError (Option Statement)) := by
  intro value loaded
  obtain ⟨id, found, loaded⟩ := Journal.outcome_bind_eq_ok.mp loaded
  obtain ⟨statements, held, loaded⟩ := Journal.outcome_bind_eq_ok.mp loaded
  cases loaded
  obtain ⟨records, balance⟩ := inner statements held
  rw [Journal.records_bind found, Journal.records_bind held, List.filterMap_cons_none told]
  change [] ++ (children.records ++ []) = _ ∧
    ([] ++ (children.records ++ [])).length + (build id statements).size = _
  rw [List.nil_append, List.append_nil, grows, List.length_cons, ← balance]
  exact ⟨records, rfl⟩

/-- What is loaded from a list begins with what is loaded from its first item. -/
theorem cons {seen later : List Json} {first : Journal LoadError (Option Statement)}
    {rest : Journal LoadError (List Statement)}
    (head : Accounts seen sizeFound first)
    (tail : Accounts later sizeAll rest) :
    Accounts (seen ++ later) sizeAll (do
      let statement ← first
      let statements ← rest
      return statement.toList ++ statements) := by
  intro value loaded
  obtain ⟨statement, found, loaded⟩ := Journal.outcome_bind_eq_ok.mp loaded
  obtain ⟨statements, held, loaded⟩ := Journal.outcome_bind_eq_ok.mp loaded
  cases loaded
  obtain ⟨records, balance⟩ := head statement found
  obtain ⟨records', balance'⟩ := tail statements held
  rw [Journal.records_bind found, Journal.records_bind held, List.filterMap_append, ← records,
    ← records', Statement.sizeAll_toList_append]
  change first.records ++ (rest.records ++ []) = _ ∧
    (first.records ++ (rest.records ++ [])).length + _ = _
  rw [List.append_nil, List.length_append, List.length_append]
  exact ⟨rfl, by omega⟩

end Accounts

theorem accounts_attrOfFields {fields : List (String × Json)}
    (tagged : field fields "type" = .string Tag.attr.name) :
    Accounts [.object fields] sizeFound (Statement.attrOfFields fields) := by
  cases aimed : targetOf? (field fields "target") with
  | some target =>
    rw [Statement.attrOfFields_known (Statement.targetOf?_eq_some_iff.mp aimed)]
    refine .kept ?_ fun _ _ => rfl
    rw [Record.ofDropped?_attr tagged, aimed]
    rfl
  | none =>
    cases scalar : (field fields "target").isScalar with
    | true =>
      rw [Statement.attrOfFields_unknown scalar (Statement.ne_name_of_targetOf?_eq_none aimed)]
      apply Accounts.dropped
      rw [Record.ofDropped?_attr tagged, aimed]
      rfl
    | false =>
      rw [Statement.attrOfFields_compound scalar]
      exact .fail _ _ _

theorem accounts_ofItems {items : List Json}
    (each : ∀ item ∈ items, Accounts (visited item) sizeFound (ofJson item)) :
    Accounts (items.flatMap visited) sizeAll (ofItems items) := by
  induction items with
  | nil =>
    rw [ofItems]
    exact .nothing
  | cons item items ih =>
    obtain ⟨first, later⟩ := List.forall_mem_cons.mp each
    rw [List.flatMap_cons, ofItems]
    exact .cons first (ih later)

theorem accounts_childrenOf {fields : List (String × Json)}
    (each : ∀ child ∈ Json.children (.object fields),
      Accounts (visited child) sizeFound (ofJson child)) :
    Accounts ((Json.children (.object fields)).flatMap visited) sizeAll (childrenOf fields) := by
  rw [Statement.childrenOf_eq_ofItems, Statement.elementsOrNone_eq]
  split
  · exact accounts_ofItems each
  · exact .fail _ _ _

/-- A value is accounted for if its children are. -/
theorem hereditary_accounts :
    Json.Hereditary fun value => Accounts (visited value) sizeFound (ofJson value) := by
  intro value each
  cases value with
  | object fields =>
    have inner := accounts_childrenOf each
    by_cases tagged : ∃ tag : Tag, field fields "type" = .string tag.name
    · obtain ⟨tag, tagged⟩ := tagged
      cases container : tag.isContainer with
      | true =>
        rw [Statement.ofJson_container tagged container, Json.visited_container tagged container]
        refine .container (Record.ofDropped?_tagged tagged ?_) inner _ _ fun _ _ => ?_
        · rintro rfl
          cases container
        · exact Statement.size_container ..
      | false =>
        rw [Json.visited_plain tagged container]
        cases tag with
        | graph | digraph | subgraph => cases container
        | node =>
          rw [Statement.ofJson_node tagged]
          refine .kept (Record.ofDropped?_tagged tagged (by decide)) fun statement loaded => ?_
          obtain ⟨_, _, rfl⟩ := Statement.nodeOfFields_eq_ok loaded
          rfl
        | edge =>
          rw [Statement.ofJson_edge tagged]
          refine .kept (Record.ofDropped?_tagged tagged (by decide)) fun statement loaded => ?_
          obtain ⟨_, _, rfl⟩ := Statement.edgeOfFields_eq_ok loaded
          rfl
        | attr =>
          rw [Statement.ofJson_attr tagged]
          exact accounts_attrOfFields tagged
    · have untagged := not_exists.mp tagged
      rw [Statement.ofJson_untagged untagged, Json.visited_untagged untagged]
      exact .dropped (by simp only [Record.ofDropped?, Statement.tagOf?_eq_none untagged])
  | _ => exact .fail _ _ _

theorem accounts_ofJson (value : Json) : Accounts (visited value) sizeFound (ofJson value) :=
  hereditary_accounts.holds value

/-! ### Resolving -/

namespace Statement

mutual

/-- A child of a container with those below it, each with the id of the container in which it
stands. Nothing is below a child that is no statement of a body. -/
def descendants (container : Option String) : Statement → List (Option String × Statement)
  | .subgraph id children => (container, .subgraph id children) :: descendantsAll id children
  | statement => [(container, statement)]

def descendantsAll (container : Option String) : List Statement → List (Option String × Statement)
  | [] => []
  | statement :: statements => descendants container statement ++ descendantsAll container statements

end

/-- A record for each child that is ignored. -/
def recordsOf (children : List (Option String × Statement)) : List Record :=
  (children.filter fun child => child.2.isIgnored).map fun child =>
    .ignoredChild child.2.label child.1

theorem recordsOf_append (first second : List (Option String × Statement)) :
    recordsOf (first ++ second) = recordsOf first ++ recordsOf second := by
  rw [recordsOf, List.filter_append, List.map_append]
  rfl

mutual

theorem ignored_eq (container : Option String) : ∀ statement : Statement,
    ignored container statement = recordsOf (descendants container statement)
  | .subgraph id children => ignoredAll_eq id children
  | .node .. | .edge .. | .attr .. | .graph .. | .foreign _ => rfl

theorem ignoredAll_eq (container : Option String) : ∀ statements : List Statement,
    ignoredAll container statements = recordsOf (descendantsAll container statements)
  | [] => rfl
  | statement :: statements => by
    rw [ignoredAll, descendantsAll, recordsOf_append, ignored_eq, ignoredAll_eq]

end

end Statement

namespace Graph

/-- The records of resolving statements to graphs: for a graph those of the children that are
ignored, and one of the numbers of its nodes, at any depth, and of its own edges; for all else one
that it is ignored. -/
inductive Accounted : List Statement → List Graph → List Record → Prop
  | nil : Accounted [] [] []
  | graph (decl : GraphDecl) {statements : List Statement} {graphs : List Graph}
      {records : List Record} : Accounted statements graphs records →
      Accounted (decl.toStatement :: statements) (ofDecl decl :: graphs)
        (Statement.recordsOf (Statement.descendantsAll decl.id decl.children) ++
          .resolved decl.kind.tag decl.id (Entry.nodesAll (ofDecl decl).entries).length
            (ofDecl decl).edges.length :: records)
  | other {statement : Statement} {statements : List Statement} {graphs : List Graph}
      {records : List Record} : (∀ decl : GraphDecl, statement ≠ decl.toStatement) →
      Accounted statements graphs records →
      Accounted (statement :: statements) graphs (.ignoredItem statement.label :: records)

/-- The table of a graph has one entry for each of its nodes. -/
theorem size_table_bodyOf (decl : GraphDecl) :
    (bodyOf decl.children).table.size = (Entry.nodesAll (ofDecl decl).entries).length := by
  rw [← OrderedMap.length_keys, bodyOf, Statement.keys_reduceAll, ofDecl, ofBody,
    Entry.nodesAll_mapAll, List.length_map, bodyOf, Statement.nodesAll_reduceAll,
    OrderedMap.keys_empty, List.nil_append]

theorem records_ofStatement?_decl (decl : GraphDecl) :
    (ofStatement? decl.toStatement).records =
      Statement.recordsOf (Statement.descendantsAll decl.id decl.children) ++
        [.resolved decl.kind.tag decl.id (Entry.nodesAll (ofDecl decl).entries).length
          (ofDecl decl).edges.length] := by
  rw [← Statement.ignoredAll_eq, ← size_table_bodyOf]
  obtain ⟨kind, strict, id, children⟩ := decl
  cases kind <;> exact List.append_nil _

/-- What is resolved at the top level is a declared graph; all else is ignored. -/
theorem ofStatement?_cases {statement : Statement} {graph : Option Graph}
    (resolved : (ofStatement? statement).outcome = .ok graph) :
    (∃ decl : GraphDecl, statement = decl.toStatement ∧ graph = some (ofDecl decl)) ∨
      (∀ decl : GraphDecl, statement ≠ decl.toStatement) ∧ graph = none ∧
        (ofStatement? statement).records = [.ignoredItem statement.label] := by
  cases statement with
  | graph tag strict id children =>
    cases tag with
    | graph =>
      cases resolved
      exact .inl ⟨⟨.graph, strict, id, children⟩, rfl, rfl⟩
    | digraph =>
      cases resolved
      exact .inl ⟨⟨.digraph, strict, id, children⟩, rfl, rfl⟩
    | _ => cases resolved
  | _ =>
    cases resolved
    refine .inr ⟨?_, rfl, rfl⟩
    rintro decl ⟨⟩

theorem accounted_ofStatements {statements : List Statement} {graphs : List Graph}
    (resolved : (ofStatements statements).outcome = .ok graphs) :
    Accounted statements graphs (ofStatements statements).records := by
  induction statements generalizing graphs with
  | nil =>
    cases resolved
    exact .nil
  | cons statement statements ih =>
    obtain ⟨graph, first, resolved⟩ := Journal.outcome_bind_eq_ok.mp resolved
    obtain ⟨others, rest, resolved⟩ := Journal.outcome_bind_eq_ok.mp resolved
    cases resolved
    have records : (ofStatements (statement :: statements)).records =
        (ofStatement? statement).records ++ (ofStatements statements).records := by
      unfold ofStatements
      rw [List.map_cons, ofItems, Journal.records_bind first, Journal.records_bind rest]
      exact congrArg (_ ++ ·) (List.append_nil _)
    rw [records]
    obtain ⟨decl, rfl, rfl⟩ | ⟨other, rfl, told⟩ := ofStatement?_cases first
    · rw [records_ofStatement?_decl, List.append_assoc]
      exact .graph decl (ih rest)
    · rw [told]
      exact .other other (ih rest)

end Graph

/-- Loading visits the values of a list and of all lists of children below them. Each of them is
kept as a statement, or its record tells that it was dropped. Resolving tells of each item what its
body ignores at any depth and then how many nodes and edges its graph has, or that it was ignored
itself. -/
theorem Record.account :
    (∀ data statements, (ofItems data).outcome = .ok statements →
      (ofItems data).records.length + sizeAll statements = (data.flatMap visited).length ∧
      (ofItems data).records = (data.flatMap visited).filterMap Record.ofDropped?) ∧
    ∀ statements graphs, (Graph.ofStatements statements).outcome = .ok graphs →
      Graph.Accounted statements graphs (Graph.ofStatements statements).records := by
  refine ⟨fun data statements loaded => ?_, fun _ _ => Graph.accounted_ofStatements⟩
  obtain ⟨records, balance⟩ := accounts_ofItems (fun item _ => accounts_ofJson item) _ loaded
  exact ⟨balance, records⟩

/-- A subgraph whose children are an object of no tag, with a child that is not visited, and
defaults for no known target; and a graph with another one in a subgraph, after a node. -/
theorem Record.account_nested :
    let comment : Json := .object [("type", .string "comment"), ("children", .array [.null])]
    let defaults : Json := .object [("type", .string "attr_stmt"), ("target", .string "edges")]
    let subgraph : Json :=
      .object [("type", .string "subgraph"), ("children", .array [comment, defaults])]
    let statements : List Statement := [.node ⟨"a", none⟩ [],
      .graph .digraph false (some "g")
        [.subgraph none [.graph .graph false none [.foreign .int]], .node ⟨"a", none⟩ []]]
    ((ofItems [subgraph]).outcome = .ok [.subgraph none []] ∧
      (ofItems [subgraph]).records.length + 1 = ([subgraph].flatMap visited).length ∧
      (ofItems [subgraph]).records =
        [.droppedTag (.string "comment"), .droppedTarget (.string "edges")]) ∧
    ∃ graphs, (Graph.ofStatements statements).outcome = .ok graphs ∧
      Graph.Accounted statements graphs (Graph.ofStatements statements).records ∧
      (Graph.ofStatements statements).records =
        [.ignoredItem "node_stmt", .ignoredChild "graph" none, .resolved .digraph (some "g") 1 0] := by
  intro comment defaults subgraph statements
  obtain ⟨loading, resolving⟩ := Record.account
  obtain ⟨balance, records⟩ := loading [subgraph] [.subgraph none []] rfl
  refine ⟨⟨rfl, balance, records.trans rfl⟩, ?_⟩
  exact ⟨_, rfl, resolving statements _ rfl, rfl⟩

end DotGraph
