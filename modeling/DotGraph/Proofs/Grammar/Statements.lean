import DotGraph.Proofs.Grammar.Phrases
import DotGraph.Reader.Body

/-!
# Reading statements

The readers of statements, and of what opens and closes a body, read the trees of these.
-/

namespace DotGraph

/-- The kinds of token that may follow a statement. -/
def TokenKind.endsStatement : TokenKind → Bool
  | .semicolon | .leftBrace | .rightBrace | .endOfInput => true
  | kind => kind.isId

namespace Reader

open TokenKind (ne_of_class)

theorem not_isEdgeOperator {kind : TokenKind} (ends : kind.endsStatement = true) :
    kind.isEdgeOperator = false := by
  cases kind <;> first | rfl | cases ends

theorem reads_assignment (key : String) :
    Reads (do
        expect .equals
        let value ← identifier
        return Statement.attr .graph [.pair key value])
      (fun tree : Mark .equals × NameTree => tree.1.1 :: tree.2.tokens)
      (fun tree => .attr .graph [.pair key tree.2.text]) (·.endsStatement = true) := by
  have value := reads_identifier.bind (fun value => reads_pure
    (Statement.attr .graph [.pair key value]) fun kind => kind.endsStatement = true)
    fun _ _ fits => ne_of_class fits rfl
  have reads := (reads_expect .equals).bind (fun _ => value) fun _ _ _ => trivial
  apply reads.relabel (fun tree => (tree.1, tree.2, ())) fun trees => (trees.1, trees.2.1)
  case same =>
    intro tree
    simp
  all_goals
    intro _
    rfl

/-- What stands after the name of a node or of the source of a chain. -/
abbrev NodeParts := PortTree × List LinkTree × List ListTree

namespace NodeParts

def tokens (parts : NodeParts) : List Token :=
  parts.1.tokens ++ (parts.2.1.flatMap LinkTree.tokens ++ parts.2.2.flatMap ListTree.tokens)

def statement (name : String) (parts : NodeParts) : Statement :=
  let others := parts.2.1.map LinkTree.value
  let attrs := parts.2.2.flatMap ListTree.items
  if others.isEmpty then .node ⟨name, parts.1.text?⟩ attrs
  else .edge (⟨name, parts.1.text?⟩ :: others) attrs

end NodeParts

theorem nextKind_nodeParts (follow : TokenKind → Prop) (parts : NodeParts) {rest : List Token}
    (colon : follow .colon)
    (operator : ∀ kind : TokenKind, kind.isEdgeOperator = true → follow kind)
    (bracket : follow .leftBracket) (fits : follow (nextKind rest)) :
    follow (nextKind (parts.tokens ++ rest)) := by
  rw [NodeParts.tokens, List.append_assoc, List.append_assoc]
  apply nextKind_port follow parts.1 colon
  apply nextKind_links follow parts.2.1 operator
  exact nextKind_lists follow parts.2.2 bracket fits

theorem reads_nodeParts (name : String) :
    Reads (do
        let port ← port
        let others ← links
        let attrs ← attrLists
        return if others.isEmpty then Statement.node ⟨name, port⟩ attrs
          else .edge (⟨name, port⟩ :: others) attrs)
      NodeParts.tokens (NodeParts.statement name) (·.endsStatement = true) := by
  have lists (ref : NodeRef) (others : List NodeRef) := reads_attrLists.bind (fun attrs =>
    reads_pure (if others.isEmpty then Statement.node ref attrs else .edge (ref :: others) attrs)
      fun kind => kind.endsStatement = true) fun _ _ fits => ne_of_class fits rfl
  have links (ref : NodeRef) := reads_links.bind (lists ref) fun trees rest fits => by
    rw [List.append_assoc]
    exact nextKind_lists (fun kind => kind ≠ .plus ∧ kind ≠ .colon ∧ kind.isEdgeOperator = false)
      trees.1 (by decide) ⟨ne_of_class fits rfl, ne_of_class fits rfl, not_isEdgeOperator fits⟩
  have reads := reads_port.bind (fun port => links ⟨name, port⟩) fun trees rest fits => by
    rw [List.append_assoc, List.append_assoc]
    apply nextKind_links (fun kind => kind ≠ .plus ∧ kind ≠ .colon) trees.1
    · intro kind operator
      exact ⟨ne_of_class operator rfl, ne_of_class operator rfl⟩
    · exact nextKind_lists (fun kind => kind ≠ .plus ∧ kind ≠ .colon) trees.2.1 (by decide)
        ⟨ne_of_class fits rfl, ne_of_class fits rfl⟩
  apply reads.relabel (fun parts => (parts.1, parts.2.1, parts.2.2, ()))
    fun trees => (trees.1, trees.2.1, trees.2.2.1)
  case same =>
    intro parts
    simp [NodeParts.tokens]
  all_goals
    intro _
    rfl

/-- The phrases of a statement that begins with a name, in the order in which they are read. -/
abbrev NamedParts := NameTree × (Mark .equals × NameTree ⊕ NodeParts)

def partsOfNamed : NamedTree → NamedParts
  | .assignment key equals value => (key, .inl (equals, value))
  | .edge source link links lists => (source.name, .inr (source.port, link :: links, lists))
  | .node ref lists => (ref.name, .inr (ref.port, [], lists))

def namedOfParts : NamedParts → NamedTree
  | (key, .inl (equals, value)) => .assignment key equals value
  | (name, .inr (port, link :: links, lists)) => .edge ⟨name, port⟩ link links lists
  | (name, .inr (port, [], lists)) => .node ⟨name, port⟩ lists

theorem reads_namedStatement :
    Reads namedStatement NamedTree.tokens NamedTree.statement (·.endsStatement = true) := by
  have afterName (name : String) := Reads.either nextKind (· = .equals) (reads_assignment name)
    (reads_nodeParts name) (fun tree _ _ => tree.1.2) fun parts _ fits =>
      nextKind_nodeParts (· ≠ .equals) parts (by decide)
        (fun _ operator => ne_of_class operator rfl) (by decide) (ne_of_class fits rfl)
  have reads := reads_identifier.bind afterName fun trees _ fits => by
    rcases trees with tree | parts
    · change tree.1.1.kind ≠ .plus
      rw [tree.1.2]
      decide
    · exact nextKind_nodeParts (· ≠ .plus) parts (by decide)
        (fun _ operator => ne_of_class operator rfl) (by decide) (ne_of_class fits rfl)
  apply reads.relabel partsOfNamed namedOfParts
  case right => rintro ⟨_, ⟨_, _⟩ | ⟨_, _ | _, _⟩⟩ <;> rfl
  case same =>
    rintro (_ | _ | _) <;> simp [NamedTree.tokens, partsOfNamed, NodeParts.tokens, RefTree.tokens]
  all_goals
    rintro (_ | _ | _) <;> rfl

theorem attrTarget?_eq_some_iff {keyword : Keyword} {target : Target} :
    attrTarget? keyword = some target ↔ keyword = Spelling.targetKeyword target := by
  cases keyword <;> cases target <;> decide

/-- A keyword of defaults with its target. -/
abbrev TargetMark := (target : Target) × KeywordMark (Spelling.targetKeyword target)

abbrev DefaultsParts := TargetMark × ListTree × List ListTree

theorem reads_defaultsStatement :
    Reads defaultsStatement
      (fun parts : DefaultsParts =>
        parts.1.2.1 :: (parts.2.1 :: parts.2.2).flatMap ListTree.tokens)
      (fun parts => .attr parts.1.1 ((parts.2.1 :: parts.2.2).flatMap ListTree.items))
      (·.endsStatement = true) := by
  have reads := (reads_keyword attrTarget?_eq_some_iff .expectedStatement).bind (fun target =>
    reads_someAttrLists.bind (fun items => reads_pure (Statement.attr target items) fun kind =>
      kind.endsStatement = true) fun _ _ fits => ne_of_class fits rfl) fun _ _ _ => trivial
  apply reads.relabel (fun parts => (parts.1, parts.2, ())) (fun trees => (trees.1, trees.2.1))
  case same =>
    intro parts
    simp
  all_goals
    intro _
    rfl

theorem simpleStatement_eq :
    simpleStatement = inspect nextKind >>= fun kind =>
      if kind.isId = true then
        (inspect nextKeyword? >>= fun keyword =>
          if (keyword.bind attrTarget?).isSome = true then defaultsStatement else namedStatement)
          >>= fun statement => skipSemicolon >>= fun _ => pure statement
      else reject .expectedStatement := by
  ext tokens : 2
  unfold simpleStatement
  rw [run_inspect_bind, run_inspect_bind]
  split
  · rw [bind_assoc, run_inspect_bind, run_inspect_bind]
    split <;> rfl
  · rfl

theorem reads_skipSemicolon :
    Reads skipSemicolon semicolonTokens (fun _ => ()) (· ≠ .semicolon) := by
  have reads := (reads_skip (· == .semicolon)).mono
    fun kind (fits : kind ≠ .semicolon) => beq_eq_false_iff_ne.mpr fits
  apply reads.relabel (Option.map fun mark => ⟨mark.1, beq_iff_eq.mpr mark.2⟩)
    (Option.map fun mark => ⟨mark.1, beq_iff_eq.mp mark.2⟩)
  all_goals
    rintro (_ | _) <;> rfl

theorem nextKeyword?_named (tree : NamedTree) (rest : List Token) :
    nextKeyword? (tree.tokens ++ rest) = tree.name.keyword? := by
  cases tree <;> rfl

theorem startsSubgraph_named (tree : NamedTree) (rest : List Token) :
    startsSubgraph (tree.tokens ++ rest) = true ↔ tree.name.keyword? = some .subgraph := by
  cases tree with
  | assignment key _ _ =>
    rw [NamedTree.tokens, List.append_assoc]
    exact startsSubgraph_name key _
  | edge source _ _ _ =>
    rw [NamedTree.tokens, List.append_assoc]
    exact startsSubgraph_ref source _
  | node ref _ =>
    rw [NamedTree.tokens, List.append_assoc]
    exact startsSubgraph_ref ref _

theorem nextKind_named (tree : NamedTree) (rest : List Token) :
    (nextKind (tree.tokens ++ rest)).isId = true := by
  cases tree with
  | assignment key _ _ => exact key.first.2
  | edge source _ _ _ => exact source.name.first.2
  | node ref _ => exact ref.name.first.2

/-- A statement other than a subgraph, as it is read: a name is one if it is no keyword of
defaults. -/
abbrev SimpleParts := { _parts : DefaultsParts // True } ⊕
  { tree : NamedTree // ¬ (tree.name.keyword?.bind attrTarget?).isSome = true }

def SimpleParts.tokens : SimpleParts → List Token :=
  Sum.elim (fun parts => parts.1.1.2.1 :: (parts.1.2.1 :: parts.1.2.2).flatMap ListTree.tokens)
    fun tree => tree.1.tokens

def SimpleParts.statement : SimpleParts → Statement :=
  Sum.elim
    (fun parts => .attr parts.1.1.1 ((parts.1.2.1 :: parts.1.2.2).flatMap ListTree.items))
    fun tree => tree.1.statement

theorem nextKind_parts (parts : SimpleParts) (rest : List Token) :
    (nextKind (parts.tokens ++ rest)).isId = true := by
  rcases parts with ⟨⟨⟨target, mark⟩, lists⟩, _⟩ | ⟨tree, _⟩
  · change mark.1.kind.isId = true
    rw [Token.kind_of_keyword? mark.2]
    rfl
  · exact nextKind_named tree rest

theorem reads_simpleStatement :
    Reads simpleStatement
      (fun tree : SimpleParts × Option (Mark .semicolon) => tree.1.tokens ++ semicolonTokens tree.2)
      (fun tree => tree.1.statement)
      fun kind => kind.endsStatement = true ∧ kind ≠ .semicolon := by
  have either : Reads _ SimpleParts.tokens SimpleParts.statement (·.endsStatement = true) :=
    Reads.choice nextKeyword? (fun keyword => (keyword.bind attrTarget?).isSome = true)
      (fun _ => True) _ reads_defaultsStatement reads_namedStatement
      (fun {parts _} _ _ => by
        change (parts.1.2.1.keyword?.bind attrTarget?).isSome = true
        rw [parts.1.2.2, Option.bind_some, attrTarget?_eq_some_iff.mpr rfl]
        rfl)
      (fun free _ => by rwa [nextKeyword?_named]) (fun _ => trivial)
      (fun seen => by rwa [nextKeyword?_named] at seen)
  have semicolon (statement : Statement) := (reads_skipSemicolon.bind
    (fun _ => reads_pure statement (· ≠ .semicolon)) fun _ _ fits => fits).mono
    fun kind (fits : kind.endsStatement = true ∧ kind ≠ .semicolon) => fits.2
  have statement := either.bind semicolon fun trees rest fits => by
    rcases trees with ⟨_ | mark, _⟩
    · exact fits.1
    · change mark.1.kind.endsStatement = true
      rw [mark.2]
      rfl
  have reads := Reads.either nextKind (fun kind => kind.isId = true) statement
    (reads_reject .expectedStatement fun kind => kind.endsStatement = true ∧ kind ≠ .semicolon)
    (fun trees _ _ => by
      rw [List.append_assoc]
      exact nextKind_parts trees.1 _)
    (fun tree => tree.elim)
  rw [simpleStatement_eq]
  apply reads.relabel (fun tree => .inl (tree.1, tree.2, ()))
    (Sum.elim (fun trees => (trees.1, trees.2.1)) Empty.elim)
  case right =>
    rintro (_ | tree)
    · rfl
    · exact tree.elim
  case same =>
    intro tree
    exact congrArg (tree.1.tokens ++ ·) (List.append_nil _).symm
  all_goals
    intro _
    rfl

theorem reads_bodyOpening :
    Reads bodyOpening
      (fun tree : Option NameTree × Mark .leftBrace => optionalTokens tree.1 ++ [tree.2.1])
      (fun tree => tree.1.map NameTree.text) fun _ => True := by
  have brace (id : Option String) := (reads_expect .leftBrace).bind
    (fun _ => reads_pure id fun _ => True) fun _ _ _ => trivial
  have named := reads_identifier.bind (fun id => brace (some id)) fun trees _ _ => by
    change trees.1.1.kind ≠ .plus
    rw [trees.1.2]
    decide
  have reads := Reads.either nextKind (fun kind => kind.isId = true) named (brace none)
    (fun trees _ _ => trees.1.first.2)
    (fun trees _ _ => by
      change ¬ trees.1.1.kind.isId = true
      rw [trees.1.2]
      decide)
  apply reads.relabel
    (fun tree => tree.1.elim (.inr (tree.2, ())) fun name => .inl (name, tree.2, ()))
    (Sum.elim (fun trees => (some trees.1, trees.2.1)) fun trees => (none, trees.1))
  case right => rintro (_ | _) <;> rfl
  all_goals
    rintro ⟨_ | _, _⟩ <;> rfl

theorem reads_subgraphOpening :
    Reads subgraphOpening
      (fun tree : SubgraphHead × Mark .leftBrace => tree.1.tokens ++ [tree.2.1])
      (fun tree => tree.1.id) fun _ => True := by
  have keyword := (reads_expect .identifier).bind (fun _ => reads_bodyOpening) fun _ _ _ => trivial
  have brace := (reads_expect .leftBrace).bind
    (fun _ => reads_pure (none : Option String) fun _ => True) fun _ _ _ => trivial
  have reads := Reads.choice nextKeyword? (· = some .subgraph)
    (fun trees => trees.1.1.keyword? = some .subgraph) (fun _ => True)
    keyword brace (fun spelled _ => spelled)
    (fun {trees _} _ _ spelled => by
      have word : trees.1.1.kind = .identifier := Token.kind_of_keyword? spelled
      rw [trees.1.2] at word
      cases word)
    (fun spelled => spelled) (fun _ => trivial)
  apply reads.relabel
    (fun tree => tree.1.elim (.inr ⟨(tree.2, ()), trivial⟩) fun head =>
      .inl ⟨(⟨head.1.1, Token.kind_of_keyword? head.1.2⟩, head.2, tree.2), head.1.2⟩)
    (Sum.elim (fun trees => (some (⟨trees.1.1.1, trees.2⟩, trees.1.2.1), trees.1.2.2))
      fun trees => (none, trees.1.1))
  case right => rintro (_ | _) <;> rfl
  all_goals
    rintro ⟨_ | _, _⟩ <;> rfl

theorem reads_subgraphClosing :
    Reads subgraphClosing
      (fun tree : Mark .rightBrace × Option (Mark .semicolon) =>
        tree.1.1 :: semicolonTokens tree.2)
      (fun _ => ()) fun kind => kind.isEdgeOperator = false ∧ kind ≠ .semicolon := by
  have after := Reads.either nextKind (fun kind => kind.isEdgeOperator = true)
    (reads_reject .subgraphEndpoint fun kind => kind.isEdgeOperator = false ∧ kind ≠ .semicolon)
    (reads_skipSemicolon.mono fun _ fits => fits.2) (fun tree => tree.elim)
    (fun semicolon _ fits => by
      rcases semicolon with _ | mark
      · exact Bool.eq_false_iff.mp fits.1
      · change ¬ mark.1.kind.isEdgeOperator = true
        rw [mark.2]
        decide)
  have reads := (reads_expect .rightBrace).bind (fun _ => after) fun _ _ _ => trivial
  apply reads.relabel (fun tree => (tree.1, .inr tree.2))
    (fun trees => (trees.1, trees.2.elim Empty.elim id))
  case right =>
    rintro ⟨_, tree | _⟩
    · exact tree.elim
    · rfl
  all_goals
    intro _
    rfl

end Reader

end DotGraph
