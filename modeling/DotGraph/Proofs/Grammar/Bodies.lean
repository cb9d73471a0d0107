import DotGraph.Proofs.Grammar.Statements
import DotGraph.GraphDecl.OfTokens

/-!
# Reading bodies and declarations

Bodies are read as their trees (`Reader.reads_body`), and so are declarations.
-/

namespace DotGraph

namespace Reader

theorem attrTarget?_of_free {name : NameTree}
    (free : ∀ keyword, name.keyword? = some keyword → keyword.opensStatement = false) :
    ¬ (name.keyword?.bind attrTarget?).isSome = true := by
  cases spelled : name.keyword? with
  | none => simp
  | some keyword =>
    have := free keyword spelled
    cases keyword <;> simp_all [Keyword.opensStatement, attrTarget?]

theorem free_of_attrTarget? {name : NameTree}
    (noTarget : ¬ (name.keyword?.bind attrTarget?).isSome = true)
    (noSubgraph : name.keyword? ≠ some .subgraph) :
    ∀ keyword, name.keyword? = some keyword → keyword.opensStatement = false := by
  intro keyword spelled
  cases keyword <;> simp_all [Keyword.opensStatement, attrTarget?]

def partsOfSimple : SimpleTree → SimpleParts
  | .defaults target keyword list lists => .inl ⟨(⟨target, keyword⟩, list, lists), trivial⟩
  | .named tree free => .inr ⟨tree, attrTarget?_of_free free⟩

theorem tokens_partsOfSimple (tree : SimpleTree) : (partsOfSimple tree).tokens = tree.tokens := by
  cases tree <;> rfl

theorem statement_partsOfSimple (tree : SimpleTree) :
    (partsOfSimple tree).statement = tree.statement := by
  cases tree <;> rfl

theorem partsOfSimple_injective {tree other : SimpleTree}
    (same : partsOfSimple tree = partsOfSimple other) : tree = other := by
  cases tree <;> cases other <;> cases same <;> rfl

theorem startsSubgraph_simple (tree : SimpleTree) (rest : List Token) :
    startsSubgraph (tree.tokens ++ rest) = false := by
  rw [Bool.eq_false_iff]
  cases tree with
  | defaults target keyword list lists =>
    change ¬ (keyword.1.kind == .leftBrace || keyword.1.keyword? == some .subgraph) = true
    rw [Token.kind_of_keyword? keyword.2, keyword.2]
    cases target <;> decide
  | named tree free =>
    intro starts
    cases free .subgraph ((startsSubgraph_named tree rest).mp starts)

theorem nextKind_simple (tree : SimpleTree) (rest : List Token) :
    (nextKind (tree.tokens ++ rest)).isId = true := by
  rw [← tokens_partsOfSimple]
  exact nextKind_parts _ rest

theorem simpleStatement_complete (tree : SimpleTree) (semicolon : Option (Mark .semicolon))
    {rest : List Token} (ends : (nextKind rest).endsStatement = true)
    (stops : nextKind rest ≠ .semicolon) :
    simpleStatement.run (tree.tokens ++ (semicolonTokens semicolon ++ rest)) =
      .ok (tree.statement, rest) := by
  rw [← tokens_partsOfSimple, ← statement_partsOfSimple, ← List.append_assoc]
  exact reads_simpleStatement.complete (partsOfSimple tree, semicolon) ⟨ends, stops⟩

theorem simpleStatement_sound {input rest : List Token} {result : Statement}
    (plain : startsSubgraph input = false)
    (found : simpleStatement.run input = .ok (result, rest)) :
    ∃ (tree : SimpleTree) (semicolon : Option (Mark .semicolon)),
      input = tree.tokens ++ (semicolonTokens semicolon ++ rest) ∧ tree.statement = result := by
  obtain ⟨⟨parts, semicolon⟩, rfl, rfl⟩ := reads_simpleStatement.sound found
  rcases parts with ⟨⟨⟨target, keyword⟩, list, lists⟩, _⟩ | ⟨tree, noTarget⟩
  · exact ⟨.defaults target keyword list lists, semicolon, List.append_assoc .., rfl⟩
  · have noSubgraph : tree.name.keyword? ≠ some .subgraph := by
      intro spelled
      rw [List.append_assoc] at plain
      exact Bool.eq_false_iff.mp plain ((startsSubgraph_named tree _).mpr spelled)
    exact ⟨.named tree (free_of_attrTarget? noTarget noSubgraph), semicolon,
      List.append_assoc .., rfl⟩

theorem simpleStatement_unique {tree other : SimpleTree}
    {semicolon semicolon' : Option (Mark .semicolon)} {rest rest' : List Token}
    (ends : (nextKind rest).endsStatement = true ∧ nextKind rest ≠ .semicolon)
    (ends' : (nextKind rest').endsStatement = true ∧ nextKind rest' ≠ .semicolon)
    (equal : tree.tokens ++ (semicolonTokens semicolon ++ rest) =
      other.tokens ++ (semicolonTokens semicolon' ++ rest')) :
    tree = other ∧ semicolon = semicolon' ∧ rest = rest' := by
  rw [← tokens_partsOfSimple, ← tokens_partsOfSimple, ← List.append_assoc, ← List.append_assoc]
    at equal
  obtain ⟨trees, rests⟩ := reads_simpleStatement.unique (partsOfSimple tree, semicolon)
    (partsOfSimple other, semicolon') ends ends' equal
  obtain ⟨parts, semicolons⟩ := Prod.mk.inj trees
  exact ⟨partsOfSimple_injective parts, semicolons, rests⟩

/-- Whether a kind of token may begin a statement. -/
def opensStatement (kind : TokenKind) : Bool := kind.isId || kind == .leftBrace

theorem not_isBodyEnd {kind : TokenKind} (opens : opensStatement kind = true) :
    isBodyEnd kind = false := by
  cases kind <;> first | rfl | cases opens

theorem opensStatement_simple (tree : SimpleTree) (rest : List Token) :
    opensStatement (nextKind (tree.tokens ++ rest)) = true := by
  rw [opensStatement, nextKind_simple, Bool.true_or]

theorem opensStatement_subgraph (head : SubgraphHead) (opening : Mark .leftBrace)
    (rest : List Token) :
    opensStatement (nextKind ((head.tokens ++ [opening.1]) ++ rest)) = true := by
  rcases head with _ | ⟨keyword, name⟩
  · change opensStatement opening.1.kind = true
    rw [opening.2]
    rfl
  · change opensStatement keyword.1.kind = true
    rw [Token.kind_of_keyword? keyword.2]
    rfl

theorem startsSubgraph_subgraph (head : SubgraphHead) (opening : Mark .leftBrace)
    (rest : List Token) : startsSubgraph ((head.tokens ++ [opening.1]) ++ rest) = true := by
  rcases head with _ | ⟨keyword, name⟩
  · change (opening.1.kind == .leftBrace || opening.1.keyword? == some .subgraph) = true
    rw [opening.2]
    rfl
  · change (keyword.1.kind == .leftBrace || keyword.1.keyword? == some .subgraph) = true
    rw [keyword.2, beq_self_eq_true, Bool.or_true]

/-- The tokens of a body, in the groups in which they are read. -/
theorem tokens_cons_simple (tree : SimpleTree) (semicolon : Option (Mark .semicolon))
    (others : BodyTree) (rest : List Token) :
    (BodyTree.cons (.simple tree) semicolon others).tokens ++ rest =
      tree.tokens ++ (semicolonTokens semicolon ++ (others.tokens ++ rest)) := by
  simp [BodyTree.tokens, StatementTree.tokens]

theorem tokens_cons_subgraph (head : SubgraphHead) (opening : Mark .leftBrace) (inner : BodyTree)
    (closing : Mark .rightBrace) (semicolon : Option (Mark .semicolon)) (others : BodyTree)
    (rest : List Token) :
    (BodyTree.cons (.subgraph head opening inner closing) semicolon others).tokens ++ rest =
      (head.tokens ++ [opening.1]) ++ (inner.tokens ++
        ((closing.1 :: semicolonTokens semicolon) ++ (others.tokens ++ rest))) := by
  simp [BodyTree.tokens, StatementTree.tokens]

theorem opensStatement_cons (statement : StatementTree) (semicolon : Option (Mark .semicolon))
    (others : BodyTree) (rest : List Token) :
    opensStatement (nextKind ((BodyTree.cons statement semicolon others).tokens ++ rest)) =
      true := by
  cases statement with
  | simple tree =>
    rw [tokens_cons_simple]
    exact opensStatement_simple tree _
  | subgraph head opening inner closing =>
    rw [tokens_cons_subgraph]
    exact opensStatement_subgraph head opening _

/-- After a statement comes another one or the end of the body. -/
theorem follow_body (follow : TokenKind → Prop)
    (opens : ∀ kind, opensStatement kind = true → follow kind) (tree : BodyTree)
    {rest : List Token} (fits : follow (nextKind rest)) :
    follow (nextKind (tree.tokens ++ rest)) := by
  cases tree with
  | nil => exact fits
  | cons statement semicolon others =>
    exact opens _ (opensStatement_cons statement semicolon others rest)

theorem follow_statement (tree : BodyTree) {rest : List Token}
    (ends : isBodyEnd (nextKind rest) = true) :
    ((nextKind (tree.tokens ++ rest)).endsStatement = true ∧
      nextKind (tree.tokens ++ rest) ≠ .semicolon) ∧
      (nextKind (tree.tokens ++ rest)).isEdgeOperator = false := by
  refine follow_body (fun kind => (kind.endsStatement = true ∧ kind ≠ .semicolon) ∧
    kind.isEdgeOperator = false) (fun kind opens => ?_) tree ?_
  · cases kind <;> first | decide | cases opens
  · generalize nextKind rest = kind at ends
    cases kind <;> first | decide | cases ends

theorem isBodyEnd_closing (closing : Mark .rightBrace) (semicolon : Option (Mark .semicolon))
    (rest : List Token) :
    isBodyEnd (nextKind ((closing.1 :: semicolonTokens semicolon) ++ rest)) = true := by
  change isBodyEnd closing.1.kind = true
  rw [closing.2]
  rfl

theorem run_body_of_end {input : List Token} (ends : isBodyEnd (nextKind input) = true) :
    body.run input = .ok ([], input) := by
  rw [body_eq, run_inspect_bind, if_pos ends]
  rfl

theorem run_body_of_subgraph {input : List Token} (more : isBodyEnd (nextKind input) = false)
    (starts : startsSubgraph input = true) :
    body.run input = (subgraphOpening >>= fun id => body >>= fun children =>
      subgraphClosing >>= fun _ => body >>= fun others =>
        pure (Statement.subgraph id children :: others)).run input := by
  rw [body_eq, run_inspect_bind, if_neg (by simp [more]), run_inspect_bind, if_pos starts,
    ← body_eq]

theorem run_body_of_simple {input : List Token} (more : isBodyEnd (nextKind input) = false)
    (plain : startsSubgraph input = false) :
    body.run input = (simpleStatement >>= fun statement => body >>= fun others =>
      pure (statement :: others)).run input := by
  rw [body_eq, run_inspect_bind, if_neg (by simp [more]), run_inspect_bind,
    if_neg (by simp [plain]), ← body_eq]

theorem body_complete (tree : BodyTree) {rest : List Token}
    (ends : isBodyEnd (nextKind rest) = true) :
    body.run (tree.tokens ++ rest) = .ok (tree.statements, rest) := by
  match tree with
  | .nil => exact run_body_of_end ends
  | .cons (.simple tree) semicolon others =>
    have ⟨⟨fits, noSemicolon⟩, _⟩ := follow_statement others ends
    rw [tokens_cons_simple,
      run_body_of_simple (not_isBodyEnd (opensStatement_simple tree _))
        (startsSubgraph_simple tree _),
      run_bind_of_ok (simpleStatement_complete tree semicolon fits noSemicolon),
      run_bind_of_ok (body_complete others ends)]
    rfl
  | .cons (.subgraph head opening inner closing) semicolon others =>
    have ⟨⟨_, noSemicolon⟩, noOperator⟩ := follow_statement others ends
    rw [tokens_cons_subgraph,
      run_body_of_subgraph (not_isBodyEnd (opensStatement_subgraph head opening _))
        (startsSubgraph_subgraph head opening _),
      run_bind_of_ok (reads_subgraphOpening.complete (head, opening) trivial),
      run_bind_of_ok (body_complete inner (isBodyEnd_closing closing semicolon _)),
      run_bind_of_ok
        (reads_subgraphClosing.complete (closing, semicolon) ⟨noOperator, noSemicolon⟩),
      run_bind_of_ok (body_complete others ends)]
    rfl

theorem body_sound {input rest : List Token} {result : List Statement}
    (found : body.run input = .ok (result, rest)) :
    ∃ tree : BodyTree, input = tree.tokens ++ rest ∧ tree.statements = result := by
  by_cases ends : isBodyEnd (nextKind input) = true
  · rw [run_body_of_end ends] at found
    cases found
    exact ⟨.nil, rfl, rfl⟩
  have more := Bool.eq_false_iff.mpr ends
  by_cases starts : startsSubgraph input = true
  · rw [run_body_of_subgraph more starts] at found
    obtain ⟨id, inside, opened, found⟩ := run_bind_eq_ok found
    obtain ⟨children, ending, within, found⟩ := run_bind_eq_ok found
    obtain ⟨_, after, closed, found⟩ := run_bind_eq_ok found
    obtain ⟨others, last, later, found⟩ := run_bind_eq_ok found
    cases found
    have := takes_subgraphOpening.length_le opened
    have := takes_body.length_le within
    have := takes_subgraphClosing.length_le closed
    obtain ⟨inner, rfl, rfl⟩ := body_sound within
    obtain ⟨rest', rfl, rfl⟩ := body_sound later
    obtain ⟨⟨head, opening⟩, rfl, rfl⟩ := reads_subgraphOpening.sound opened
    obtain ⟨⟨closing, semicolon⟩, rfl, -⟩ := reads_subgraphClosing.sound closed
    exact ⟨.cons (.subgraph head opening inner closing) semicolon rest',
      (tokens_cons_subgraph ..).symm, rfl⟩
  · have plain := Bool.eq_false_iff.mpr starts
    rw [run_body_of_simple more plain] at found
    obtain ⟨statement, after, first, found⟩ := run_bind_eq_ok found
    obtain ⟨others, last, later, found⟩ := run_bind_eq_ok found
    cases found
    have := takes_simpleStatement.length_le first
    obtain ⟨rest', rfl, rfl⟩ := body_sound later
    obtain ⟨tree, semicolon, rfl, rfl⟩ := simpleStatement_sound plain first
    exact ⟨.cons (.simple tree) semicolon rest', (tokens_cons_simple ..).symm, rfl⟩
termination_by input.length

theorem simple_ne_subgraph (tree : SimpleTree) (head : SubgraphHead) (opening : Mark .leftBrace)
    (rest rest' : List Token) : tree.tokens ++ rest ≠ (head.tokens ++ [opening.1]) ++ rest' := by
  intro equal
  have plain := startsSubgraph_simple tree rest
  rw [equal, startsSubgraph_subgraph] at plain
  cases plain

theorem cons_ne_of_isBodyEnd (statement : StatementTree) (semicolon : Option (Mark .semicolon))
    (others : BodyTree) (rest : List Token) {rest' : List Token}
    (ends : isBodyEnd (nextKind rest') = true) :
    (BodyTree.cons statement semicolon others).tokens ++ rest ≠ rest' := by
  rintro rfl
  rw [not_isBodyEnd (opensStatement_cons statement semicolon others rest)] at ends
  cases ends

theorem body_unique {tree other : BodyTree} {rest rest' : List Token}
    (ends : isBodyEnd (nextKind rest) = true) (ends' : isBodyEnd (nextKind rest') = true)
    (equal : tree.tokens ++ rest = other.tokens ++ rest') : tree = other ∧ rest = rest' := by
  match tree, other with
  | .nil, .nil => exact ⟨rfl, equal⟩
  | .nil, .cons statement semicolon others =>
    exact absurd equal.symm (cons_ne_of_isBodyEnd statement semicolon others rest' ends)
  | .cons statement semicolon others, .nil =>
    exact absurd equal (cons_ne_of_isBodyEnd statement semicolon others rest ends')
  | .cons (.simple tree) _ _, .cons (.subgraph head opening _ _) _ _ =>
    rw [tokens_cons_simple, tokens_cons_subgraph] at equal
    exact absurd equal (simple_ne_subgraph tree head opening _ _)
  | .cons (.subgraph head opening _ _) _ _, .cons (.simple tree) _ _ =>
    rw [tokens_cons_simple, tokens_cons_subgraph] at equal
    exact absurd equal.symm (simple_ne_subgraph tree head opening _ _)
  | .cons (.simple tree) semicolon others, .cons (.simple tree') semicolon' others' =>
    rw [tokens_cons_simple, tokens_cons_simple] at equal
    obtain ⟨rfl, rfl, later⟩ := simpleStatement_unique (follow_statement others ends).1
      (follow_statement others' ends').1 equal
    obtain ⟨rfl, rests⟩ := body_unique ends ends' later
    exact ⟨rfl, rests⟩
  | .cons (.subgraph head opening inner closing) semicolon others,
      .cons (.subgraph head' opening' inner' closing') semicolon' others' =>
    rw [tokens_cons_subgraph, tokens_cons_subgraph] at equal
    obtain ⟨heads, inside⟩ := reads_subgraphOpening.unique (head, opening) (head', opening')
      trivial trivial equal
    cases heads
    obtain ⟨rfl, after⟩ := body_unique (isBodyEnd_closing closing semicolon _)
      (isBodyEnd_closing closing' semicolon' _) inside
    have ⟨⟨_, noSemicolon⟩, noOperator⟩ := follow_statement others ends
    have ⟨⟨_, noSemicolon'⟩, noOperator'⟩ := follow_statement others' ends'
    obtain ⟨closings, later⟩ := reads_subgraphClosing.unique (closing, semicolon)
      (closing', semicolon') ⟨noOperator, noSemicolon⟩ ⟨noOperator', noSemicolon'⟩ after
    cases closings
    obtain ⟨rfl, rests⟩ := body_unique ends ends' later
    exact ⟨rfl, rests⟩
termination_by tree

theorem reads_body :
    Reads body BodyTree.tokens BodyTree.statements fun kind => isBodyEnd kind = true where
  complete := body_complete
  sound := body_sound
  unique _ _ _ _ := body_unique

end Reader

end DotGraph
