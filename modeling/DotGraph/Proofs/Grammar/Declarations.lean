import DotGraph.Proofs.Grammar.Bodies
import DotGraph.Proofs.Tokens

/-!
# Reading declarations

The reader of declarations accepts what the grammar derives, with the declarations that it derives,
and what the grammar derives it derives in one way (`GraphDecl.parse_iff_derives`).
-/

namespace DotGraph

namespace Reader

theorem graphKind?_eq_some_iff {keyword : Keyword} {kind : GraphKind} :
    graphKind? keyword = some kind ↔ keyword = GraphDecl.kindKeyword kind := by
  cases keyword <;> cases kind <;> decide

/-- A keyword of declarations with the kind of graph it declares. -/
abbrev KindMark := (kind : GraphKind) × KeywordMark (GraphDecl.kindKeyword kind)

/-- A declaration from its keyword on, in the order in which it is read. -/
abbrev DeclParts :=
  KindMark × (Option NameTree × Mark .leftBrace) × BodyTree × Mark .rightBrace

def DeclParts.tokens (parts : DeclParts) : List Token :=
  parts.1.2.1 :: (optionalTokens parts.2.1.1 ++
    parts.2.1.2.1 :: (parts.2.2.1.tokens ++ [parts.2.2.2.1]))

def DeclParts.decl (strict : Bool) (parts : DeclParts) : GraphDecl :=
  ⟨parts.1.1, strict, parts.2.1.1.map NameTree.text, parts.2.2.1.statements⟩

theorem reads_graphDecl (strict : Bool) :
    Reads (graphDecl strict) DeclParts.tokens (DeclParts.decl strict) fun _ => True := by
  have closing (kind : GraphKind) (id : Option String) (children : List Statement) :=
    (reads_expect .rightBrace).bind (fun _ => reads_pure (GraphDecl.mk kind strict id children)
      fun _ => True) fun _ _ _ => trivial
  have inside (kind : GraphKind) (id : Option String) := reads_body.bind (closing kind id)
    fun trees _ _ => isBodyEnd_closing trees.1 none _
  have opening (kind : GraphKind) := reads_bodyOpening.bind (inside kind) fun _ _ _ => trivial
  have reads := (reads_keyword graphKind?_eq_some_iff .expectedGraph).bind opening
    fun _ _ _ => trivial
  apply reads.relabel (fun parts => (parts.1, parts.2.1, parts.2.2.1, parts.2.2.2, ()))
    (fun trees => (trees.1, trees.2.1, trees.2.2.1, trees.2.2.2.1))
  case same =>
    intro parts
    simp [DeclParts.tokens]
  all_goals
    intro _
    rfl

def partsOfDecl (tree : DeclTree) : DeclParts :=
  (⟨tree.kind, tree.keyword⟩, (tree.name, tree.opening), tree.body, tree.closing)

def declOfParts (strict : Option (KeywordMark .strict)) (parts : DeclParts) : DeclTree :=
  ⟨strict, parts.1.1, parts.1.2, parts.2.1.1, parts.2.1.2, parts.2.2.1, parts.2.2.2⟩

theorem reads_declaration :
    Reads declaration DeclTree.tokens DeclTree.decl fun _ => True := by
  have strict := (reads_expect .identifier).bind (fun _ => reads_graphDecl true)
    fun _ _ _ => trivial
  have reads := Reads.choice nextKeyword? (· = some .strict)
    (fun trees => trees.1.1.keyword? = some .strict) (fun _ => True) strict
    (reads_graphDecl false) (fun spelled _ => spelled)
    (fun {parts _} _ _ => by
      change ¬ parts.1.2.1.keyword? = some .strict
      rw [parts.1.2.2]
      cases parts.1.1 <;> decide)
    (fun spelled => spelled) (fun _ => trivial)
  apply reads.relabel
    (fun tree => tree.strict.elim (.inr ⟨partsOfDecl tree, trivial⟩) fun mark =>
      .inl ⟨(⟨mark.1, Token.kind_of_keyword? mark.2⟩, partsOfDecl tree), mark.2⟩)
    (Sum.elim (fun trees => declOfParts (some ⟨trees.1.1.1, trees.2⟩) trees.1.2)
      fun parts => declOfParts none parts.1)
  case right => rintro (_ | _) <;> rfl
  all_goals
    rintro ⟨_ | _, _⟩ <;> rfl

theorem nextKind_decl (tree : DeclTree) (rest : List Token) :
    nextKind (tree.tokens ++ rest) = .identifier := by
  obtain ⟨_ | mark, kind, keyword, name, opening, body, closing⟩ := tree
  · exact Token.kind_of_keyword? keyword.2
  · exact Token.kind_of_keyword? mark.2

theorem reads_declarations :
    Reads declarations (fun trees : List DeclTree => trees.flatMap DeclTree.tokens)
      (fun trees => trees.map DeclTree.decl) (· = .endOfInput) := by
  have reads := reads_declaration.repeatWhile (· != .endOfInput) takes_declaration
    (fun tree rest => by rw [nextKind_decl]; rfl) fun _ _ => trivial
  exact reads.mono fun kind ends => ⟨trivial, by rw [ends]; rfl⟩

theorem run_declarations_of_more {input : List Token} (more : nextKind input ≠ .endOfInput) :
    declarations.run input = (declaration >>= fun decl => declarations >>= fun decls =>
      pure (decl :: decls)).run input := by
  unfold declarations
  rw [repeatWhile_eq, run_inspect_bind, if_pos (bne_iff_ne.mpr more), ← repeatWhile_eq]

/-- Declarations are read one by one: what comes after some does not change what they are. -/
theorem run_declarations_append (trees : List DeclTree) (rest : List Token) :
    declarations.run (trees.flatMap DeclTree.tokens ++ rest) =
      (declarations.run rest).map fun result =>
        (trees.map DeclTree.decl ++ result.1, result.2) := by
  induction trees with
  | nil =>
    change declarations.run rest = (declarations.run rest).map id
    cases declarations.run rest <;> rfl
  | cons tree trees ih =>
    have more : nextKind (tree.tokens ++ (trees.flatMap DeclTree.tokens ++ rest)) ≠
        .endOfInput := by
      rw [nextKind_decl]
      decide
    rw [List.flatMap_cons, List.append_assoc, run_declarations_of_more more,
      run_bind_of_ok (reads_declaration.complete tree trivial), run_bind, ih]
    cases declarations.run rest <;> rfl

theorem nextKind_of_run_declarations {input rest : List Token} {decls : List GraphDecl}
    (found : declarations.run input = .ok (decls, rest)) : nextKind rest = .endOfInput := by
  simpa using stops_of_run_repeatWhile found

end Reader

/-- The tokens of declarations end with a closing brace. -/
theorem DeclTree.flatMap_tokens_eq (trees : List DeclTree) :
    trees.flatMap tokens = [] ∨
      ∃ (front : List Token) (closing : Mark .rightBrace),
        trees.flatMap tokens = front ++ [closing.1] := by
  rcases List.eq_nil_or_concat trees with rfl | ⟨others, last, rfl⟩
  · exact .inl rfl
  · refine .inr ⟨others.flatMap tokens ++ ((last.strict.map Subtype.val).toList ++
      last.keyword.1 :: (optionalTokens last.name ++ last.opening.1 :: last.body.tokens)),
      last.closing, ?_⟩
    simp [tokens]

/-- The end of input is no part of a declaration. -/
theorem eq_flatMap_tokens {front rest : List Token} {offset : Nat} {trees : List DeclTree}
    (inside : ∀ token ∈ front, token.kind ≠ .endOfInput) (ends : Reader.nextKind rest = .endOfInput)
    (split : front ++ [Token.endOfInput offset] = trees.flatMap DeclTree.tokens ++ rest) :
    trees.flatMap DeclTree.tokens = front := by
  rcases List.append_eq_append_iff.mp split with ⟨more, taken, last⟩ | ⟨more, taken, last⟩
  · -- the declarations reach beyond the front, so they hold the end of input
    cases more with
    | nil => rw [taken, List.append_nil]
    | cons token more =>
      obtain ⟨rfl, rests⟩ := List.cons.inj last
      obtain ⟨rfl, rfl⟩ := List.nil_eq_append_iff.mp rests
      rcases DeclTree.flatMap_tokens_eq trees with none | ⟨_, closing, some⟩
      · rw [none] at taken
        exact absurd taken (by simp)
      · rw [some] at taken
        have same := List.append_inj_right' taken rfl
        cases (List.cons.inj same).1 ▸ closing.2
  · cases more with
    | nil => rw [taken, List.append_nil]
    | cons token more =>
      subst last
      exact absurd ends (inside token (by rw [taken]; simp))

namespace GraphDecl

theorem parse_of_tokenize {source : String} {tokens : List Token}
    (cut : Token.tokenize source = .ok tokens) {decls : List GraphDecl} :
    parse source = .ok decls ↔ ∃ rest, Reader.declarations.run tokens = .ok (decls, rest) := by
  unfold parse
  rw [cut]
  dsimp only
  cases Reader.declarations.run tokens with
  | error rejection => simp
  | ok result => simp [Prod.ext_iff]

theorem parse_eq_ok_iff {source : String} {decls : List GraphDecl} :
    parse source = .ok decls ↔
      (scan true source.toList).failure? = none ∧ Derives (frontTokens source) decls := by
  cases cut : Token.tokenize source with
  | error error =>
    have failed : (scan true source.toList).failure? ≠ none := by
      intro whole
      rw [Token.tokenize_of_none whole] at cut
      cases cut
    unfold parse
    rw [cut]
    simp [failed]
  | ok tokens =>
    obtain ⟨whole, rfl⟩ := Token.tokenize_eq_ok_iff.mp cut
    rw [parse_of_tokenize cut, and_iff_right whole]
    constructor
    · rintro ⟨rest, found⟩
      obtain ⟨trees, parts, means⟩ := Reader.reads_declarations.sound found
      exact ⟨trees, eq_flatMap_tokens (fun _ => kind_ne_endOfInput_of_mem)
        (Reader.nextKind_of_run_declarations found) parts, means⟩
    · rintro ⟨trees, derived, rfl⟩
      rw [← derived]
      exact ⟨_, Reader.reads_declarations.complete trees rfl⟩

/-- A text is read if and only if the grammar derives its tokens before the end of input, as the
declarations that these derive; and no tokens are derived in two ways. -/
theorem parse_iff_derives {source : String} {tokens : List Token}
    (cut : Token.tokenize source = .ok tokens) :
    ∃ front, tokens = front ++ [Token.endOfInput source.length] ∧
      (∀ decls, parse source = .ok decls ↔ Derives front decls) ∧
      ∀ trees others : List DeclTree,
        trees.flatMap DeclTree.tokens = others.flatMap DeclTree.tokens → trees = others := by
  obtain ⟨whole, split⟩ := Token.tokenize_eq_ok_iff.mp cut
  refine ⟨frontTokens source, split, fun decls => ?_, fun trees others same => ?_⟩
  · rw [parse_eq_ok_iff, and_iff_right whole]
  · have ended : Reader.nextKind [] = .endOfInput := rfl
    exact (Reader.reads_declarations.unique trees others ended ended
      (congrArg (· ++ []) same)).1

/-- A chain in a graph without a name, whose statements may stand without semicolons. -/
theorem parse_iff_derives_chain :
    Token.tokenize "graph\x7ba--b\x7d" = .ok
      [⟨.identifier, "graph", 0⟩, ⟨.leftBrace, "\x7b", 5⟩, ⟨.identifier, "a", 6⟩, ⟨.line, "--", 7⟩,
        ⟨.identifier, "b", 9⟩, ⟨.rightBrace, "\x7d", 10⟩, ⟨.endOfInput, "", 11⟩] ∧
      parse "graph\x7ba--b\x7d" =
        .ok [⟨.graph, false, none, [.edge [⟨"a", none⟩, ⟨"b", none⟩] []]⟩] := by
  have cut : Token.tokenize "graph\x7ba--b\x7d" = .ok
      [⟨.identifier, "graph", 0⟩, ⟨.leftBrace, "\x7b", 5⟩, ⟨.identifier, "a", 6⟩, ⟨.line, "--", 7⟩,
        ⟨.identifier, "b", 9⟩, ⟨.rightBrace, "\x7d", 10⟩, ⟨.endOfInput, "", 11⟩] := by
    cbv
  refine ⟨cut, ?_⟩
  obtain ⟨front, split, reads, -⟩ := parse_iff_derives cut
  have before := congrArg List.dropLast split
  rw [List.dropLast_concat] at before
  subst before
  exact (reads _).mpr
    ⟨[⟨none, .graph, ⟨⟨.identifier, "graph", 0⟩, by decide⟩, none, ⟨⟨.leftBrace, "\x7b", 5⟩, rfl⟩,
      .cons (.simple (.named (.edge
        ⟨⟨⟨⟨.identifier, "a", 6⟩, rfl⟩, [], .inr rfl⟩, none⟩
        ⟨⟨⟨.line, "--", 7⟩, rfl⟩, ⟨⟨⟨⟨.identifier, "b", 9⟩, rfl⟩, [], .inr rfl⟩, none⟩, by decide⟩
        [] []) (NameTree.free_of_none (by decide)))) none .nil,
      ⟨⟨.rightBrace, "\x7d", 10⟩, rfl⟩⟩], rfl, rfl⟩

end GraphDecl

end DotGraph
