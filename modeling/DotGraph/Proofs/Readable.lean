import DotGraph.Proofs.Composition
import DotGraph.Proofs.Grammar.PromptReaders

/-!
# What is read off a text

What is read off a text are graphs whose bodies hold statements only. To resolve them cannot fail,
so that a text that is not understood has a syntax error (`Graph.parse_fails_iff`).
-/

namespace DotGraph

/-- Whether a mention has no port, or one that is not empty. -/
def NodeRef.hasProperPort (ref : NodeRef) : Bool := ref.port != some ""

mutual

/-- A statement of a body, down to its innermost ones: no graph and no other value, with edges
between two nodes at least. -/
def Statement.isReadable : Statement → Bool
  | .subgraph _ children => Statement.areReadable children
  | .node ref _ => ref.hasProperPort
  | .edge chain _ => decide (2 ≤ chain.length) && chain.all NodeRef.hasProperPort
  | .attr .. => true
  | .graph .. | .foreign _ => false

def Statement.areReadable : List Statement → Bool
  | [] => true
  | statement :: statements => statement.isReadable && Statement.areReadable statements

end

/-! ### What trees mean -/

theorem PortTree.text?_ne_empty (port : PortTree) : port.text? ≠ some "" := by
  unfold text?
  dsimp only
  split
  · nofun
  · rename_i filled
    simpa using filled

theorem RefTree.hasProperPort_value (ref : RefTree) : ref.value.hasProperPort = true :=
  bne_iff_ne.mpr ref.port.text?_ne_empty

theorem NamedTree.isReadable_statement (tree : NamedTree) : tree.statement.isReadable = true := by
  cases tree with
  | assignment => rfl
  | node ref lists => exact ref.hasProperPort_value
  | edge source link links lists =>
    simp [statement, Statement.isReadable, LinkTree.value, RefTree.hasProperPort_value]

theorem SimpleTree.isReadable_statement (tree : SimpleTree) : tree.statement.isReadable = true := by
  cases tree with
  | defaults => rfl
  | named tree => exact tree.isReadable_statement

mutual

theorem StatementTree.isReadable_statement : ∀ tree : StatementTree,
    tree.statement.isReadable = true
  | .simple tree => tree.isReadable_statement
  | .subgraph _ _ body _ => body.areReadable_statements

theorem BodyTree.areReadable_statements : ∀ body : BodyTree,
    Statement.areReadable body.statements = true
  | .nil => rfl
  | .cons statement _ rest => by
    rw [BodyTree.statements, Statement.areReadable, statement.isReadable_statement,
      rest.areReadable_statements]
    rfl

end

namespace GraphDecl

theorem areReadable_of_parse {source : String} {decls : List GraphDecl}
    (read : parse source = .ok decls) (decl : GraphDecl) (member : decl ∈ decls) :
    Statement.areReadable decl.children = true := by
  obtain ⟨-, trees, -, rfl⟩ := parse_eq_ok_iff.mp read
  obtain ⟨tree, -, rfl⟩ := List.mem_map.mp member
  exact tree.body.areReadable_statements

/-- The end of input is never taken, so that there is always a next token to look at. -/
theorem endOfInput_mem_remainder {source : String} {tokens : List Token}
    (cut : Token.tokenize source = .ok tokens) :
    Token.endOfInput source.length ∈ Reader.remainder (Reader.declarations.run tokens) := by
  obtain ⟨-, ends⟩ := Token.tokenize_eq_ok_iff.mp cut
  obtain ⟨used, taken⟩ := Reader.prompt_declarations tokens
  have here : Token.endOfInput source.length ∈ tokens := by
    rw [ends]
    simp
  rw [taken.split] at here
  obtain inside | left := List.mem_append.mp here
  · exact absurd rfl (taken.inside _ inside)
  · exact left

end GraphDecl

namespace Graph

/-- What a text is read as are graphs with statements in their bodies. A text fails to be understood
only by the syntax error that keeps it from being read, which is found before the tokens are at an
end; else there is one graph for each that is read. -/
theorem parse_fails_iff (source : String) :
    (∀ decls, GraphDecl.parse source = .ok decls →
      ∀ statement ∈ decls.map GraphDecl.toStatement, ∃ (kind : GraphKind) (strict : Bool)
        (id : Option String) (children : List Statement),
        statement = .graph kind.tag strict id children ∧ Statement.areReadable children = true) ∧
    (∀ tokens, Token.tokenize source = .ok tokens →
      Token.endOfInput source.length ∈ Reader.remainder (Reader.declarations.run tokens)) ∧
    (∀ error, (parse source).outcome = .error error ↔
      ∃ syntaxError, GraphDecl.parse source = .error syntaxError ∧
        error = .unreadable syntaxError) ∧
    ∀ decls, GraphDecl.parse source = .ok decls → ∃ graphs, (parse source).outcome = .ok graphs ∧
      graphs.map (fun graph => (graph.kind, graph.strict, graph.id)) =
        decls.map fun decl => (decl.kind, decl.strict, decl.id) := by
  refine ⟨?_, fun tokens cut => GraphDecl.endOfInput_mem_remainder cut, fun error => ?_, ?_⟩
  · intro decls read statement member
    obtain ⟨decl, listed, rfl⟩ := List.mem_map.mp member
    exact ⟨decl.kind, decl.strict, decl.id, decl.children, rfl,
      GraphDecl.areReadable_of_parse read decl listed⟩
  · rw [outcome_parse]
    cases GraphDecl.parse source with
    | error syntaxError => simp [eq_comm]
    | ok decls => simp
  · intro decls read
    refine ⟨decls.map ofDecl, by rw [outcome_parse, read], ?_⟩
    rw [List.map_map]
    rfl

/-- An edge in a subgraph, at an empty port; and a brace where a graph is to begin. -/
theorem parse_fails_iff_brace :
    let source := "graph\x7b\x7ba:\"\"--b\x7d\x7d"
    let decls : List GraphDecl :=
      [⟨.graph, false, none, [.subgraph none [.edge [⟨"a", none⟩, ⟨"b", none⟩] []]]⟩]
    let brace : SyntaxError := ⟨.expectedGraph, 0, ⟨1, 1⟩⟩
    (GraphDecl.parse source = .ok decls ∧
      (∀ statement ∈ decls.map GraphDecl.toStatement, ∃ (kind : GraphKind) (strict : Bool)
        (id : Option String) (children : List Statement),
        statement = .graph kind.tag strict id children ∧ Statement.areReadable children = true) ∧
      ∃ graphs, (parse source).outcome = .ok graphs ∧
        graphs.map (fun graph => (graph.kind, graph.strict, graph.id)) = [(.graph, false, none)]) ∧
    (∃ tokens, Token.tokenize "\x7d" = .ok tokens ∧
      Token.endOfInput 1 ∈ Reader.remainder (Reader.declarations.run tokens)) ∧
    GraphDecl.parse "\x7d" = .error brace ∧
      (parse "\x7d").outcome = .error (.unreadable brace) := by
  intro source decls brace
  have closing : Token.tokenize "\x7d" = .ok [⟨.rightBrace, "\x7d", 0⟩, ⟨.endOfInput, "", 1⟩] := by
    cbv
  have cut : Token.tokenize "graph\x7b\x7ba:\"\"--b\x7d\x7d" = .ok
      [⟨.identifier, "graph", 0⟩, ⟨.leftBrace, "\x7b", 5⟩, ⟨.leftBrace, "\x7b", 6⟩,
        ⟨.identifier, "a", 7⟩, ⟨.colon, ":", 8⟩, ⟨.string, "", 9⟩, ⟨.line, "--", 11⟩,
        ⟨.identifier, "b", 13⟩, ⟨.rightBrace, "\x7d", 14⟩, ⟨.rightBrace, "\x7d", 15⟩,
        ⟨.endOfInput, "", 16⟩] := by
    cbv
  have read : GraphDecl.parse source = .ok decls :=
    (GraphDecl.parse_of_tokenize cut).mpr ⟨[⟨.endOfInput, "", 16⟩],
      Reader.reads_declarations.complete
        [⟨none, .graph, ⟨⟨.identifier, "graph", 0⟩, by decide⟩, none,
          ⟨⟨.leftBrace, "\x7b", 5⟩, rfl⟩,
          .cons (.subgraph none ⟨⟨.leftBrace, "\x7b", 6⟩, rfl⟩
            (.cons (.simple (.named (.edge
              ⟨⟨⟨⟨.identifier, "a", 7⟩, rfl⟩, [], .inr rfl⟩,
                some ((⟨⟨.colon, ":", 8⟩, rfl⟩, ⟨⟨⟨.string, "", 9⟩, rfl⟩, [], .inr rfl⟩), none)⟩
              ⟨⟨⟨.line, "--", 11⟩, rfl⟩,
                ⟨⟨⟨⟨.identifier, "b", 13⟩, rfl⟩, [], .inr rfl⟩, none⟩, by decide⟩ [] [])
              (NameTree.free_of_none (by decide)))) none .nil)
            ⟨⟨.rightBrace, "\x7d", 14⟩, rfl⟩) none .nil, ⟨⟨.rightBrace, "\x7d", 15⟩, rfl⟩⟩] rfl⟩
  have fails : GraphDecl.parse "\x7d" = .error brace := by
    unfold GraphDecl.parse
    rw [closing]
    dsimp only
    rw [Reader.run_declarations_of_more (by decide)]
    rfl
  obtain ⟨readable, -, -, resolved⟩ := parse_fails_iff source
  obtain ⟨-, left, failing, -⟩ := parse_fails_iff "\x7d"
  exact ⟨⟨read, readable decls read, resolved decls read⟩, ⟨_, closing, left _ closing⟩, fails,
    (failing _).mpr ⟨brace, fails, rfl⟩⟩

end Graph

end DotGraph
