import DotGraph.Graph.OfStatements
import DotGraph.Proofs.Grammar.Declarations
import DotGraph.Proofs.Newline
import DotGraph.Proofs.Relabel

/-!
# Texts one below another

A text that describes graphs has no effect on what a text below it describes, nor on what is wrong
with that text (`Graph.parse_append_newline`).
-/

namespace DotGraph

theorem Token.keeps_shift (distance : Nat) : Token.Keeps (Token.shift distance) :=
  fun _ => ⟨rfl, rfl⟩

theorem Rejection.toSyntaxError_append_newline (first second : String) (rejection : Rejection) :
    (rejection.map (Token.shift (first.length + 1))).toSyntaxError (first ++ "\n" ++ second) =
      (rejection.toSyntaxError second).below first := by
  unfold toSyntaxError map
  rw [← SyntaxError.ofOffset_append_newline, length_append_newline]
  cases rejection.rest <;> rfl

namespace GraphDecl

theorem parse_of_tokenize_error {source : String} {error : SyntaxError}
    (fails : Token.tokenize source = .error error) : parse source = .error error := by
  unfold parse
  rw [fails]

/-- The declarations of a text stand before those of the text below it, and its tokens before the
tokens of that text. -/
theorem parse_below {first : String} {decls : List GraphDecl} (readable : parse first = .ok decls)
    (second : String) :
    parse (first ++ "\n" ++ second) =
      match parse second with
      | .error error => .error (error.below first)
      | .ok others => .ok (decls ++ others) := by
  obtain ⟨whole, trees, derived, rfl⟩ := parse_eq_ok_iff.mp readable
  cases cut : Token.tokenize second with
  | error error =>
    rw [parse_of_tokenize_error cut,
      parse_of_tokenize_error (Token.tokenize_append_newline_error whole cut)]
  | ok tokens =>
    have later := Reader.blind_declarations (Token.keeps_shift (first.length + 1)) tokens
    unfold Reader.BlindOn at later
    unfold parse
    rw [cut, Token.tokenize_append_newline whole cut, ← derived]
    dsimp only
    rw [Reader.run_declarations_append, later]
    cases Reader.declarations.run tokens with
    | error rejection =>
      exact congrArg Except.error (Rejection.toSyntaxError_append_newline first second rejection)
    | ok result => rfl

end GraphDecl

namespace Graph

theorem outcome_ofStatement? (decl : GraphDecl) :
    (ofStatement? decl.toStatement).outcome = .ok (some (ofDecl decl)) := by
  obtain ⟨kind, strict, id, children⟩ := decl
  cases kind <;> rfl

theorem outcome_ofStatements (decls : List GraphDecl) :
    (ofStatements (decls.map GraphDecl.toStatement)).outcome = .ok (decls.map ofDecl) := by
  unfold ofStatements
  induction decls with
  | nil => rfl
  | cons decl decls ih =>
    rw [List.map_cons, List.map_cons, ofItems, ofItem?]
    have first := outcome_ofStatement? decl
    generalize ofStatement? decl.toStatement = graph at first
    generalize ofItems ((decls.map GraphDecl.toStatement).map .statement) = graphs at ih
    obtain ⟨records, outcome⟩ := graph
    obtain ⟨records', outcome'⟩ := graphs
    subst first ih
    rfl

/-- What the declarations of a text mean is always defined. -/
theorem outcome_parse (source : String) :
    (parse source).outcome =
      match GraphDecl.parse source with
      | .error error => .error (.unreadable error)
      | .ok decls => .ok (decls.map ofDecl) := by
  unfold parse GraphDecl.read
  cases GraphDecl.parse source with
  | error error => rfl
  | ok decls =>
    change Except.mapError _ (ofStatements (decls.map GraphDecl.toStatement)).outcome = _
    rw [outcome_ofStatements]
    rfl

theorem outcome_parse_eq_ok {source : String} {graphs : List Graph}
    (h : (parse source).outcome = .ok graphs) :
    ∃ decls, GraphDecl.parse source = .ok decls ∧ decls.map ofDecl = graphs := by
  rw [outcome_parse] at h
  cases found : GraphDecl.parse source with
  | error error => rw [found] at h; cases h
  | ok decls =>
    rw [found] at h
    exact ⟨decls, rfl, Except.ok.inj h⟩

/-- A text below one that describes graphs: its graphs, declarations and tokens come after those of
the text above, and its error is the same error further down. -/
theorem parse_append_newline {first : String} {graphs : List Graph}
    (readable : (parse first).outcome = .ok graphs) (second : String) :
    (∀ others, (parse second).outcome = .ok others →
      (parse (first ++ "\n" ++ second)).outcome = .ok (graphs ++ others)) ∧
    (∀ error, (parse second).outcome = .error (.unreadable error) →
      (parse (first ++ "\n" ++ second)).outcome = .error (.unreadable (error.below first))) ∧
    (∃ decls, GraphDecl.parse first = .ok decls ∧
      (∀ others, GraphDecl.parse second = .ok others →
        GraphDecl.parse (first ++ "\n" ++ second) = .ok (decls ++ others)) ∧
      ∀ error, GraphDecl.parse second = .error error →
        GraphDecl.parse (first ++ "\n" ++ second) = .error (error.below first)) ∧
    ∃ front, Token.tokenize first = .ok (front ++ [Token.endOfInput first.length]) ∧
      (∀ tokens, Token.tokenize second = .ok tokens →
        Token.tokenize (first ++ "\n" ++ second) =
          .ok (front ++ tokens.map (Token.shift (first.length + 1)))) ∧
      ∀ error, Token.tokenize second = .error error →
        Token.tokenize (first ++ "\n" ++ second) = .error (error.below first) := by
  obtain ⟨decls, read, rfl⟩ := outcome_parse_eq_ok readable
  have below := GraphDecl.parse_below read second
  obtain ⟨whole, -⟩ := GraphDecl.parse_eq_ok_iff.mp read
  refine ⟨fun others found => ?_, fun error failed => ?_, ⟨decls, read, fun others found => ?_,
    fun error failed => ?_⟩, frontTokens first, Token.tokenize_of_none whole,
    fun tokens cut => Token.tokenize_append_newline whole cut,
    fun error fails => Token.tokenize_append_newline_error whole fails⟩
  · obtain ⟨later, read', rfl⟩ := outcome_parse_eq_ok found
    rw [outcome_parse, below, read']
    exact congrArg Except.ok List.map_append
  · rw [outcome_parse] at failed ⊢
    rw [below]
    cases found : GraphDecl.parse second with
    | error other =>
      rw [found] at failed
      cases failed
      rfl
    | ok later => rw [found] at failed; cases failed
  · rw [below, found]
  · rw [below, failed]

/-- A brace too many below a graph. -/
theorem parse_append_newline_brace :
    (parse "graph\x7ba\x7d").outcome = .ok [⟨.graph, false, none, [.node ⟨"a", ∅⟩], [], ∅⟩] ∧
      (parse ("graph\x7ba\x7d" ++ "\n" ++ "\x7d")).outcome =
        .error (.unreadable ⟨.expectedGraph, 9, ⟨2, 1⟩⟩) := by
  have brace : Token.tokenize "\x7d" = .ok [⟨.rightBrace, "\x7d", 0⟩, ⟨.endOfInput, "", 1⟩] := by
    cbv
  have fails : GraphDecl.parse "\x7d" = .error ⟨.expectedGraph, 0, ⟨1, 1⟩⟩ := by
    unfold GraphDecl.parse
    rw [brace]
    dsimp only
    rw [Reader.run_declarations_of_more (by decide)]
    rfl
  have cut : Token.tokenize "graph\x7ba\x7d" = .ok
      [⟨.identifier, "graph", 0⟩, ⟨.leftBrace, "\x7b", 5⟩, ⟨.identifier, "a", 6⟩,
        ⟨.rightBrace, "\x7d", 7⟩, ⟨.endOfInput, "", 8⟩] := by
    cbv
  have read : GraphDecl.parse "graph\x7ba\x7d" =
      .ok [⟨.graph, false, none, [.node ⟨"a", none⟩ []]⟩] :=
    (GraphDecl.parse_of_tokenize cut).mpr ⟨[⟨.endOfInput, "", 8⟩],
      Reader.reads_declarations.complete
        [⟨none, .graph, ⟨⟨.identifier, "graph", 0⟩, by decide⟩, none,
          ⟨⟨.leftBrace, "\x7b", 5⟩, rfl⟩,
          .cons (.simple (.named (.node ⟨⟨⟨⟨.identifier, "a", 6⟩, rfl⟩, [], .inr rfl⟩, none⟩ [])
            (NameTree.free_of_none (by decide)))) none .nil, ⟨⟨.rightBrace, "\x7d", 7⟩, rfl⟩⟩] rfl⟩
  have readable : (parse "graph\x7ba\x7d").outcome =
      .ok [⟨.graph, false, none, [.node ⟨"a", ∅⟩], [], ∅⟩] := by
    rw [outcome_parse, read]
    rfl
  have fails' : (parse "\x7d").outcome = .error (.unreadable ⟨.expectedGraph, 0, ⟨1, 1⟩⟩) := by
    rw [outcome_parse, fails]
  exact ⟨readable, (parse_append_newline readable "\x7d").2.1 _ fails'⟩

end Graph

end DotGraph
