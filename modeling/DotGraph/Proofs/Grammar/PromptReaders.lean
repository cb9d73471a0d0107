import DotGraph.Proofs.Grammar.Prompt

/-!
# The readers are prompt

From names to declarations (`Reader.prompt_declarations`). Where a name is wanted a string can be
gone on with, a body can be ended wherever a statement may begin, and what may be left out is.
-/

namespace DotGraph.Reader

open Token (writable_punctuation)
open TokenKind (ne_of_class)

variable {start follow : TokenKind → Prop}

/-! ### Names and ports -/

theorem writable_empty : Token.Writable (.string, "") := Token.writable_string rfl

theorem ready_joinedString (begins : start .plus) : Ready start (fun _ => True) joinedString := by
  apply (ready_expect "+" (by decide) (writable_punctuation rfl rfl) begins).bind
  intro _
  exact ready_accept_if (fun _ quoted => by rw [quoted]; decide) writable_empty rfl trivial

theorem ready_joinedStrings : Ready (fun _ => True) (· ≠ .plus)
    (repeatWhile (· == .plus) joinedString takes_joinedString) :=
  (ready_joinedString rfl).prompt.repeatWhile _ _ (fun _ _ => trivial)
    (fun _ apart => beq_eq_false_iff_ne.mpr apart) fun _ _ => trivial

theorem ready_identifier (begins : start .string) : Ready start (· ≠ .plus) identifier := by
  apply (ready_accept_if (fun _ name => ne_of_class name rfl) writable_empty rfl begins).bind
  intro token
  apply Ready.ite
  · apply ready_joinedStrings.bind
    intro others
    exact ready_pure _ fun _ apart => apart
  · exact ready_pure _ fun _ _ => trivial

theorem ready_portPart (begins : start .colon) : Ready start (· ≠ .plus) portPart := by
  apply (ready_expect ":" (by decide) (writable_punctuation rfl rfl) begins).bind
  intro _
  exact ready_identifier trivial

/-- The kinds of token that do not go on a node. -/
def endsRef (kind : TokenKind) : Prop := kind ≠ .plus ∧ kind ≠ .colon

theorem ready_port (meets : ∀ kind, follow kind → endsRef kind)
    (same : ∀ kind, follow kind → start kind) : Ready start follow port := by
  apply Ready.otherwise seesFirst_nextKind
  · apply (ready_portPart rfl).prompt.bind
    intro first
    apply Ready.otherwise seesFirst_nextKind
    · apply (ready_portPart rfl).prompt.bind
      intro second
      exact ready_pure _ fun _ fits => (meets _ fits).1
    · exact ready_pure _ fun _ fits => fits
    · exact fun _ fits => (meets _ fits).2
    · exact fun _ fits => (meets _ fits).1
  · exact ready_pure none fun _ fits => fits
  · exact fun _ fits => (meets _ fits).2
  · exact same

theorem ready_nodeRef (begins : start .string) : Ready start endsRef nodeRef := by
  apply (ready_identifier begins).bind
  intro id
  apply (ready_port (fun _ ends => ends) fun _ ends => ends.1).bind
  intro port
  exact ready_pure _ fun _ ends => ends

/-! ### Chains and attribute lists -/

theorem not_startsSubgraph_of_string {tokens : List Token} (quoted : nextKind tokens = .string) :
    ¬ startsSubgraph tokens = true := by
  cases tokens with
  | nil => cases quoted
  | cons token rest =>
    have kind : token.kind = .string := quoted
    simp [startsSubgraph, nextKind, nextKeyword?, Token.keyword?, kind]

theorem ready_link (begins : start .arrow) : Ready start endsRef link := by
  apply (ready_accept_if (fun _ operator => ne_of_class operator rfl) Token.writable_arrow rfl
    begins).bind
  intro _
  apply Ready.otherwise seesFirst_startsSubgraph (prompt_reject .subgraphEndpoint)
    (@ready_nodeRef (· = .string) rfl)
  · intro tokens quoted
    exact not_startsSubgraph_of_string quoted
  · intro _ _
    trivial

theorem ready_links : Ready (·.endsStatement = true) (·.endsStatement = true) links :=
  (ready_link rfl).prompt.repeatWhile _ _
    (fun _ ends => ⟨ne_of_class ends rfl, ne_of_class ends rfl⟩)
    (fun _ ends => not_isEdgeOperator ends) fun _ ends => ends

/-- The kinds of token that neither go on a value nor separate it from the next key. -/
def endsPair (kind : TokenKind) : Prop := kind ≠ .plus ∧ kind ≠ .comma ∧ kind ≠ .semicolon

theorem ready_attrPair (begins : start .string) : Ready start endsPair attrPair := by
  apply (ready_identifier begins).bind
  intro key
  apply (ready_expect "=" (by decide) (writable_punctuation rfl rfl) (by decide)).bind
  intro _
  apply (ready_identifier trivial).bind
  intro value
  have separator : Ready (· ≠ .plus) endsPair
      (skip fun kind => kind == .comma || kind == .semicolon) :=
    ready_skip rfl fun kind ends => ⟨ends.1, by simp [ends.2]⟩
  apply separator.bind
  intro _
  exact ready_pure _ fun _ ends => ends

/-- The bracket completes a pair, and no more of them are read before it. -/
theorem ready_bracketed (begins : start .leftBracket) :
    Ready start (fun _ => True) bracketed := by
  apply (ready_expect "[" (by decide) (writable_punctuation rfl rfl) begins).bind
  intro _
  have pairs : Ready (fun _ => True) (· = .rightBracket)
      (repeatWhile (· != .rightBracket) attrPair takes_attrPair) := by
    apply (ready_attrPair rfl).prompt.repeatWhile
    · rintro _ rfl
      simp [endsPair]
    · rintro _ rfl
      rfl
    · exact fun _ _ => trivial
  apply pairs.bind
  intro pairs
  have closing : Ready (· = .rightBracket) (fun _ => True) (expect .rightBracket) :=
    ready_expect "]" (by decide) (writable_punctuation rfl rfl) rfl
  apply closing.bind
  intro _
  exact ready_pure _ fun _ _ => trivial

theorem ready_attrLists (same : ∀ kind : TokenKind, kind.endsStatement = true → start kind) :
    Ready start (·.endsStatement = true) attrLists := by
  have lists : Ready start (·.endsStatement = true)
      (repeatWhile (· == .leftBracket) bracketed takes_bracketed) := by
    apply (ready_bracketed rfl).prompt.repeatWhile
    · exact fun _ _ => trivial
    · exact fun _ ends => beq_eq_false_iff_ne.mpr (ne_of_class ends rfl)
    · exact same
  apply lists.bind
  intro lists
  exact ready_pure _ fun _ ends => ends

theorem ready_someAttrLists (begins : start .leftBracket) :
    Ready start (·.endsStatement = true) someAttrLists := by
  apply (ready_bracketed begins).bind
  intro first
  apply (ready_attrLists fun _ _ => trivial).bind
  intro others
  exact ready_pure _ fun _ ends => ends

/-! ### Statements -/

theorem prompt_defaultsStatement : Prompt (·.endsStatement = true) defaultsStatement := by
  apply (ready_keyword .graph rfl rfl).prompt.bind
  intro target
  apply (ready_someAttrLists trivial).bind
  intro attrs
  exact ready_pure _ fun _ ends => ends

/-- A name that no equals sign follows is a node. -/
theorem prompt_namedStatement : Prompt (·.endsStatement = true) namedStatement := by
  apply (ready_identifier rfl).prompt.bind
  intro name
  apply Ready.otherwise seesFirst_nextKind
  · apply (ready_expect "=" (by decide) (writable_punctuation rfl rfl) rfl).prompt.bind
    intro _
    apply (ready_identifier trivial).bind
    intro value
    exact ready_pure _ fun _ ends => ne_of_class ends rfl
  · have parts : Ready (·.endsStatement = true) (·.endsStatement = true) port :=
      ready_port (fun _ ends => ⟨ne_of_class ends rfl, ne_of_class ends rfl⟩) fun _ ends => ends
    apply parts.bind
    intro port
    apply ready_links.bind
    intro others
    apply (ready_attrLists fun _ ends => ends).bind
    intro attrs
    exact ready_pure _ fun _ ends => ends
  · exact fun _ ends => ne_of_class ends rfl
  · exact fun _ ends => ne_of_class ends rfl

/-- The kinds of token that may follow a statement and its semicolon. -/
def endsSimple (kind : TokenKind) : Prop := kind.endsStatement = true ∧ kind ≠ .semicolon

theorem ready_skipSemicolon (stops : ∀ kind, follow kind → start kind ∧ kind ≠ .semicolon) :
    Ready start follow skipSemicolon :=
  ready_skip rfl fun kind fits => ⟨(stops kind fits).1, beq_eq_false_iff_ne.mpr (stops kind fits).2⟩

theorem prompt_simpleStatement : Prompt endsSimple simpleStatement := by
  have terminated {reader : Reader Statement} (prompt : Prompt (·.endsStatement = true) reader) :
      Prompt endsSimple (do
        let statement ← reader
        skipSemicolon
        return statement) := by
    apply prompt.bind
    intro statement
    apply (ready_skipSemicolon fun _ ends => ends).bind
    intro _
    exact ready_pure _ fun _ ends => ends
  apply prompt_inspect seesFirst_nextKind
  intro kind
  apply Prompt.ite
  · apply prompt_inspect seesFirst_nextKeyword?
    intro keyword
    split
    · exact terminated prompt_defaultsStatement
    · exact terminated prompt_namedStatement
  · exact prompt_reject .expectedStatement

/-! ### What opens and closes a body -/

theorem ready_leftBrace (begins : start .leftBrace) :
    Ready start (fun _ => True) (expect .leftBrace) :=
  ready_expect "\x7b" (by decide) (writable_punctuation rfl rfl) begins

theorem ready_rightBrace (begins : start .rightBrace) :
    Ready start (fun _ => True) (expect .rightBrace) :=
  ready_expect "\x7d" (by decide) (writable_punctuation rfl rfl) begins

theorem ready_keywordMark (keyword : Keyword) (begins : start .identifier) :
    Ready start (fun _ => True) (expect .identifier) :=
  ready_expect keyword.name (by decide) (Token.writable_keyword keyword) begins

theorem ready_bodyOpening (begins : start .leftBrace) :
    Ready start (fun _ => True) bodyOpening := by
  apply Ready.otherwise seesFirst_nextKind
  · apply (ready_identifier rfl).prompt.bind
    intro id
    have brace : Ready (· ≠ .plus) (fun _ => True) (expect .leftBrace) :=
      ready_leftBrace (by decide)
    apply brace.bind
    intro _
    exact ready_pure _ fun _ _ => trivial
  · apply (@ready_leftBrace (· = .leftBrace) rfl).bind
    intro _
    exact ready_pure _ fun _ _ => trivial
  · intro tokens brace
    rw [brace]
    decide
  · rintro _ rfl
    exact begins

theorem prompt_subgraphOpening : Prompt (fun _ => True) subgraphOpening := by
  apply prompt_inspect seesFirst_nextKeyword?
  intro keyword
  apply Prompt.ite
  · apply (ready_keywordMark .subgraph rfl).prompt.bind
    intro _
    exact ready_bodyOpening trivial
  · apply (ready_leftBrace rfl).prompt.bind
    intro _
    exact ready_pure _ fun _ _ => trivial

/-- The kinds of token that may follow a subgraph and its semicolon. -/
def endsSubgraph (kind : TokenKind) : Prop := kind.isEdgeOperator = false ∧ kind ≠ .semicolon

theorem ready_subgraphClosing (begins : start .rightBrace) :
    Ready start endsSubgraph subgraphClosing := by
  apply (ready_rightBrace begins).bind
  intro _
  have skipped : Ready endsSubgraph endsSubgraph skipSemicolon :=
    ready_skipSemicolon fun _ ends => ⟨ends, ends.2⟩
  apply Ready.otherwise seesFirst_nextKind (prompt_reject .subgraphEndpoint) skipped
  · exact fun _ ends => Bool.eq_false_iff.mp ends.1
  · exact fun _ _ => trivial

/-! ### Bodies and declarations -/

theorem completable_body (same : ∀ kind, isBodyEnd kind = true → start kind) :
    Completable [] body start (isBodyEnd · = true) :=
  completable_of_run [] same fun _ ends => run_body_of_end ends

theorem endsSimple_of_isBodyEnd {kind : TokenKind} (ends : isBodyEnd kind = true) :
    endsSimple kind := by
  cases kind with
  | rightBrace | endOfInput => exact ⟨rfl, by decide⟩
  | _ => cases ends

theorem endsSubgraph_of_isBodyEnd {kind : TokenKind} (ends : isBodyEnd kind = true) :
    endsSubgraph kind :=
  have simple := endsSimple_of_isBodyEnd ends
  ⟨not_isEdgeOperator simple.1, simple.2⟩

/-- The tokens within a subgraph, and those that follow it, are fewer than those of the body. -/
theorem promptOn_body (input : List Token) : PromptOn (isBodyEnd · = true) body input := by
  have finished (first : Statement) {start : TokenKind → Prop}
      (same : ∀ kind, isBodyEnd kind = true → start kind) : Completable [] (do
        let others ← body
        return first :: others) start (isBodyEnd · = true) :=
    (completable_body same).bind fun others => (ready_pure _ fun _ ends => ends).completable
  have closing : Ready (isBodyEnd · = true) endsSubgraph subgraphClosing :=
    ready_subgraphClosing rfl
  have closed (id : Option String) (children : List Statement) : Completable [] (do
      subgraphClosing
      let others ← body
      return Statement.subgraph id children :: others) (isBodyEnd · = true) (isBodyEnd · = true) :=
    closing.completable.bind fun _ => finished _ fun _ ends => endsSubgraph_of_isBodyEnd ends
  rw [body_eq]
  apply PromptOn.inspect seesFirst_nextKind
  split
  · exact prompt_pure [] input
  apply PromptOn.inspect seesFirst_startsSubgraph
  split
  · apply (prompt_subgraphOpening input).bind
    · intro id inside opened
      have := takes_subgraphOpening.length_le opened
      apply (promptOn_body inside).bind
      · intro children ending within
        have := takes_body.length_le within
        apply (closing.prompt ending).bind
        · intro _ after closes
          have := takes_subgraphClosing.length_le closes
          apply (promptOn_body after).bind
          · intro others rest _
            exact prompt_pure _ rest
          · intro others
            exact (ready_pure _ fun _ ends => ends).completable
        · intro _
          exact finished _ fun _ ends => endsSubgraph_of_isBodyEnd ends
      · intro children
        exact closed id children
    · intro id
      exact (completable_body fun _ _ => trivial).bind (closed id)
  · apply (prompt_simpleStatement input).bind
    · intro statement after found
      have := takes_simpleStatement.length_le found
      apply (promptOn_body after).bind
      · intro others rest _
        exact prompt_pure _ rest
      · intro others
        exact (ready_pure _ fun _ ends => ends).completable
    · intro statement
      exact finished statement fun _ ends => endsSimple_of_isBodyEnd ends
termination_by input.length

theorem ready_body (same : ∀ kind, isBodyEnd kind = true → start kind) :
    Ready start (isBodyEnd · = true) body :=
  ⟨promptOn_body, completable_body same⟩

theorem ready_graphDecl (strict : Bool) (begins : start .identifier) :
    Ready start (fun _ => True) (graphDecl strict) := by
  apply (ready_keyword .graph rfl begins).bind
  intro kind
  apply (ready_bodyOpening trivial).bind
  intro id
  apply (ready_body fun _ _ => trivial).bind
  intro children
  have brace : Ready (isBodyEnd · = true) (fun _ => True) (expect .rightBrace) :=
    ready_rightBrace rfl
  apply brace.bind
  intro _
  exact ready_pure _ fun _ _ => trivial

theorem prompt_declaration : Prompt (fun _ => True) declaration := by
  apply prompt_inspect seesFirst_nextKeyword?
  intro keyword
  apply Prompt.ite
  · apply (ready_keywordMark .strict rfl).prompt.bind
    intro _
    exact ready_graphDecl true trivial
  · exact (ready_graphDecl false rfl).prompt

theorem prompt_declarations : Prompt (· = .endOfInput) declarations := by
  apply promptOn_repeatWhile prompt_declaration
  · exact fun _ _ => trivial
  · rintro _ rfl
    rfl

end DotGraph.Reader
