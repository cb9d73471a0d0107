import DotGraph.Proofs.Grammar.Reads
import DotGraph.Proofs.Stepping.Phrases

/-!
# Readers of phrases

For every phrase there is a reader, which is one of those that declarations are read by, or a part
of one. It reads what the move of the phrase leaves to be read (`Phrase.run_reader`), so phrases
and readers read alike.
-/

namespace DotGraph.Reader

variable {α β : Type}

/-- A reader without what it answers. -/
def forget (reader : Reader α) : Reader Unit := reader >>= fun _ => pure ()

theorem ite_bind {p : Prop} [Decidable p] (yes no : Reader α) (next : α → Reader β) :
    ((if p then yes else no) >>= next) = if p then yes >>= next else no >>= next := by
  split <;> rfl

theorem reject_bind (reason : Reason) (next : α → Reader β) :
    (reject reason >>= next) = reject reason := rfl

theorem forget_repeatWhile (goOn : TokenKind → Bool) (reader : Reader α) (takes : reader.Takes 1) :
    forget (repeatWhile goOn reader takes) = inspect nextKind >>= fun kind =>
      if goOn kind then reader >>= fun _ => forget (repeatWhile goOn reader takes)
      else pure () := by
  conv => lhs; rw [repeatWhile_eq]
  simp only [forget, bind_assoc, ite_bind, pure_bind]

def ports : Nat → Reader Unit
  | 0 => pure ()
  | most + 1 => do
    if (← inspect nextKind) = .colon then
      let _ ← portPart
      ports most

theorem forget_port : forget port = ports 2 := by
  simp only [port, ports, forget, bind_assoc, ite_bind, pure_bind]

theorem forget_attrLists : forget attrLists =
    forget (repeatWhile (· == .leftBracket) bracketed takes_bracketed) := by
  simp only [attrLists, forget, bind_assoc, pure_bind]

namespace Phrase

def reader : Phrase → Reader Unit
  | .declarations => forget Reader.declarations
  | .declaration => forget Reader.declaration
  | .graphKeyword => forget (graphDecl false)
  | .optionalName => do
    if (← inspect nextKind).isId then forget identifier
  | .statements => forget body
  | .statement => do
    if ← inspect startsSubgraph then
      let _ ← subgraphOpening
      let _ ← body
      expect .rightBrace
      if (← inspect nextKind).isEdgeOperator then reject .subgraphEndpoint
    else if (← inspect nextKind).isId then
      if ((← inspect nextKeyword?).bind attrTarget?).isSome then forget defaultsStatement
      else forget namedStatement
    else reject .expectedStatement
  | .subgraph => do
    let _ ← subgraphOpening
    let _ ← body
    expect .rightBrace
  | .noLink => do
    if (← inspect nextKind).isEdgeOperator then reject .subgraphEndpoint
  | .nameEnd => do
    if (← inspect nextKind) = .equals then
      expect .equals
      forget identifier
    else
      let _ ← port
      let _ ← Reader.links
      forget Reader.attrLists
  | .ports most => Reader.ports most
  | .links => forget Reader.links
  | .linkEnd => do
    if ← inspect startsSubgraph then reject .subgraphEndpoint else forget nodeRef
  | .attrLists => forget Reader.attrLists
  | .pairs => forget (repeatWhile (· != .rightBracket) attrPair takes_attrPair)
  | .name => forget identifier
  | .joinedStrings => forget (repeatWhile (· == .plus) joinedString takes_joinedString)
  | .stringEnd =>
    forget (accept (fun token => if token.kind = .string then some token.text else none)
      .expectedString)
  | .mark kind _ => expect kind
  | .separator unwanted _ => skip unwanted

/-- Phrases one after another. -/
def readAll : List Phrase → Reader Unit
  | [] => pure ()
  | phrase :: phrases => phrase.reader >>= fun _ => readAll phrases

end Phrase

open Phrase

/-- What is read after a move. -/
def Move.run (token : Token) (rest : List Token) : Move → Except Rejection (Unit × List Token)
  | .reject reason => .error ⟨reason, token :: rest⟩
  | .stay phrases => (readAll phrases).run (token :: rest)
  | .take phrases => (readAll phrases).run rest

theorem forget_body : forget body = inspect nextKind >>= fun kind =>
    if isBodyEnd kind then pure ()
    else Phrase.statement.reader >>= fun _ => skipSemicolon >>= fun _ => forget body := by
  conv => lhs; rw [body_eq]
  simp only [reader, forget, subgraphClosing, simpleStatement, bind_assoc, ite_bind, reject_bind,
    pure_bind]

variable {token : Token} {rest : List Token}

theorem run_accept_bind (wanted : Token → Option α) (reason : Reason) (next : α → Reader β) :
    (accept wanted reason >>= next).run (token :: rest) =
      match wanted token with
      | some value => (next value).run rest
      | none => .error ⟨reason, token :: rest⟩ := by
  rw [run_bind]
  simp only [accept]
  cases wanted token <;> rfl

theorem run_expect_bind (kind : TokenKind) (next : Unit → Reader α) :
    (expect kind >>= next).run (token :: rest) =
      if token.kind = kind then (next ()).run rest
      else .error ⟨.expected kind, token :: rest⟩ := by
  rw [expect, run_accept_bind]
  by_cases same : token.kind = kind
  · simp only [if_pos same]
  · simp only [if_neg same]

theorem run_inspect_kind (next : TokenKind → Reader α) :
    (inspect nextKind >>= next).run (token :: rest) = (next token.kind).run (token :: rest) := rfl

theorem run_inspect_keyword (next : Option Keyword → Reader α) :
    (inspect nextKeyword? >>= next).run (token :: rest) =
      (next token.keyword?).run (token :: rest) := rfl

theorem run_inspect_subgraph (next : Bool → Reader α) :
    (inspect startsSubgraph >>= next).run (token :: rest) =
      (next (opensSubgraph token)).run (token :: rest) := rfl

theorem run_forget_repeatWhile (goOn : TokenKind → Bool) (reader : Reader α)
    (takes : reader.Takes 1) :
    (forget (repeatWhile goOn reader takes)).run (token :: rest) =
      (if goOn token.kind then reader >>= fun _ => forget (repeatWhile goOn reader takes)
      else pure ()).run (token :: rest) := by
  conv => lhs; rw [forget_repeatWhile, run_inspect_kind]

namespace Phrase

theorem run_declarations : Phrase.declarations.reader.run (token :: rest) =
    (Phrase.declarations.move token).run token rest := by
  rw [reader, Reader.declarations, run_forget_repeatWhile]
  simp only [move, bne_iff_ne, ne_eq, ite_not]
  split
  · rfl
  · simp only [Move.run, readAll, reader, forget, bind_assoc, pure_bind]
    rfl

theorem run_declaration : Phrase.declaration.reader.run (token :: rest) =
    (Phrase.declaration.move token).run token rest := by
  simp only [reader, Reader.declaration, forget, bind_assoc, run_inspect_keyword, ite_bind, move]
  split
  · next spelled =>
    rw [run_expect_bind, if_pos (Token.kind_of_keyword? spelled)]
    simp only [Move.run, readAll, reader, forget, graphDecl, bind_assoc, pure_bind]
  · simp only [Move.run, readAll, reader, forget, bind_assoc, pure_bind]

theorem run_graphKeyword : Phrase.graphKeyword.reader.run (token :: rest) =
    (Phrase.graphKeyword.move token).run token rest := by
  simp only [reader, graphDecl, forget, bind_assoc, run_accept_bind, move]
  cases token.keyword?.bind graphKind? with
  | none => rfl
  | some kind =>
    simp only [Option.isSome_some, if_true, Move.run, readAll, braced, reader, bodyOpening, forget,
      bind_assoc, ite_bind, pure_bind]

theorem run_optionalName : Phrase.optionalName.reader.run (token :: rest) =
    (Phrase.optionalName.move token).run token rest := by
  simp only [reader, run_inspect_kind, move]
  split
  · simp only [Move.run, readAll, reader, bind_pure_unit]
  · rfl

theorem run_statements : Phrase.statements.reader.run (token :: rest) =
    (Phrase.statements.move token).run token rest := by
  rw [reader, forget_body, run_inspect_kind, move]
  split
  · rfl
  · simp only [Move.run, readAll, reader, forget, bind_assoc, pure_bind]
    rfl

theorem run_statement : Phrase.statement.reader.run (token :: rest) =
    (Phrase.statement.move token).run token rest := by
  simp only [reader, run_inspect_subgraph, move]
  split
  · simp only [Move.run, readAll, reader, bind_assoc, bind_pure_unit]
  · rw [run_inspect_kind]
    split
    · rw [run_inspect_keyword]
      split
      · next targets =>
        obtain ⟨target, found⟩ := Option.isSome_iff_exists.mp targets
        simp only [defaultsStatement, someAttrLists, bracketed, forget, bind_assoc, run_accept_bind,
          found, Move.run, readAll, reader, pure_bind]
      · simp only [namedStatement, Move.run, readAll, reader, forget, bind_assoc, ite_bind,
          pure_bind]
    · rfl

theorem run_subgraph : Phrase.subgraph.reader.run (token :: rest) =
    (Phrase.subgraph.move token).run token rest := by
  simp only [reader, subgraphOpening, bind_assoc, run_inspect_keyword, ite_bind, move]
  split
  · next spelled =>
    rw [run_expect_bind, if_pos (Token.kind_of_keyword? spelled)]
    simp only [Move.run, readAll, braced, reader, bodyOpening, forget, bind_assoc, ite_bind,
      pure_bind, bind_pure_unit]
  · simp only [Move.run, readAll, braced, reader, forget, bind_assoc, pure_bind, bind_pure_unit]

theorem run_noLink : Phrase.noLink.reader.run (token :: rest) =
    (Phrase.noLink.move token).run token rest := by
  simp only [reader, run_inspect_kind, move]
  split <;> rfl

theorem run_nameEnd : Phrase.nameEnd.reader.run (token :: rest) =
    (Phrase.nameEnd.move token).run token rest := by
  simp only [reader, run_inspect_kind, move]
  split
  · next equals =>
    rw [run_expect_bind, if_pos equals]
    simp only [Move.run, readAll, reader, bind_pure_unit]
  · simp only [Move.run, readAll, reader, ← forget_port, forget, bind_assoc, pure_bind]

theorem run_ports (most : Nat) : (Phrase.ports most).reader.run (token :: rest) =
    ((Phrase.ports most).move token).run token rest := by
  cases most with
  | zero => rfl
  | succ most =>
    simp only [reader, Reader.ports, run_inspect_kind, move]
    split
    · next colon =>
      rw [portPart, bind_assoc, run_expect_bind, if_pos colon]
      simp only [Move.run, readAll, reader, forget, bind_assoc, pure_bind, bind_pure_unit]
    · rfl

theorem run_links : Phrase.links.reader.run (token :: rest) =
    (Phrase.links.move token).run token rest := by
  rw [reader, Reader.links, run_forget_repeatWhile, move]
  split
  · next operator =>
    simp only [link, bind_assoc, run_accept_bind, operator, if_true, Move.run, readAll, reader,
      Reader.links, forget, ite_bind, reject_bind, pure_bind]
  · rfl

theorem run_linkEnd : Phrase.linkEnd.reader.run (token :: rest) =
    (Phrase.linkEnd.move token).run token rest := by
  simp only [reader, run_inspect_subgraph, move]
  split
  · rfl
  · simp only [Move.run, readAll, reader, ← forget_port, nodeRef, forget, bind_assoc, pure_bind]

theorem run_attrLists : Phrase.attrLists.reader.run (token :: rest) =
    (Phrase.attrLists.move token).run token rest := by
  rw [reader, forget_attrLists, run_forget_repeatWhile, move]
  simp only [beq_iff_eq]
  split
  · next bracket =>
    simp only [bracketed, bind_assoc, run_expect_bind, if_pos bracket, Move.run, readAll, reader,
      Reader.attrLists, forget, pure_bind]
  · rfl

theorem run_pairs : Phrase.pairs.reader.run (token :: rest) =
    (Phrase.pairs.move token).run token rest := by
  rw [reader, run_forget_repeatWhile]
  simp only [move, bne_iff_ne, ne_eq, ite_not]
  split
  · rfl
  · simp only [attrPair, Move.run, readAll, reader, forget, bind_assoc, pure_bind]

theorem run_name : Phrase.name.reader.run (token :: rest) =
    (Phrase.name.move token).run token rest := by
  simp only [reader, identifier, forget, bind_assoc, run_accept_bind, move]
  by_cases isId : token.kind.isId = true
  · simp only [if_pos isId, Move.run, ite_bind, bind_assoc, pure_bind]
    split
    · simp only [readAll, reader, forget, bind_assoc, pure_bind]
    · rfl
  · simp only [if_neg isId, Move.run]

theorem run_joinedStrings : Phrase.joinedStrings.reader.run (token :: rest) =
    (Phrase.joinedStrings.move token).run token rest := by
  rw [reader, run_forget_repeatWhile, move]
  simp only [beq_iff_eq]
  split
  · next plus =>
    simp only [joinedString, bind_assoc, run_expect_bind, if_pos plus, Move.run, readAll, reader,
      forget, pure_bind]
  · rfl

theorem run_stringEnd : Phrase.stringEnd.reader.run (token :: rest) =
    (Phrase.stringEnd.move token).run token rest := by
  simp only [reader, forget, run_accept_bind, move]
  by_cases string : token.kind = .string
  · simp only [if_pos string]
    rfl
  · simp only [if_neg string]
    rfl

theorem run_mark (kind : TokenKind) (visible : kind ≠ .endOfInput) :
    (Phrase.mark kind visible).reader.run (token :: rest) =
      ((Phrase.mark kind visible).move token).run token rest := by
  simp only [reader, expect, accept, move]
  by_cases same : token.kind = kind
  · simp only [if_pos same]
    rfl
  · simp only [if_neg same]
    rfl

theorem run_separator (unwanted : TokenKind → Bool) (visible : unwanted .endOfInput = false) :
    (Phrase.separator unwanted visible).reader.run (token :: rest) =
      ((Phrase.separator unwanted visible).move token).run token rest := by
  simp only [reader, skip, move]
  split <;> rfl

/-- A phrase is read by reading what its move leaves. -/
theorem run_reader (token : Token) (rest : List Token) : ∀ phrase : Phrase,
    phrase.reader.run (token :: rest) = (phrase.move token).run token rest
  | .declarations => run_declarations
  | .declaration => run_declaration
  | .graphKeyword => run_graphKeyword
  | .optionalName => run_optionalName
  | .statements => run_statements
  | .statement => run_statement
  | .subgraph => run_subgraph
  | .noLink => run_noLink
  | .nameEnd => run_nameEnd
  | .ports most => run_ports most
  | .links => run_links
  | .linkEnd => run_linkEnd
  | .attrLists => run_attrLists
  | .pairs => run_pairs
  | .name => run_name
  | .joinedStrings => run_joinedStrings
  | .stringEnd => run_stringEnd
  | .mark kind visible => run_mark kind visible
  | .separator unwanted visible => run_separator unwanted visible

end Phrase

end DotGraph.Reader
