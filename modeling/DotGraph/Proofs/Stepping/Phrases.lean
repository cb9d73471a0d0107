import DotGraph.GraphDecl.OfTokens

/-!
# Phrases and their moves

Tokens can be read in steps that look at one of them each. What is left to read is then a list of
phrases. The token that is looked at rejects the first phrase, or it tells what other phrases the
phrase consists of, and it is taken or it stays (`Phrase.move`). No phrase takes the end of input.
-/

namespace DotGraph.Reader

/-- What can be left to read. A mark is a token of one kind, and a separator is a token that may be
left out; neither is the end of input. -/
inductive Phrase
  | declarations
  | declaration
  /-- A declaration from its keyword on. -/
  | graphKeyword
  | optionalName
  | statements
  | statement
  | subgraph
  /-- The place after a subgraph, where no edge may begin. -/
  | noLink
  /-- What follows the name that a statement begins with. -/
  | nameEnd
  /-- No more than so many port parts. -/
  | ports (most : Nat)
  | links
  /-- A link from its edge operator on. -/
  | linkEnd
  | attrLists
  | pairs
  | name
  | joinedStrings
  /-- A joined string from its plus sign on. -/
  | stringEnd
  | mark (kind : TokenKind) (visible : kind ≠ .endOfInput)
  | separator (unwanted : TokenKind → Bool) (visible : unwanted .endOfInput = false)

/-- What a token makes of a phrase: it rejects the phrase, or other phrases take its place, which
are read from the same token or from the next one on. -/
inductive Move
  | reject (reason : Reason)
  | stay (phrases : List Phrase)
  | take (phrases : List Phrase)

namespace Phrase

abbrev leftBrace : Phrase := .mark .leftBrace (by decide)

abbrev rightBrace : Phrase := .mark .rightBrace (by decide)

abbrev leftBracket : Phrase := .mark .leftBracket (by decide)

abbrev rightBracket : Phrase := .mark .rightBracket (by decide)

abbrev equals : Phrase := .mark .equals (by decide)

abbrev semicolon : Phrase := .separator (· == .semicolon) rfl

abbrev pairSeparator : Phrase := .separator (fun kind => kind == .comma || kind == .semicolon) rfl

def braced : List Phrase := [leftBrace, .statements, rightBrace]

def opensSubgraph (token : Token) : Bool :=
  token.kind == .leftBrace || token.keyword? == some .subgraph

def move (token : Token) : Phrase → Move
  | .declarations =>
    if token.kind = .endOfInput then .stay [] else .stay [.declaration, .declarations]
  | .declaration =>
    if token.keyword? = some .strict then .take [.graphKeyword] else .stay [.graphKeyword]
  | .graphKeyword =>
    if (token.keyword?.bind graphKind?).isSome then .take (.optionalName :: braced)
    else .reject .expectedGraph
  | .optionalName => if token.kind.isId then .stay [.name] else .stay []
  | .statements =>
    if isBodyEnd token.kind then .stay [] else .stay [.statement, semicolon, .statements]
  | .statement =>
    if opensSubgraph token then .stay [.subgraph, .noLink]
    else if token.kind.isId then
      if (token.keyword?.bind attrTarget?).isSome then
        .take [leftBracket, .pairs, rightBracket, .attrLists]
      else .stay [.name, .nameEnd]
    else .reject .expectedStatement
  | .subgraph =>
    if token.keyword? = some .subgraph then .take (.optionalName :: braced) else .stay braced
  | .noLink => if token.kind.isEdgeOperator then .reject .subgraphEndpoint else .stay []
  | .nameEnd =>
    if token.kind = .equals then .take [.name] else .stay [.ports 2, .links, .attrLists]
  | .ports 0 => .stay []
  | .ports (most + 1) => if token.kind = .colon then .take [.name, .ports most] else .stay []
  | .links => if token.kind.isEdgeOperator then .take [.linkEnd, .links] else .stay []
  | .linkEnd =>
    if opensSubgraph token then .reject .subgraphEndpoint else .stay [.name, .ports 2]
  | .attrLists =>
    if token.kind = .leftBracket then .take [.pairs, rightBracket, .attrLists] else .stay []
  | .pairs =>
    if token.kind = .rightBracket then .stay []
    else .stay [.name, equals, .name, pairSeparator, .pairs]
  | .name =>
    if token.kind.isId then .take (if token.kind = .string then [.joinedStrings] else [])
    else .reject .expectedIdentifier
  | .joinedStrings => if token.kind = .plus then .take [.stringEnd, .joinedStrings] else .stay []
  | .stringEnd => if token.kind = .string then .take [] else .reject .expectedString
  | .mark kind _ => if token.kind = kind then .take [] else .reject (.expected kind)
  | .separator unwanted _ => if unwanted token.kind then .take [] else .stay []

theorem kind_ne_endOfInput_of_take {phrase : Phrase} {token : Token} {more : List Phrase}
    (takes : phrase.move token = .take more) : token.kind ≠ .endOfInput := by
  intro ends
  have bare : token.keyword? = none := by simp [Token.keyword?, ends]
  cases phrase with
  | mark kind visible => simp [move, ends, visible.symm] at takes
  | separator unwanted visible => simp [move, ends, visible] at takes
  | ports most => cases most <;> simp [move, ends] at takes
  | _ => simp [move, ends, bare, opensSubgraph, isBodyEnd, TokenKind.isId,
      TokenKind.isEdgeOperator] at takes

/-! ### Moves that take nothing -/

/-- Whether a phrase may be over without a token. -/
def mayBeEmpty : Phrase → Bool
  | .declarations | .optionalName | .statements | .noLink | .nameEnd | .ports _ | .links
  | .attrLists | .pairs | .joinedStrings | .separator .. => true
  | _ => false

/-- How many moves can be made on a phrase before it takes a token or is over. -/
def delay : Phrase → Nat
  | .graphKeyword | .name | .stringEnd | .mark .. => 0
  | .declarations | .statement => 2
  | .statements => 3
  | .nameEnd => 4
  | _ => 1

/-- How many moves can be made on phrases before a token is taken. -/
def delayAll : List Phrase → Nat
  | [] => 0
  | phrase :: phrases => phrase.delay + if phrase.mayBeEmpty then delayAll phrases else 0

theorem delayAll_append (first second : List Phrase) :
    delayAll (first ++ second) =
      delayAll first + if first.all mayBeEmpty then delayAll second else 0 := by
  induction first with
  | nil => simp [delayAll]
  | cons phrase phrases ih =>
    cases empty : phrase.mayBeEmpty with
    | true => simp [delayAll, ih, empty, Nat.add_assoc]
    | false => simp [delayAll, empty]

variable {phrase : Phrase} {token : Token} {more : List Phrase}

theorem delayAll_lt_delay (stays : phrase.move token = .stay more) :
    delayAll more < phrase.delay := by
  cases phrase with
  | ports most =>
    cases most with
    | zero =>
      cases stays
      exact Nat.one_pos
    | succ most =>
      simp only [move] at stays
      split at stays <;> cases stays
      exact Nat.one_pos
  | separator unwanted visible =>
    simp only [move] at stays
    split at stays <;> cases stays
    exact Nat.one_pos
  | statement =>
    simp only [move] at stays
    repeat' split at stays
    all_goals cases stays
    all_goals decide
  | _ =>
    simp only [move] at stays
    split at stays <;> cases stays <;> decide

theorem mayBeEmpty_of_stay (stays : phrase.move token = .stay more)
    (empty : more.all mayBeEmpty = true) : phrase.mayBeEmpty = true := by
  cases phrase with
  | statement =>
    simp only [move] at stays
    repeat' split at stays
    all_goals cases stays
    all_goals cases empty
  | declaration | subgraph | linkEnd | graphKeyword | name | stringEnd | mark =>
    simp only [move] at stays
    split at stays <;> cases stays <;> cases empty
  | _ => rfl

/-- A move that takes nothing leaves fewer moves before a token is taken. -/
theorem delayAll_lt_of_stay (stays : phrase.move token = .stay more) (phrases : List Phrase) :
    delayAll (more ++ phrases) < delayAll (phrase :: phrases) := by
  have less := delayAll_lt_delay stays
  rw [delayAll_append, delayAll]
  cases empty : more.all mayBeEmpty with
  | true =>
    rw [if_pos rfl, mayBeEmpty_of_stay stays empty, if_pos rfl]
    exact Nat.add_lt_add_right less _
  | false =>
    rw [if_neg (by decide), Nat.add_zero]
    exact Nat.lt_of_lt_of_le less (Nat.le_add_right _ _)

end Phrase

end DotGraph.Reader
