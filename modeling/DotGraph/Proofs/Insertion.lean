import DotGraph.Proofs.Composition
import DotGraph.Proofs.Trivia

/-!
# Texts with trivia put in

Blanks and comments put into a text where one of its tokens begins or ends move the tokens behind
the place and change nothing else: the text is read as the same declarations and graphs, or it is
wrong for the same reason at the same token (`Graph.parse_insertAt`).
-/

namespace DotGraph

open Lexeme

/-- A text with another put in at an offset. -/
def insertAt (source : String) (place : Nat) (more : List Char) : String :=
  String.ofList (source.toList.take place ++ more ++ source.toList.drop place)

/-- Where an offset comes to be when so many characters are put in at a place. -/
def movedOffset (place distance offset : Nat) : Nat :=
  if offset < place then offset else offset + distance

namespace Token

def moved (place distance : Nat) (token : Token) : Token :=
  { token with offset := movedOffset place distance token.offset }

theorem keeps_moved (place distance : Nat) : Keeps (moved place distance) := fun _ => ⟨rfl, rfl⟩

/-- The lexeme of a token, which stands at its offset in the text. -/
structure Covers (source : String) (token : Token) (lexeme : List Char) : Prop where
  spelled : Spelled token.kind token.text lexeme
  inside : lexeme <+: source.toList.drop token.offset

end Token

/-- A place where one of the tokens of a text begins or ends. The end of input covers nothing, so it
is no such token. -/
def TokenEdge (source : String) (tokens : List Token) (place : Nat) : Prop :=
  ∃ token ∈ tokens, ∃ lexeme, token.Covers source lexeme ∧
    (place = token.offset ∨ place = token.offset + lexeme.length)

/-- The error for the same reason where its place comes to be in the longer text. -/
def SyntaxError.moved (source : String) (place distance : Nat) (error : SyntaxError) :
    SyntaxError :=
  .ofOffset source (movedOffset place distance error.offset) error.reason

def ParseError.moved (source : String) (place distance : Nat) : ParseError → ParseError
  | .unreadable error => .unreadable (error.moved source place distance)
  | .resolve error => .resolve error

/-! ### Places of tokens -/

theorem Lexeme.Spelled.eq_toList {kind : TokenKind} {value : String} {text : List Char}
    (spelled : Spelled kind value text) (other : kind ≠ .string) : text = value.toList := by
  cases spelled with
  | string => exact absurd rfl other
  | arrow | line => rfl
  | _ => exact String.toList_ofList.symm

theorem Lexeme.Spelled.kind_ne_endOfInput {kind : TokenKind} {value : String} {text : List Char}
    (spelled : Spelled kind value text) : kind ≠ .endOfInput := by
  cases spelled with
  | punctuation found => exact TokenKind.ofPunctuation?_ne_endOfInput found
  | _ => decide

/-- A token has one lexeme at a place. -/
theorem Lexeme.Spelled.eq_of_prefix {kind : TokenKind} {value : String}
    {first second text : List Char} (spelled : Spelled kind value first)
    (spelled' : Spelled kind value second) (inside : first <+: text) (inside' : second <+: text) :
    first = second := by
  by_cases string : kind = .string
  · subst string
    have closed {lexeme : List Char} (spelled : Spelled .string value lexeme)
        (inside : lexeme <+: text) : ∃ body, lexeme = '"' :: body ++ ['"'] ∧
          literalBody? text.tail = some body := by
      obtain ⟨after, rfl⟩ := inside
      cases spelled with
      | @string body _ literal =>
        refine ⟨body, rfl, ?_⟩
        have found := literal.literalBody?_eq after
        simpa using found
      | punctuation found => cases TokenKind.isId_of_ofPunctuation? found
    obtain ⟨body, rfl, found⟩ := closed spelled inside
    obtain ⟨body', rfl, found'⟩ := closed spelled' inside'
    cases found.symm.trans found'
    rfl
  · rw [spelled.eq_toList string, spelled'.eq_toList string]

/-- A place where a token begins or ends is one where a lexeme does among the segments. -/
theorem TokenEdge.exists_split {source : String} {tokens : List Token} {place : Nat}
    (cut : Token.tokenize source = .ok tokens) (edge : TokenEdge source tokens place) :
    ∃ front back : List Segment, scan true source.toList = ⟨front ++ back, none⟩ ∧
      place = Segment.width front ∧ ((∃ segment ∈ front.getLast?, segment.IsLexeme) ∨
        ∃ segment ∈ back.head?, segment.IsLexeme) := by
  obtain ⟨token, here, lexeme, covers, ends⟩ := edge
  obtain ⟨whole, -⟩ := Token.tokenize_eq_ok_iff.mp cut
  obtain ⟨earlier, text, later, split, offset⟩ := Segment.exists_split_of_mem_tokens
    (mem_frontTokens_of_mem cut here covers.spelled.kind_ne_endOfInput)
  rw [Nat.zero_add] at offset
  have tiles := tiles_scan whole
  have scanned : scan true source.toList = ⟨(scan true source.toList).segments, none⟩ := by
    rw [← whole]
  rw [split] at tiles scanned
  have inside : text <+: source.toList.drop token.offset := by
    rw [← tiles.whole, offset, width_eq, List.flatMap_append, List.drop_left, List.flatMap_cons]
    exact List.prefix_append _ _
  have spelled := tiles.spelled (List.mem_append_right earlier List.mem_cons_self)
  obtain rfl := covers.spelled.eq_of_prefix spelled covers.inside inside
  rcases ends with rfl | rfl
  · exact ⟨earlier, _, scanned, offset, .inr ⟨_, rfl, _, _, _, rfl⟩⟩
  · refine ⟨earlier ++ [.lexeme token.kind token.text lexeme], later, ?_, ?_,
      .inl ⟨_, List.getLast?_concat, _, _, _, rfl⟩⟩
    · rw [scanned, List.append_assoc, List.singleton_append]
    · rw [Segment.width_append, offset]
      rfl

/-! ### Tokens and errors of the longer text -/

namespace Segment

theorem tokens_moved_before {segments : List Segment} {place : Nat} (distance : Nat)
    (nonempty : ∀ segment ∈ segments, segment.text ≠ []) (before : width segments ≤ place) :
    (tokens 0 segments).map (Token.moved place distance) = tokens 0 segments := by
  suffices same : ∀ token ∈ tokens 0 segments, Token.moved place distance token = id token by
    rw [List.map_congr_left same, List.map_id]
  intro token inside
  obtain ⟨earlier, lexeme, later, rfl, offset⟩ := exists_split_of_mem_tokens inside
  have wide : 0 < lexeme.length :=
    List.length_pos_iff.mpr (nonempty _ (List.mem_append_right earlier List.mem_cons_self))
  have total := width_append earlier (.lexeme token.kind token.text lexeme :: later)
  rw [width, text_lexeme] at total
  unfold Token.moved movedOffset
  rw [if_pos (by omega)]
  rfl

theorem tokens_moved_after {place : Nat} (distance : Nat) (segments : List Segment) :
    (tokens place segments).map (Token.moved place distance) =
      tokens (place + distance) segments := by
  rw [tokens_add]
  apply List.map_congr_left
  intro token inside
  obtain ⟨earlier, lexeme, later, rfl, offset⟩ := exists_split_of_mem_tokens inside
  unfold Token.moved movedOffset
  rw [if_neg (by omega)]
  rfl

end Segment

theorem length_insertAt {source : String} {place : Nat} (more : List Char) :
    (insertAt source place more).length = source.length + more.length := by
  have split := congrArg List.length (List.take_append_drop place source.toList)
  rw [List.length_append, String.length_toList] at split
  rw [insertAt, String.length_ofList, List.length_append, List.length_append]
  omega

theorem Token.tokenize_insertAt {source : String} {tokens : List Token} {place : Nat}
    {more : List Char} (cut : tokenize source = .ok tokens) (edge : TokenEdge source tokens place)
    (trivia : Trivia more) :
    place ≤ source.length ∧
      tokenize (insertAt source place more) = .ok (tokens.map (moved place more.length)) := by
  obtain ⟨front, back, scanned, rfl, ends⟩ := edge.exists_split cut
  obtain ⟨whole, rfl⟩ := tokenize_eq_ok_iff.mp cut
  obtain ⟨inner, rfl, silent, scanned'⟩ := scan_insert scanned trivia ends
  have text : front.flatMap Segment.text ++ back.flatMap Segment.text = source.toList := by
    have all := flatMap_text_scan whole
    rwa [scanned, List.flatMap_append] at all
  have inside : Segment.width front ≤ source.length := by
    rw [← String.length_toList, ← text, List.length_append, width_eq]
    exact Nat.le_add_right _ _
  have longer : (insertAt source (Segment.width front) (inner.flatMap Segment.text)).toList =
      front.flatMap Segment.text ++ inner.flatMap Segment.text ++ back.flatMap Segment.text := by
    rw [insertAt, String.toList_ofList, ← text, width_eq, List.take_left, List.drop_left]
  have before : ∀ segment ∈ front, segment.text ≠ [] := by
    intro segment here
    apply text_ne_nil_of_scan segment
    rw [scanned]
    exact List.mem_append_left back here
  refine ⟨inside, tokenize_eq_ok_iff.mpr ⟨?_, ?_⟩⟩
  · rw [longer, scanned']
  · unfold frontTokens
    rw [longer, scanned', scanned, List.append_assoc]
    simp only [Segment.tokens_append, silent, List.nil_append, List.map_append, Nat.zero_add]
    rw [Segment.tokens_moved_before _ before (Nat.le_refl _), Segment.tokens_moved_after,
      width_eq inner]
    congr 1
    rw [length_insertAt]
    simp only [List.map_cons, List.map_nil, moved, endOfInput, movedOffset,
      if_neg (Nat.not_lt.mpr inside)]

theorem Rejection.toSyntaxError_moved {source other : String} {place distance : Nat}
    (length : other.length = source.length + distance) (inside : place ≤ source.length)
    (rejection : Rejection) :
    (rejection.map (Token.moved place distance)).toSyntaxError other =
      (rejection.toSyntaxError source).moved other place distance := by
  obtain ⟨reason, rest⟩ := rejection
  cases rest with
  | nil =>
    have last : other.length = movedOffset place distance source.length := by
      rw [movedOffset, if_neg (Nat.not_lt.mpr inside), length]
    exact congrArg (SyntaxError.ofOffset other · reason) last
  | cons token rest => rfl

namespace GraphDecl

/-- Reading sees of moved tokens only where they are. -/
theorem parse_of_moved {source other : String} {tokens : List Token} {place distance : Nat}
    (cut : Token.tokenize source = .ok tokens)
    (moved : Token.tokenize other = .ok (tokens.map (Token.moved place distance)))
    (length : other.length = source.length + distance) (inside : place ≤ source.length) :
    parse other = (parse source).mapError (SyntaxError.moved other place distance) := by
  have blind := Reader.blind_declarations (Token.keeps_moved place distance) tokens
  unfold Reader.BlindOn at blind
  unfold parse
  rw [cut, moved]
  dsimp only
  rw [blind]
  cases Reader.declarations.run tokens with
  | error rejection =>
    exact congrArg Except.error (Rejection.toSyntaxError_moved length inside rejection)
  | ok result => rfl

end GraphDecl

namespace Graph

/-- Trivia where a token begins or ends moves the tokens behind it. The text describes the same
graphs, or the error is the same at the token where it was. -/
theorem parse_insertAt {source : String} {tokens : List Token} {place : Nat} {more : List Char}
    (cut : Token.tokenize source = .ok tokens) (edge : TokenEdge source tokens place)
    (trivia : Trivia more) :
    let longer := insertAt source place more
    Token.tokenize longer = .ok (tokens.map (Token.moved place more.length)) ∧
      GraphDecl.parse longer =
        (GraphDecl.parse source).mapError (SyntaxError.moved longer place more.length) ∧
      (parse longer).outcome =
        (parse source).outcome.mapError (ParseError.moved longer place more.length) := by
  intro longer
  obtain ⟨inside, moved⟩ := Token.tokenize_insertAt cut edge trivia
  have read := GraphDecl.parse_of_moved cut moved (length_insertAt more) inside
  refine ⟨moved, read, ?_⟩
  rw [outcome_parse, outcome_parse, read]
  cases GraphDecl.parse source <;> rfl

/-- A line where a body is wanted, in its place and after two comments and a newline. -/
theorem parse_insertAt_comments :
    let source := "graph--"
    let tokens : List Token := [⟨.identifier, "graph", 0⟩, ⟨.line, "--", 5⟩, ⟨.endOfInput, "", 7⟩]
    let more := [' ', '/', '/', '-', '\n', '/', '*', '"', '*', '/']
    let longer := insertAt source 5 more
    Token.tokenize source = .ok tokens ∧ TokenEdge source tokens 5 ∧ Trivia more ∧
      Token.tokenize longer =
        .ok [⟨.identifier, "graph", 0⟩, ⟨.line, "--", 15⟩, ⟨.endOfInput, "", 17⟩] ∧
      GraphDecl.parse longer = .error ⟨.expected .leftBrace, 15, ⟨2, 6⟩⟩ ∧
      (parse longer).outcome = .error (.unreadable ⟨.expected .leftBrace, 15, ⟨2, 6⟩⟩) := by
  intro source tokens more longer
  have cut : Token.tokenize "graph--" =
      .ok [⟨.identifier, "graph", 0⟩, ⟨.line, "--", 5⟩, ⟨.endOfInput, "", 7⟩] := by
    cbv
  have covers : Token.Covers source ⟨.identifier, "graph", 0⟩ ['g', 'r', 'a', 'p', 'h'] :=
    ⟨.identifier rfl (List.all_eq_true.mp rfl), by decide⟩
  have edge : TokenEdge source tokens 5 := ⟨_, List.mem_cons_self, _, covers, .inr rfl⟩
  have first : ∀ front, front ++ ['*', '/'] <+: ['"'] ++ ['*', '/'] → front = ['"'] := by
    obtain ⟨body, same, first⟩ := commentTail?_eq_some (s := ['"', '*', '/']) rfl
    obtain rfl : ['"'] = body := List.append_cancel_right (same : ['"'] ++ ['*', '/'] = _)
    exact first
  have trivia : Trivia more := .blank rfl (@Trivia.line ['-'] _ (by decide) (.block first .nil))
  have outer : Reader.declaration.run tokens = .error ⟨.expected .leftBrace, tokens.tail⟩ := rfl
  have place : SyntaxError.ofOffset source 5 (.expected .leftBrace) =
      ⟨.expected .leftBrace, 5, ⟨1, 6⟩⟩ := by decide
  have fails : GraphDecl.parse source = .error ⟨.expected .leftBrace, 5, ⟨1, 6⟩⟩ := by
    unfold GraphDecl.parse
    rw [cut]
    dsimp only
    rw [Reader.run_declarations_of_more (by decide), Reader.run_bind_of_error outer]
    exact congrArg Except.error place
  have place' : SyntaxError.moved longer 5 more.length ⟨.expected .leftBrace, 5, ⟨1, 6⟩⟩ =
      ⟨.expected .leftBrace, 15, ⟨2, 6⟩⟩ := by decide
  have moved := parse_insertAt cut edge trivia
  rw [outcome_parse source, fails] at moved
  refine ⟨cut, edge, trivia, moved.1, moved.2.1.trans ?_, moved.2.2.trans ?_⟩
  · exact congrArg Except.error place'
  · exact congrArg (Except.error ∘ ParseError.unreadable) place'

end Graph

end DotGraph
