import DotGraph.Token.Lexer

/-!
# The tokens of a text

What a text is cut into: `tokens source` when nothing stands in the way, and one end of input after
them. No token before it is an end of input.
-/

namespace DotGraph

theorem TokenKind.ofPunctuation?_ne_endOfInput {c : Char} {kind : TokenKind}
    (h : ofPunctuation? c = some kind) : kind ≠ .endOfInput := by
  rintro rfl
  unfold ofPunctuation? at h
  split at h <;> cases h

theorem nextSegment_kind_ne_endOfInput {blankLine : Bool} {c : Char} {rest : List Char}
    {kind : TokenKind} {value : String} {text : List Char}
    (h : nextSegment blankLine c rest = .ok (.lexeme kind value text)) : kind ≠ .endOfInput := by
  unfold nextSegment at h
  repeat' split at h
  all_goals cases h
  all_goals first | decide | exact TokenKind.ofPunctuation?_ne_endOfInput (by assumption)

theorem scan_of_ok {blankLine : Bool} {c : Char} {rest : List Char} {segment : Segment}
    (cut : nextSegment blankLine c rest = .ok segment) :
    scan blankLine (c :: rest) =
      (scan (blankLineAfter blankLine segment.text)
        ((c :: rest).drop segment.text.length)).cons segment := by
  rw [scan]
  split
  · next failed => cases cut.symm.trans failed
  · next found => cases cut.symm.trans found; rfl

theorem scan_kind_ne_endOfInput (blankLine : Bool) (text : List Char) :
    ∀ segment ∈ (scan blankLine text).segments, ∀ kind value lexeme,
      segment = .lexeme kind value lexeme → kind ≠ .endOfInput := by
  fun_induction scan blankLine text with
  | case1 => intro segment inside; cases inside
  | case2 => intro segment inside; cases inside
  | case3 blankLine c rest first cut ih =>
    intro segment inside kind value lexeme same
    rcases List.mem_cons.mp inside with rfl | later
    · subst same
      exact nextSegment_kind_ne_endOfInput cut
    · exact ih segment later kind value lexeme same

/-- A token is made by a lexeme, at whose place it stands. -/
theorem Segment.exists_split_of_mem_tokens {offset : Nat} {segments : List Segment} {token : Token}
    (inside : token ∈ Segment.tokens offset segments) :
    ∃ earlier lexeme later,
      segments = earlier ++ .lexeme token.kind token.text lexeme :: later ∧
        token.offset = offset + width earlier := by
  induction segments generalizing offset with
  | nil => cases inside
  | cons segment segments ih =>
    cases segment with
    | trivia text =>
      obtain ⟨earlier, lexeme, later, rfl, place⟩ := ih inside
      exact ⟨.trivia text :: earlier, lexeme, later, rfl, by rw [place, Nat.add_assoc]; rfl⟩
    | lexeme kind value text =>
      rcases List.mem_cons.mp inside with rfl | within
      · exact ⟨[], text, segments, rfl, rfl⟩
      · obtain ⟨earlier, lexeme, later, rfl, place⟩ := ih within
        exact ⟨.lexeme kind value text :: earlier, lexeme, later, rfl,
          by rw [place, Nat.add_assoc]; rfl⟩

theorem Segment.kind_of_mem_tokens {offset : Nat} {segments : List Segment} {token : Token}
    (inside : token ∈ Segment.tokens offset segments) :
    ∃ lexeme, Segment.lexeme token.kind token.text lexeme ∈ segments := by
  obtain ⟨earlier, lexeme, later, rfl, -⟩ := exists_split_of_mem_tokens inside
  exact ⟨lexeme, List.mem_append_right _ List.mem_cons_self⟩

/-- A text that can be cut is cut as a whole. -/
theorem width_scan {blankLine : Bool} {text : List Char}
    (whole : (scan blankLine text).failure? = none) :
    Segment.width (scan blankLine text).segments = text.length := by
  fun_induction scan blankLine text with
  | case1 => rfl
  | case2 => cases whole
  | case3 blankLine c rest segment cut ih =>
    have fits := (nextSegment_isPrefix cut).length_le
    change segment.text.length + Segment.width _ = _
    rw [ih whole, List.length_drop]
    omega

namespace Segment

theorem width_append (first second : List Segment) :
    width (first ++ second) = width first + width second := by
  induction first with
  | nil => exact (Nat.zero_add _).symm
  | cons segment first ih => rw [List.cons_append, width, width, ih, Nat.add_assoc]

theorem tokens_append (offset : Nat) (first second : List Segment) :
    tokens offset (first ++ second) =
      tokens offset first ++ tokens (offset + width first) second := by
  induction first generalizing offset with
  | nil => rfl
  | cons segment first ih =>
    cases segment with
    | trivia text => rw [List.cons_append, tokens, tokens, ih, width, text_trivia, Nat.add_assoc]
    | lexeme kind value text =>
      rw [List.cons_append, tokens, tokens, ih, width, text_lexeme, Nat.add_assoc, List.cons_append]

end Segment

/-- A token as it stands further on in a text. -/
def Token.shift (distance : Nat) (token : Token) : Token :=
  ⟨token.kind, token.text, token.offset + distance⟩

theorem Segment.tokens_add (offset distance : Nat) (segments : List Segment) :
    tokens (offset + distance) segments = (tokens offset segments).map (Token.shift distance) := by
  induction segments generalizing offset with
  | nil => rfl
  | cons segment segments ih =>
    cases segment with
    | trivia text => rw [tokens, tokens, Nat.add_right_comm, ih]
    | lexeme kind value text =>
      rw [tokens, tokens, Nat.add_right_comm, ih, List.map_cons, Token.shift]

/-- The tokens of a text before the end of input. -/
def frontTokens (source : String) : List Token :=
  Segment.tokens 0 (scan true source.toList).segments

theorem kind_ne_endOfInput_of_mem {source : String} {token : Token}
    (inside : token ∈ frontTokens source) : token.kind ≠ .endOfInput := by
  obtain ⟨lexeme, found⟩ := Segment.kind_of_mem_tokens inside
  exact scan_kind_ne_endOfInput true source.toList _ found _ _ _ rfl

namespace Token

theorem tokenize_of_none {source : String} (whole : (scan true source.toList).failure? = none) :
    tokenize source = .ok (frontTokens source ++ [endOfInput source.length]) := by
  unfold tokenize frontTokens
  simp only [whole]

theorem tokenize_of_some {source : String} {reason : Reason}
    (fails : (scan true source.toList).failure? = some reason) :
    tokenize source =
      .error (.ofOffset source (Segment.width (scan true source.toList).segments) reason) := by
  unfold tokenize
  simp only [fails]

theorem tokenize_eq_ok_iff {source : String} {tokens : List Token} :
    tokenize source = .ok tokens ↔ (scan true source.toList).failure? = none ∧
      tokens = frontTokens source ++ [endOfInput source.length] := by
  cases found : (scan true source.toList).failure? with
  | none => rw [tokenize_of_none found, Except.ok.injEq, eq_comm, and_iff_right rfl]
  | some reason =>
    rw [tokenize_of_some found]
    constructor
    · rintro ⟨⟩
    · rintro ⟨⟨⟩, _⟩

end Token

theorem mem_frontTokens_of_mem {source : String} {tokens : List Token}
    (cut : Token.tokenize source = .ok tokens) {token : Token} (inside : token ∈ tokens)
    (more : token.kind ≠ .endOfInput) : token ∈ frontTokens source := by
  obtain ⟨-, rfl⟩ := Token.tokenize_eq_ok_iff.mp cut
  rcases List.mem_append.mp inside with front | last
  · exact front
  · exact absurd (congrArg Token.kind (List.mem_singleton.mp last)) more

end DotGraph
