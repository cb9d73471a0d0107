import DotGraph.Proofs.Earliest
import DotGraph.Proofs.Faults

/-!
# Locations of syntax errors

An offset in a text and its line and column tell the same: the line counts the newlines before the
offset, the column counts on from where that line starts, and later offsets have later locations. A
syntax error lies within its text, and one that is found after the text is cut lies at a token
(`SyntaxError.locates`).
-/

namespace DotGraph

/-- A line of a text starts at an offset: the first one at zero, and every other one just after a
newline. -/
inductive LineStart (text : List Char) : Nat → Nat → Prop
  | first : LineStart text 1 0
  | later {before after : List Char} : text = before ++ '\n' :: after →
      LineStart text (before.count '\n' + 2) (before.length + 1)

namespace LineStart

theorem eq_of_count_eq {before after before' after' : List Char}
    (same : before ++ '\n' :: after = before' ++ '\n' :: after')
    (count : before.count '\n' = before'.count '\n') : before = before' := by
  have inner {front more later later' : List Char} (split : '\n' :: later = more ++ '\n' :: later')
      (balance : front.count '\n' = (front ++ more).count '\n') : front = front ++ more := by
    cases more with
    | nil => rw [List.append_nil]
    | cons c more =>
      obtain ⟨rfl, -⟩ := List.cons.inj split
      rw [List.count_append, List.count_cons_self] at balance
      omega
  obtain ⟨more, rfl, split⟩ | ⟨more, rfl, split⟩ := List.append_eq_append_iff.mp same
  · exact inner split count
  · exact (inner split count.symm).symm

/-- A line starts at one offset only. -/
theorem unique {text : List Char} {line start other : Nat} (starts : LineStart text line start)
    (starts' : LineStart text line other) : other = start := by
  generalize same : line = line' at starts'
  cases starts with
  | first =>
    cases starts' with
    | first => rfl
    | later split => omega
  | later split =>
    cases starts' with
    | first => omega
    | later split' =>
      rw [eq_of_count_eq (split.symm.trans split') (by omega)]

end LineStart

namespace Location

theorem lastLineStart_of_not_mem {text : List Char} (oneLine : '\n' ∉ text) :
    lastLineStart text = 0 := by
  have noNewline : '\n' ∉ text.reverse := fun inside => oneLine (List.mem_reverse.mp inside)
  have whole := @takeWhile_line _ [] noNewline (by simp)
  rw [List.append_nil] at whole
  rw [lastLineStart, whole, List.length_reverse, Nat.sub_self]

theorem lastLineStart_le (text : List Char) : lastLineStart text ≤ text.length :=
  Nat.sub_le ..

/-- The last line of a text with more than one. -/
theorem exists_last_line {text : List Char} (inside : '\n' ∈ text) :
    ∃ before line, text = before ++ '\n' :: line ∧ '\n' ∉ line := by
  -- the last newline is the first one from behind
  obtain ⟨line, before, reversed, none⟩ :=
    List.eq_append_cons_of_mem (List.mem_reverse.mpr inside)
  refine ⟨before.reverse, line.reverse, ?_, fun here => none (List.mem_reverse.mp here)⟩
  rw [List.reverse_eq_iff.mp reversed, List.reverse_append, List.reverse_cons, List.append_assoc,
    List.singleton_append]

/-- The line that a text ends in starts where its last newline ends. -/
theorem lineStart_lastLineStart {text front : List Char} (inside : front <+: text) :
    LineStart text (front.count '\n' + 1) (lastLineStart front) := by
  obtain ⟨after, rfl⟩ := inside
  by_cases newline : '\n' ∈ front
  · obtain ⟨before, line, rfl, oneLine⟩ := exists_last_line newline
    rw [lastLineStart_append_newline, lastLineStart_of_not_mem oneLine, Nat.zero_add,
      List.count_append, List.count_cons_self, List.count_eq_zero.mpr oneLine, Nat.zero_add,
      List.append_assoc]
    exact .later rfl
  · rw [lastLineStart_of_not_mem newline, List.count_eq_zero.mpr newline]
    exact .first

/-- Earlier in a text: on an earlier line, or before on the same line. -/
def Before (first second : Location) : Prop :=
  first.line < second.line ∨ first.line = second.line ∧ first.column < second.column

theorem Before.asymm {first second : Location} (before : first.Before second) :
    ¬ second.Before first := by
  unfold Before at *
  omega

variable {source : String} {offset other : Nat}

theorem lineStart_ofOffset (source : String) (offset : Nat) :
    LineStart source.toList (ofOffset source offset).line
      (lastLineStart (source.toList.take offset)) :=
  lineStart_lastLineStart (List.take_prefix ..)

theorem lastLineStart_add_column (source : String) (offset : Nat) :
    lastLineStart (source.toList.take offset) + (ofOffset source offset).column = offset + 1 := by
  have start := lastLineStart_le (source.toList.take offset)
  have short := List.length_take_le offset source.toList
  dsimp only [ofOffset]
  omega

theorem before_of_lt (later : offset < other) :
    (ofOffset source offset).Before (ofOffset source other) := by
  have inside : source.toList.take offset <+: source.toList.take other :=
    List.take_prefix_take_left (Nat.le_of_lt later)
  have lines := inside.sublist.count_le '\n'
  rcases Nat.lt_or_eq_of_le lines with fewer | same
  · exact .inl (Nat.succ_lt_succ fewer)
  · -- on one line, the columns count from the same start
    have line : (ofOffset source offset).line = (ofOffset source other).line :=
      congrArg (· + 1) same
    have start := (line ▸ lineStart_ofOffset source offset).unique (lineStart_ofOffset source other)
    have first := lastLineStart_add_column source offset
    have second := lastLineStart_add_column source other
    exact .inr ⟨line, by omega⟩

theorem lt_iff_before : offset < other ↔
    (ofOffset source offset).Before (ofOffset source other) := by
  refine ⟨before_of_lt, fun before => ?_⟩
  rcases Nat.lt_trichotomy offset other with later | rfl | earlier
  · exact later
  · exact absurd before before.asymm
  · exact absurd before (before_of_lt earlier).asymm

theorem ofOffset_inj (same : ofOffset source offset = ofOffset source other) : offset = other := by
  rcases Nat.lt_trichotomy offset other with later | rfl | earlier
  · have before := same ▸ @before_of_lt source _ _ later
    exact absurd before before.asymm
  · rfl
  · have before := same ▸ @before_of_lt source _ _ earlier
    exact absurd before before.asymm

end Location

/-! ### Where errors lie -/

theorem width_scan_le (text : List Char) :
    Segment.width (scan true text).segments ≤ text.length := by
  have whole := congrArg List.length (flatMap_text_scan_append true text)
  rw [List.length_append, ← width_eq] at whole
  omega

/-- Every token but the end of input lies before the end of a text. -/
theorem offset_lt_of_mem_frontTokens {source : String} {token : Token}
    (inside : token ∈ frontTokens source) : token.offset < source.length := by
  obtain ⟨earlier, lexeme, later, split, place⟩ := Segment.exists_split_of_mem_tokens inside
  have here : .lexeme token.kind token.text lexeme ∈ (scan true source.toList).segments := by
    rw [split]
    exact List.mem_append_right _ List.mem_cons_self
  have present : lexeme ≠ [] := text_ne_nil_of_scan _ here
  have fits := width_scan_le source.toList
  rw [split, Segment.width_append, Segment.width, Segment.text_lexeme, String.length_toList] at fits
  have long := List.length_pos_iff.mpr present
  omega

theorem offset_eq_length_iff {source : String} {tokens : List Token}
    (cut : Token.tokenize source = .ok tokens) {token : Token} (inside : token ∈ tokens) :
    token.offset = source.length ↔ token.kind = .endOfInput := by
  obtain ⟨-, rfl⟩ := Token.tokenize_eq_ok_iff.mp cut
  obtain front | last := List.mem_append.mp inside
  · have before := offset_lt_of_mem_frontTokens front
    have more := kind_ne_endOfInput_of_mem front
    exact ⟨fun same => absurd same (Nat.ne_of_lt before), fun same => absurd same more⟩
  · rw [List.mem_singleton.mp last]
    exact ⟨fun _ => rfl, fun _ => rfl⟩

theorem offset_le_of_mem {source : String} {tokens : List Token}
    (cut : Token.tokenize source = .ok tokens) {token : Token} (inside : token ∈ tokens) :
    token.offset ≤ source.length := by
  by_cases last : token.kind = .endOfInput
  · exact Nat.le_of_eq ((offset_eq_length_iff cut inside).mpr last)
  · exact Nat.le_of_lt (offset_lt_of_mem_frontTokens (mem_frontTokens_of_mem cut inside last))

namespace SyntaxError

/-- An error is at an offset of a text, with the line and the column of that offset. -/
def LiesIn (source : String) (error : SyntaxError) : Prop :=
  error.offset ≤ source.length ∧ error.location = .ofOffset source error.offset

theorem liesIn_ofOffset {source : String} {offset : Nat} (inside : offset ≤ source.length)
    (reason : Reason) : (ofOffset source offset reason).LiesIn source :=
  ⟨inside, rfl⟩

theorem liesIn_of_tokenize {source : String} {error : SyntaxError}
    (fails : Token.tokenize source = .error error) : error.LiesIn source := by
  cases found : (scan true source.toList).failure? with
  | none =>
    rw [Token.tokenize_of_none found] at fails
    cases fails
  | some reason =>
    rw [Token.tokenize_of_some found] at fails
    cases fails
    apply liesIn_ofOffset
    rw [← String.length_toList]
    exact width_scan_le _

/-- Where the tokens of a text are not read, the error is at the one that is rejected. -/
theorem exists_token_of_parse {source : String} {tokens : List Token} {error : SyntaxError}
    (cut : Token.tokenize source = .ok tokens) (fails : GraphDecl.parse source = .error error) :
    ∃ token ∈ tokens, ∃ later,
      Reader.declarations.run tokens = .error ⟨error.reason, token :: later⟩ ∧
        error = .ofOffset source token.offset error.reason := by
  obtain ⟨rejection, found, rfl⟩ := GraphDecl.exists_rejection cut fails
  obtain ⟨-, ends⟩ := Token.tokenize_eq_ok_iff.mp cut
  have ended : ∃ token ∈ tokens, token.kind = .endOfInput :=
    ⟨Token.endOfInput source.length, by rw [ends]; simp, rfl⟩
  obtain ⟨used, token, later, split, rest, -⟩ := GraphDecl.earliest_of_run found ended
  obtain ⟨reason, left⟩ := rejection
  subst rest
  refine ⟨token, ?_, later, found, rfl⟩
  rw [split]
  exact List.mem_append_right _ List.mem_cons_self

theorem liesIn_of_parse {source : String} {error : SyntaxError}
    (fails : GraphDecl.parse source = .error error) : error.LiesIn source := by
  cases cut : Token.tokenize source with
  | error other =>
    rw [GraphDecl.parse, cut] at fails
    cases fails
    exact liesIn_of_tokenize cut
  | ok tokens =>
    obtain ⟨token, inside, later, -, place⟩ := exists_token_of_parse cut fails
    rw [place]
    exact liesIn_ofOffset (offset_le_of_mem cut inside) _

/-- A location tells how many newlines are before an offset, and how far the offset is behind the
start of its line. So it tells the offset, and later offsets have later locations, also beyond the
end. Whatever error a text has lies in it. If the text can be cut, the error is at one of its
tokens, the one that is rejected, and it is at the end of the text just if that token is the end of
input. -/
theorem locates (source : String) :
    (∀ offset, (Location.ofOffset source offset).line =
        (source.toList.take offset).count '\n' + 1 ∧
      ∃ start, (∀ other, LineStart source.toList (Location.ofOffset source offset).line other ↔
          other = start) ∧
        start + (Location.ofOffset source offset).column = offset + 1) ∧
    Function.Injective (Location.ofOffset source) ∧
    (∀ offset other, offset < other ↔
      (Location.ofOffset source offset).Before (.ofOffset source other)) ∧
    (∀ error, Token.tokenize source = .error error → error.LiesIn source) ∧
    (∀ error, GraphDecl.parse source = .error error → error.LiesIn source) ∧
    ∀ tokens error, Token.tokenize source = .ok tokens → GraphDecl.parse source = .error error →
      ∃ token ∈ tokens, ∃ later,
        Reader.declarations.run tokens = .error ⟨error.reason, token :: later⟩ ∧
          error.offset = token.offset ∧
          (error.offset = source.length ↔ token.kind = .endOfInput) := by
  refine ⟨fun offset => ⟨rfl, ?_⟩, ?_, fun _ _ => Location.lt_iff_before,
    fun _ => liesIn_of_tokenize, fun _ => liesIn_of_parse, ?_⟩
  · have starts := Location.lineStart_ofOffset source offset
    refine ⟨_, fun other => ⟨starts.unique, ?_⟩, Location.lastLineStart_add_column source offset⟩
    rintro rfl
    exact starts
  · exact fun _ _ => Location.ofOffset_inj
  · intro tokens error cut fails
    obtain ⟨token, inside, later, rejected, place⟩ := exists_token_of_parse cut fails
    have offset : error.offset = token.offset := congrArg SyntaxError.offset place
    refine ⟨token, inside, later, rejected, offset, ?_⟩
    rw [offset]
    exact offset_eq_length_iff cut inside

/-- A body that is open at the end of the second line, and a string that is. -/
theorem locates_open :
    let tokens : List Token :=
      [⟨.identifier, "graph", 0⟩, ⟨.leftBrace, "\x7b", 6⟩, ⟨.endOfInput, "", 7⟩]
    let error : SyntaxError := ⟨.expected .rightBrace, 7, ⟨2, 2⟩⟩
    (Token.tokenize "graph\n\x7b" = .ok tokens ∧ GraphDecl.parse "graph\n\x7b" = .error error ∧
      error.LiesIn "graph\n\x7b" ∧
      ∃ token ∈ tokens, ∃ later,
        Reader.declarations.run tokens = .error ⟨error.reason, token :: later⟩ ∧
          error.offset = token.offset ∧
          (error.offset = "graph\n\x7b".length ↔ token.kind = .endOfInput)) ∧
    Token.tokenize "\n\"" = .error ⟨.unterminatedString, 1, ⟨2, 1⟩⟩ ∧
      SyntaxError.LiesIn "\n\"" ⟨.unterminatedString, 1, ⟨2, 1⟩⟩ := by
  intro tokens error
  obtain ⟨cut, unclosed⟩ : Token.tokenize "graph\n\x7b" = .ok tokens ∧
      Token.tokenize "\n\"" = .error ⟨.unterminatedString, 1, ⟨2, 1⟩⟩ := by
    constructor <;> cbv
  have rejected : Reader.declaration.run tokens =
      .error ⟨.expected .rightBrace, [⟨.endOfInput, "", 7⟩]⟩ := by
    change (Reader.body >>= _).run [⟨.endOfInput, "", 7⟩] = _
    rw [Reader.run_bind_of_ok (Reader.run_body_of_end rfl)]
    rfl
  have fails : GraphDecl.parse "graph\n\x7b" = .error error := by
    unfold GraphDecl.parse
    rw [cut]
    dsimp only
    rw [Reader.run_declarations_of_more (by decide), Reader.run_bind_of_error rejected]
    rfl
  obtain ⟨-, -, -, -, lies, found⟩ := locates "graph\n\x7b"
  obtain ⟨-, -, -, lies', -, -⟩ := locates "\n\""
  exact ⟨⟨cut, fails, lies error fails, found tokens error cut fails⟩, unclosed, lies' _ unclosed⟩

end SyntaxError

end DotGraph
