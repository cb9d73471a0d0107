import DotGraph.Proofs.Earlier
import DotGraph.Proofs.Lexemes
import DotGraph.Proofs.Tokens
import DotGraph.Text.Run

/-!
# Tilings of a source text

What a segment may be where it stands, said without the scanners (`Segment.Fits`). A text that is
cut into tokens is tiled by segments that fit, and its tokens are those of the lexemes among them
(`Token.tiling_of_tokenize`); what is a lexeme of some kind is cut off as one wherever no longer one
begins (`nextSegment_of_spelled`).
-/

namespace DotGraph

open Text Lexeme

/-- Nothing but blanks stands on the last line of a text. -/
def BlankLine (text : List Char) : Prop :=
  ∀ c ∈ text.reverse.takeWhile (· != '\n'), isBlank c = true

theorem blankLineAfter_iff {text : List Char} :
    blankLineAfter true text = true ↔ BlankLine text := by
  suffices reversed : ∀ line : List Char, blankLineAfter true line.reverse = true ↔
      ∀ c ∈ line.takeWhile (· != '\n'), isBlank c = true by
    rw [BlankLine, ← reversed, List.reverse_reverse]
  intro line
  induction line with
  | nil => simp
  | cons c line ih =>
    have last : blankLineAfter true (c :: line).reverse =
        (c == '\n' || blankLineAfter true line.reverse && isBlank c) := by
      rw [List.reverse_cons, blankLineAfter_append]
      rfl
    rw [last]
    by_cases newline : c = '\n'
    · simp [newline]
    · simp [newline, ih, and_comm]

/-- What a segment may be between the text before it and the text after it. -/
inductive Segment.Fits (before after : List Char) : Segment → Prop
  | blank {c : Char} : isBlank c = true → Fits before after (.trivia [c])
  | slashes {body : List Char} : '\n' ∉ body → (∀ c ∈ after.head?, c = '\n') →
      Fits before after (.trivia ('/' :: '/' :: body))
  | numberSign {body : List Char} : BlankLine before → '\n' ∉ body →
      (∀ c ∈ after.head?, c = '\n') → Fits before after (.trivia ('#' :: body))
  | block {body : List Char} :
      (∀ front, front ++ ['*', '/'] <+: body ++ ['*', '/'] → front = body) →
      Fits before after (.trivia ('/' :: '*' :: (body ++ ['*', '/'])))
  | lexeme {kind : TokenKind} {value : String} {text : List Char} : Spelled kind value text →
      Unextended kind text after → Fits before after (.lexeme kind value text)

theorem stops_of_takeWhile {p : Char → Bool} {s after : List Char}
    (whole : s.takeWhile p ++ after = s) : ∀ c ∈ after.head?, p c = false := by
  have rest : after = s.dropWhile p :=
    List.append_cancel_left (whole.trans List.takeWhile_append_dropWhile.symm)
  intro c first
  have stops := List.head?_dropWhile_not p s
  rw [← rest, first] at stops
  exact stops

theorem TokenKind.isId_of_ofPunctuation? {c : Char} {kind : TokenKind}
    (found : ofPunctuation? c = some kind) : kind.isId = false := by
  unfold ofPunctuation? at found
  split at found <;> cases found <;> rfl

/-- A comment through the end of its line. -/
theorem fits_of_lineComment {before after : List Char} {c : Char} {rest : List Char}
    (opens : (c = '/' ∧ rest.head? = some '/') ∨ (c = '#' ∧ blankLineAfter true before = true))
    (whole : rest.takeWhile (· != '\n') ++ after = rest) :
    (Segment.trivia (c :: rest.takeWhile (· != '\n'))).Fits before after := by
  have noNewline : '\n' ∉ rest.takeWhile (· != '\n') := by
    intro inside
    exact absurd (List.all_eq_true.mp List.all_takeWhile _ inside) (by decide)
  have ends : ∀ d ∈ after.head?, d = '\n' := by
    intro d first
    simpa using stops_of_takeWhile whole d first
  rcases opens with ⟨rfl, second⟩ | ⟨rfl, blankLine⟩
  · obtain ⟨rest, rfl⟩ := List.head?_eq_some_iff.mp second
    exact .slashes (fun inside => noNewline (List.mem_cons_of_mem _ inside)) ends
  · exact .numberSign (blankLineAfter_iff.mp blankLine) noNewline ends

/-- What is cut off fits where it stands: one case for each alternative, in the order in which they
are tried. -/
theorem fits_of_nextSegment {before after : List Char} {c : Char} {rest : List Char}
    {segment : Segment} (cut : nextSegment (blankLineAfter true before) c rest = .ok segment)
    (whole : segment.text ++ after = c :: rest) : segment.Fits before after := by
  unfold nextSegment at cut
  split at cut
  · next blank =>
    cases cut
    exact .blank blank
  split at cut
  · next opens =>
    cases cut
    exact fits_of_lineComment opens (List.cons.inj whole).2
  split at cut
  · next opens =>
    split at cut
    · next tail closes =>
      cases cut
      obtain ⟨body, rfl, first⟩ := commentTail?_eq_some closes
      exact .block first
    · cases cut
  split at cut
  · split at cut
    · next body closes =>
      cases cut
      obtain ⟨value, literal⟩ := literal_of_literalBody? closes
      rw [Segment.quoted, literal.unescape_eq]
      exact .lexeme (.string literal) (unextended_of_kind (by decide) (by decide) ..)
    · cases cut
  split at cut
  · split at cut
    · next tail closes =>
      cases cut
      have bracketed := bracketed_cons_iff.mpr (htmlTail?_eq_some_iff.mp closes).2
      exact .lexeme (.html bracketed) (unextended_of_kind (by decide) (by decide) ..)
    · cases cut
  split at cut
  · cases cut
    exact .lexeme .arrow (unextended_of_kind (by decide) (by decide) ..)
  split at cut
  · cases cut
    exact .lexeme .line (unextended_of_kind (by decide) (by decide) ..)
  split at cut
  · next text found =>
    cases cut
    obtain ⟨-, isNumeral, longest⟩ := numeral?_eq_some_iff.mp found
    refine .lexeme (.numeral isNumeral) ⟨?_, ?_⟩
    · intro same
      cases same
    · intro _ longer inside
      exact longest longer (whole ▸ inside)
  split at cut
  · next kind found =>
    cases cut
    have other := TokenKind.isId_of_ofPunctuation? found
    refine .lexeme (.punctuation found) (unextended_of_kind ?_ ?_ ..)
    all_goals
      rintro rfl
      cases other
  split at cut
  · next start =>
    cases cut
    refine .lexeme (.identifier start (List.all_eq_true.mp List.all_takeWhile)) ⟨fun _ => ?_, ?_⟩
    · exact stops_of_takeWhile (List.cons.inj whole).2
    · intro same
      cases same
  · cases cut

/-! ### Lexemes are cut off as what they are -/

/-- The first segment where neither a blank nor anything that has to be closed begins, and no
operator: a numeral, a punctuation mark or a word. -/
def nextBare (c : Char) (rest : List Char) : Except Reason Segment :=
  match numeral? (c :: rest) with
  | some numeral => .ok (.verbatim .numeral numeral)
  | none =>
    match TokenKind.ofPunctuation? c with
    | some kind => .ok (.verbatim kind [c])
    | none =>
      if isIdentifierStart c then
        .ok (.verbatim .identifier (c :: rest.takeWhile isIdentifierPart))
      else
        .error (.unexpectedCharacter c)

theorem nextSegment_of_unopened {blankLine : Bool} {c : Char} {rest : List Char}
    (visible : isBlank c = false)
    (noLine : ¬ ((c = '/' ∧ rest.head? = some '/') ∨ (c = '#' ∧ blankLine = true)))
    (noBlock : ¬ (c = '/' ∧ rest.head? = some '*')) (noQuote : c ≠ '"') (noBracket : c ≠ '<')
    (noArrow : ¬ (c = '-' ∧ rest.head? = some '>'))
    (noDashes : ¬ (c = '-' ∧ rest.head? = some '-')) :
    nextSegment blankLine c rest = nextBare c rest := by
  unfold nextSegment
  rw [if_neg (Bool.eq_false_iff.mp visible), if_neg noLine, if_neg noBlock, if_neg noQuote,
    if_neg noBracket, if_neg noArrow]
  exact if_neg noDashes

/-- What begins with none of the characters that open something is cut off alike on every line. -/
theorem nextSegment_of_plain {c : Char} (visible : isBlank c = false)
    (plain : c ∉ ['/', '#', '"', '<']) {rest : List Char}
    (noOperator : c = '-' → rest.head? ≠ some '>' ∧ rest.head? ≠ some '-') (blankLine : Bool) :
    nextSegment blankLine c rest = nextBare c rest := by
  simp only [List.mem_cons, List.not_mem_nil, or_false, not_or] at plain
  obtain ⟨noSlash, noSign, noQuote, noBracket⟩ := plain
  exact nextSegment_of_unopened visible (by simp [noSlash, noSign]) (by simp [noSlash]) noQuote
    noBracket (fun found => (noOperator found.1).1 found.2)
    fun found => (noOperator found.1).2 found.2

theorem nextSegment_quote (blankLine : Bool) (rest : List Char) :
    nextSegment blankLine '"' rest =
      match literalBody? rest with
      | some body => .ok (.quoted body)
      | none => .error .unterminatedString :=
  rfl

theorem nextSegment_bracket (blankLine : Bool) (rest : List Char) :
    nextSegment blankLine '<' rest =
      match htmlTail? 0 rest with
      | some tail => .ok (.verbatim .html ('<' :: tail))
      | none => .error .unterminatedHtml :=
  rfl

theorem Lexeme.Numeral.opens {text after rest : List Char} {c : Char} (isNumeral : Numeral text)
    (whole : text ++ after = c :: rest) :
    isBlank c = false ∧ c ∉ ['/', '#', '"', '<'] ∧
      (c = '-' → rest.head? ≠ some '>' ∧ rest.head? ≠ some '-') := by
  have noDigit : ∀ d ∈ ['/', '#', '"', '<', '-', '>'], (!d.isDigit) = true :=
    List.all_eq_true.mp rfl
  have other {c d : Char} (first : c.isDigit = true ∨ c = '.')
      (inside : d ∈ ['/', '#', '"', '<', '-', '>']) : c ≠ d := by
    rintro rfl
    rcases first with digit | rfl
    · cases digit ▸ noDigit c inside
    · exact absurd inside (by decide)
  cases isNumeral with
  | positive unsigned =>
    obtain ⟨d, more, rfl, first⟩ := unsigned.eq_cons
    obtain ⟨rfl, -⟩ := List.cons.inj whole
    refine ⟨?_, ?_, fun minus => absurd minus (other first (by decide))⟩
    · rcases first with digit | rfl
      · exact isBlank_eq_false_of_isDigit digit
      · rfl
    · intro inside
      exact other first (List.mem_append_left ['-', '>'] inside) rfl
  | negative unsigned =>
    obtain ⟨d, more, rfl, first⟩ := unsigned.eq_cons
    obtain ⟨rfl, rfl⟩ := List.cons.inj whole
    refine ⟨rfl, by decide, fun _ => ⟨?_, ?_⟩⟩
    all_goals
      intro same
      exact other first (by decide) (Option.some.inj same)

/-- A lexeme is cut off as what it is, wherever no longer one begins. -/
theorem nextSegment_of_spelled {kind : TokenKind} {value : String} {text after rest : List Char}
    {c : Char} (spelled : Spelled kind value text) (alone : Unextended kind text after)
    (whole : text ++ after = c :: rest) (blankLine : Bool) :
    nextSegment blankLine c rest = .ok (.lexeme kind value text) := by
  cases spelled with
  | @string body _ literal =>
    rw [List.cons_append, List.cons_append, List.append_assoc] at whole
    obtain ⟨rfl, rfl⟩ := List.cons.inj whole
    rw [List.singleton_append, nextSegment_quote, literal.literalBody?_eq]
    dsimp only
    rw [Segment.quoted, literal.unescape_eq]
  | html bracketed =>
    obtain ⟨tail, rfl⟩ := List.head?_eq_some_iff.mp bracketed.1
    obtain ⟨rfl, inside⟩ := List.cons.inj whole
    have closes : htmlTail? 0 rest = some tail :=
      htmlTail?_eq_some_iff.mpr ⟨⟨after, inside⟩, bracketed_cons_iff.mp bracketed⟩
    rw [nextSegment_bracket, closes]
    rfl
  | arrow =>
    obtain ⟨rfl, rfl⟩ := List.cons.inj whole
    rfl
  | line =>
    obtain ⟨rfl, rfl⟩ := List.cons.inj whole
    rfl
  | numeral isNumeral =>
    have taken : numeral? (c :: rest) = some text :=
      numeral?_eq_some_iff.mpr ⟨⟨after, whole⟩, isNumeral, whole ▸ alone.2 rfl⟩
    obtain ⟨visible, plain, noOperator⟩ := isNumeral.opens whole
    rw [nextSegment_of_plain visible plain noOperator, nextBare, taken]
    rfl
  | @punctuation kind d found =>
    obtain ⟨rfl, rfl⟩ := List.cons.inj whole
    unfold TokenKind.ofPunctuation? at found
    split at found <;> cases found <;> rfl
  | @identifier d more start word =>
    rw [List.cons_append] at whole
    obtain ⟨rfl, rfl⟩ := List.cons.inj whole
    have noStart : ∀ c ∈ ['/', '#', '"', '<'], (!isIdentifierStart c) = true :=
      List.all_eq_true.mp rfl
    have plain : d ∉ ['/', '#', '"', '<'] := fun inside => by cases start ▸ noStart d inside
    have noMinus : d ≠ '-' := ne_of_isIdentifierStart start (by decide)
    rw [nextSegment_of_plain (isBlank_eq_false_of_isIdentifierStart start) plain
        (fun minus => absurd minus noMinus),
      nextBare, numeral?_of_isIdentifierStart start, ofPunctuation?_of_isIdentifierStart start]
    dsimp only
    rw [if_pos start, takeWhile_run word (alone.1 rfl)]
    rfl

theorem Lexeme.Spelled.eq_cons {kind : TokenKind} {value : String} {text : List Char}
    (spelled : Spelled kind value text) : ∃ c rest, text = c :: rest := by
  cases spelled with
  | html bracketed =>
    obtain ⟨tail, same⟩ := List.head?_eq_some_iff.mp bracketed.1
    exact ⟨'<', tail, same⟩
  | numeral isNumeral =>
    obtain ⟨c, rest, same, -⟩ := isNumeral.eq_cons
    exact ⟨c, rest, same⟩
  | _ => exact ⟨_, _, rfl⟩

/-- A text is a lexeme of one kind only, and makes one token only. -/
theorem Lexeme.Spelled.unique {kind kind' : TokenKind} {value value' : String} {text : List Char}
    (spelled : Spelled kind value text) (other : Spelled kind' value' text) :
    kind' = kind ∧ value' = value := by
  obtain ⟨c, rest, rfl⟩ := spelled.eq_cons
  have first := nextSegment_of_spelled spelled (unextended_nil ..) (List.append_nil _) true
  have second := nextSegment_of_spelled other (unextended_nil ..) (List.append_nil _) true
  cases first.symm.trans second
  exact ⟨rfl, rfl⟩

theorem scan_append_of_spelled {kind : TokenKind} {value : String} {text after : List Char}
    (spelled : Spelled kind value text) (alone : Unextended kind text after) (blankLine : Bool) :
    scan blankLine (text ++ after) =
      (scan (blankLineAfter blankLine text) after).cons (.lexeme kind value text) := by
  obtain ⟨c, rest, rfl⟩ := spelled.eq_cons
  have cut := nextSegment_of_spelled spelled alone (List.cons_append ..) blankLine
  rw [List.cons_append, scan_of_ok cut, Segment.text_lexeme, ← List.cons_append, List.drop_left]

namespace Segment

/-- The token that a segment makes where it stands. -/
def token? (offset : Nat) : Segment → Option Token
  | .trivia _ => none
  | .lexeme kind value _ => some ⟨kind, value, offset⟩

theorem tokens_eq_filterMap (offset : Nat) (segments : List Segment) :
    tokens offset segments = (withEarlier segments).filterMap fun entry =>
      entry.2.token? (offset + (entry.1.flatMap text).length) := by
  induction segments generalizing offset with
  | nil => rfl
  | cons segment segments ih =>
    have later := ih (offset + segment.text.length)
    simp only [Nat.add_assoc, ← List.length_append, ← List.flatMap_cons] at later
    rw [withEarlier, List.filterMap_cons, List.filterMap_map]
    cases segment with
    | trivia text => exact later
    | lexeme kind value text => exact congrArg (⟨kind, value, offset⟩ :: ·) later

end Segment

theorem width_eq (segments : List Segment) :
    Segment.width segments = (segments.flatMap Segment.text).length := by
  induction segments with
  | nil => rfl
  | cons segment segments ih => rw [Segment.width, ih, List.flatMap_cons, List.length_append]

/-- A text begins with the segments that are cut from it. -/
theorem flatMap_text_scan_append (blankLine : Bool) (text : List Char) :
    (scan blankLine text).segments.flatMap Segment.text ++
      text.drop (Segment.width (scan blankLine text).segments) = text := by
  fun_induction scan blankLine text with
  | case1 => rfl
  | case2 => rfl
  | case3 blankLine c rest segment cut ih =>
    change segment.text ++ List.flatMap _ _ ++ (c :: rest).drop (segment.text.length + _) = _
    rw [← List.drop_drop, List.append_assoc, ih]
    exact List.prefix_iff_eq_append.mp (nextSegment_isPrefix cut)

theorem flatMap_text_scan {blankLine : Bool} {text : List Char}
    (whole : (scan blankLine text).failure? = none) :
    (scan blankLine text).segments.flatMap Segment.text = text := by
  simpa [width_scan whole] using flatMap_text_scan_append blankLine text

theorem text_ne_nil_of_scan {blankLine : Bool} {text : List Char} :
    ∀ segment ∈ (scan blankLine text).segments, segment.text ≠ [] := by
  fun_induction scan blankLine text with
  | case1 => intro segment inside; cases inside
  | case2 => intro segment inside; cases inside
  | case3 blankLine c rest first cut ih =>
    intro segment inside
    rcases List.mem_cons.mp inside with rfl | later
    · exact nextSegment_ne_nil cut
    · exact ih segment later

/-- Segments that fit one after another, between the text before them and the text after them. -/
def Fitting (before : List Char) : List Segment → List Char → Prop
  | [], _ => True
  | segment :: later, after =>
    segment.Fits before (later.flatMap Segment.text ++ after) ∧
      Fitting (before ++ segment.text) later after

theorem fitting_append {before after : List Char} {first second : List Segment} :
    Fitting before (first ++ second) after ↔
      Fitting before first (second.flatMap Segment.text ++ after) ∧
        Fitting (before ++ first.flatMap Segment.text) second after := by
  induction first generalizing before with
  | nil => simp [Fitting]
  | cons segment first ih => simp [Fitting, ih, and_assoc]

/-- The segments of a scan fit one after another in front of what is left, when the scan begins with
what is before the text. -/
theorem fitting_scan_append {blankLine : Bool} {before text : List Char}
    (line : blankLine = blankLineAfter true before) :
    Fitting before (scan blankLine text).segments
      (text.drop (Segment.width (scan blankLine text).segments)) := by
  fun_induction scan blankLine text generalizing before with
  | case1 => trivial
  | case2 => trivial
  | case3 blankLine c rest segment cut ih =>
    subst line
    have parts := List.prefix_iff_eq_append.mp (nextSegment_isPrefix cut)
    change segment.Fits before (List.flatMap _ _ ++ (c :: rest).drop (segment.text.length + _)) ∧
      Fitting (before ++ segment.text) _ ((c :: rest).drop (segment.text.length + _))
    rw [← List.drop_drop, flatMap_text_scan_append]
    exact ⟨fits_of_nextSegment cut parts, ih (blankLineAfter_append ..).symm⟩

theorem fitting_scan {blankLine : Bool} {before text : List Char}
    (line : blankLine = blankLineAfter true before)
    (whole : (scan blankLine text).failure? = none) :
    Fitting before (scan blankLine text).segments [] := by
  have fitting : Fitting before (scan blankLine text).segments _ := fitting_scan_append line
  simpa [width_scan whole] using fitting

/-- Segments that make up a text, none of them empty, each a segment where it stands. -/
structure Tiles (segments : List Segment) (text : List Char) : Prop where
  whole : segments.flatMap Segment.text = text
  nonempty : ∀ segment ∈ segments, segment.text ≠ []
  fits : ∀ earlier segment later, segments = earlier ++ segment :: later →
    segment.Fits (earlier.flatMap Segment.text) (later.flatMap Segment.text)

theorem tiles_scan {text : List Char} (whole : (scan true text).failure? = none) :
    Tiles (scan true text).segments text where
  whole := flatMap_text_scan whole
  nonempty := text_ne_nil_of_scan
  fits := by
    intro earlier segment later split
    have fitting : Fitting [] (scan true text).segments [] := fitting_scan rfl whole
    rw [split, fitting_append] at fitting
    simpa using fitting.2.1

theorem Tiles.spelled {segments : List Segment} {text lexeme : List Char} {kind : TokenKind}
    {value : String} (tiles : Tiles segments text)
    (inside : .lexeme kind value lexeme ∈ segments) : Spelled kind value lexeme := by
  obtain ⟨earlier, later, here⟩ := List.append_of_mem inside
  cases tiles.fits earlier _ later here with
  | lexeme spelled _ => exact spelled

namespace Token

/-- A text that is cut into tokens is tiled by segments, each of which is a blank, a comment or a
lexeme where it stands. The tokens are those of the lexemes in order, each at the offset of its
segment, and one end of input at the end of the text. -/
theorem tiling_of_tokenize {source : String} {tokens : List Token}
    (cut : tokenize source = .ok tokens) :
    ∃ segments, Tiles segments source.toList ∧
      (∀ kind value text, .lexeme kind value text ∈ segments →
        ∀ kind' value', Spelled kind' value' text ↔ kind' = kind ∧ value' = value) ∧
      ∃ front, tokens = front ++ [endOfInput source.length] ∧
        (∀ token ∈ front, token.kind ≠ .endOfInput) ∧
        front = (withEarlier segments).filterMap fun entry =>
          entry.2.token? (entry.1.flatMap Segment.text).length := by
  obtain ⟨whole, split⟩ := tokenize_eq_ok_iff.mp cut
  have tiles := tiles_scan whole
  refine ⟨(scan true source.toList).segments, tiles, fun kind value text inside kind' value' => ?_,
    frontTokens source, split, fun _ => kind_ne_endOfInput_of_mem, ?_⟩
  · have spelled := tiles.spelled inside
    constructor
    · exact spelled.unique
    · rintro ⟨rfl, rfl⟩
      exact spelled
  · rw [frontTokens, Segment.tokens_eq_filterMap]
    simp only [Nat.zero_add]

/-- A word between comments, and a string that is a quote. -/
theorem tiling_of_tokenize_comments :
    tokenize "#a\nb/*/ */\"\\\"\"//" =
        .ok [⟨.identifier, "b", 3⟩, ⟨.string, "\"", 10⟩, ⟨.endOfInput, "", 16⟩] ∧
      ∃ segments, Tiles segments "#a\nb/*/ */\"\\\"\"//".toList ∧
        ((withEarlier segments).filterMap fun entry =>
          entry.2.token? (entry.1.flatMap Segment.text).length) =
            [⟨.identifier, "b", 3⟩, ⟨.string, "\"", 10⟩] := by
  have cut : tokenize "#a\nb/*/ */\"\\\"\"//" =
      .ok [⟨.identifier, "b", 3⟩, ⟨.string, "\"", 10⟩, ⟨.endOfInput, "", 16⟩] := by
    cbv
  obtain ⟨segments, tiles, -, front, split, -, tokens⟩ := tiling_of_tokenize cut
  have before := congrArg List.dropLast split
  rw [List.dropLast_concat, tokens] at before
  exact ⟨cut, segments, tiles, before.symm⟩

end Token

end DotGraph
