import DotGraph.Proofs.Retiling

/-!
# Blanks and comments at the edges of lexemes

Where a lexeme begins or ends, blanks and comments can be put into a text, and all that is cut from
it besides stays what it is (`scan_insert`). What is before the place is ended by them as it was by
what came next; what is after it can tell only whether its line is blank so far, which it is on
neither account once a lexeme stands there.
-/

namespace DotGraph

open Text Lexeme

/-- A text that means nothing wherever it stands between lexemes: blanks, block comments, and line
comments with the newlines that end them. A number sign is not among them, as it opens a comment in
some places only. -/
inductive Trivia : List Char → Prop
  | nil : Trivia []
  | blank {c : Char} {rest : List Char} : isBlank c = true → Trivia rest → Trivia (c :: rest)
  | block {body rest : List Char} :
      (∀ front, front ++ ['*', '/'] <+: body ++ ['*', '/'] → front = body) → Trivia rest →
      Trivia ('/' :: '*' :: (body ++ ['*', '/'] ++ rest))
  | line {body rest : List Char} : '\n' ∉ body → Trivia rest →
      Trivia ('/' :: '/' :: (body ++ '\n' :: rest))

theorem Trivia.separates {text : List Char} (trivia : Trivia text) :
    ∀ c ∈ text.head?, Separates c := by
  intro c first
  cases trivia with
  | nil => cases first
  | blank blank _ =>
    cases first
    exact separates_of_isBlank blank
  | block _ _ | line _ _ =>
    cases first
    exact separates_slash

/-- Trivia makes segments without tokens, between any texts. -/
theorem Trivia.exists_segments {text : List Char} (trivia : Trivia text) :
    ∃ segments : List Segment, segments.flatMap Segment.text = text ∧
      (∀ offset, Segment.tokens offset segments = []) ∧
      ∀ before after, Fitting before segments after := by
  induction trivia with
  | nil => exact ⟨[], rfl, fun _ => rfl, fun _ _ => trivial⟩
  | @blank c rest blank _ ih =>
    obtain ⟨segments, rfl, silent, fitting⟩ := ih
    exact ⟨.trivia [c] :: segments, rfl, fun _ => silent _, fun _ _ => ⟨.blank blank, fitting _ _⟩⟩
  | @block body rest first _ ih =>
    obtain ⟨segments, rfl, silent, fitting⟩ := ih
    exact ⟨.trivia ('/' :: '*' :: (body ++ ['*', '/'])) :: segments, rfl, fun _ => silent _,
      fun _ _ => ⟨.block first, fitting _ _⟩⟩
  | @line body rest noNewline _ ih =>
    obtain ⟨segments, rfl, silent, fitting⟩ := ih
    refine ⟨.trivia ('/' :: '/' :: body) :: .trivia ['\n'] :: segments, rfl, fun _ => silent _,
      fun _ _ => ⟨.slashes noNewline ?_, .blank rfl, fitting _ _⟩⟩
    rintro c ⟨⟩
    rfl

/-! ### What comes after a segment -/

def Segment.IsLexeme (segment : Segment) : Prop :=
  ∃ kind value text, segment = .lexeme kind value text

/-- Trivia behind a segment, or behind some of what follows it, changes nothing on it, unless it
came between a line comment and the end of its line. -/
theorem Segment.Fits.insert {before inner after more : List Char} {segment : Segment}
    (separated : ∀ c ∈ more.head?, Separates c)
    (edge : inner = [] → segment.IsLexeme ∨ ∃ c ∈ after.head?, c ≠ '\n')
    (fits : segment.Fits before (inner ++ after)) :
    segment.Fits before (inner ++ (more ++ after)) := by
  have line (comment : ¬ segment.IsLexeme) (ends : ∀ c ∈ (inner ++ after).head?, c = '\n') :
      ∀ c ∈ (inner ++ (more ++ after)).head?, c = '\n' := by
    cases inner with
    | nil =>
      obtain ⟨c, first, other⟩ := (edge rfl).resolve_left comment
      exact absurd (ends c first) other
    | cons d inner => exact ends
  cases fits with
  | blank blank => exact .blank blank
  | slashes noNewline ends => exact .slashes noNewline (line (by rintro ⟨_, _, _, ⟨⟩⟩) ends)
  | numberSign blankLine noNewline ends =>
    exact .numberSign blankLine noNewline (line (by rintro ⟨_, _, _, ⟨⟩⟩) ends)
  | block first => exact .block first
  | lexeme spelled alone =>
    refine .lexeme spelled ?_
    cases more with
    | nil => exact alone
    | cons c more => exact alone.of_append.append_cons (separated c rfl) (more ++ after)

theorem Fitting.insert {before after more : List Char} {segments : List Segment}
    (separated : ∀ c ∈ more.head?, Separates c)
    (edge : ∀ segment ∈ segments.getLast?, segment.IsLexeme ∨ ∃ c ∈ after.head?, c ≠ '\n')
    (fitting : Fitting before segments after) : Fitting before segments (more ++ after) := by
  induction segments generalizing before with
  | nil => trivial
  | cons segment later ih =>
    obtain ⟨fits, others⟩ := fitting
    cases later with
    | nil => exact ⟨fits.insert separated fun _ => edge segment rfl, trivial⟩
    | cons next later =>
      rw [List.getLast?_cons_cons] at edge
      refine ⟨fits.insert separated fun none => ?_, ih edge others⟩
      -- the next segment stands between
      obtain ⟨c, rest, text⟩ := others.1.eq_cons
      rw [List.flatMap_cons, text] at none
      cases none

/-! ### What comes before a segment -/

theorem Lexeme.Spelled.isBlank_head {kind : TokenKind} {value : String} {c : Char}
    {rest : List Char} (spelled : Spelled kind value (c :: rest)) : isBlank c = false := by
  rw [Bool.eq_false_iff]
  intro blank
  have cut := nextSegment_of_spelled spelled (unextended_nil ..) (List.append_nil _) true
  rw [nextSegment_blank blank] at cut
  cases cut

/-- The last bracket closes. -/
theorem Lexeme.Bracketed.getLast? {text : List Char} (bracketed : Bracketed text) :
    text.getLast? = some '>' := by
  obtain ⟨opens, balance, before⟩ := bracketed
  obtain ⟨rest, rfl⟩ := List.head?_eq_some_iff.mp opens
  rcases List.eq_nil_or_concat rest with rfl | ⟨front, c, rfl⟩
  · cases balance
  · rw [List.concat_eq_append] at *
    have inside : '<' :: front <+: '<' :: (front ++ [c]) := List.prefix_append ('<' :: front) [c]
    have more := before ('<' :: front) inside (by simp) (by simp)
    rw [← List.cons_append, List.count_append, List.count_append] at balance
    have closes : c = '>' := by
      apply Decidable.byContradiction
      intro other
      have none : [c].count '>' = 0 := List.count_eq_zero.mpr (by simpa using Ne.symm other)
      omega
    rw [closes, ← List.cons_append, List.getLast?_concat]

theorem Lexeme.Spelled.isBlank_getLast {kind : TokenKind} {value : String} {text : List Char}
    (spelled : Spelled kind value text) {c : Char} (last : text.getLast? = some c) :
    isBlank c = false := by
  have inside := List.mem_of_getLast? last
  cases spelled with
  | string =>
    rw [List.getLast?_concat] at last
    cases last
    rfl
  | html bracketed =>
    cases bracketed.getLast?.symm.trans last
    rfl
  | arrow | line =>
    cases last
    rfl
  | numeral isNumeral =>
    rcases isNumeral.isDigit_or_eq_of_mem inside with digit | rfl | rfl
    · exact isBlank_eq_false_of_isDigit digit
    all_goals rfl
  | punctuation found =>
    cases last
    exact Spelled.isBlank_head (.punctuation found)
  | identifier start word =>
    rw [Bool.eq_false_iff]
    intro blank
    rcases List.mem_cons.mp inside with rfl | part
    · cases blank.symm.trans (isBlank_eq_false_of_isIdentifierStart start)
    · cases (word c part).symm.trans (separates_of_isBlank blank).word

/-- No line is blank after a lexeme on it. -/
theorem blankLineAfter_of_spelled {kind : TokenKind} {value : String} {text : List Char}
    (spelled : Spelled kind value text) (blankLine : Bool) :
    blankLineAfter blankLine text = false := by
  obtain ⟨c, last⟩ : ∃ c, text.getLast? = some c := by
    obtain ⟨c, rest, rfl⟩ := spelled.eq_cons
    exact ⟨_, List.getLast?_eq_some_getLast (List.cons_ne_nil c rest)⟩
  have visible := spelled.isBlank_getLast last
  have noNewline : c ≠ '\n' := by
    rintro rfl
    cases visible
  obtain ⟨front, rfl⟩ := List.getLast?_eq_some_iff.mp last
  rw [blankLineAfter_append]
  simp [blankLineAfter, visible, noNewline]

theorem blankLineAfter_mono {text : List Char} (blank : blankLineAfter false text = true)
    (blankLine : Bool) : blankLineAfter blankLine text = true := by
  induction text generalizing blankLine with
  | nil => cases blank
  | cons c text ih =>
    change blankLineAfter (c == '\n' || false && isBlank c) text = true at blank
    change blankLineAfter (c == '\n' || blankLine && isBlank c) text = true
    cases newline : c == '\n' with
    | true =>
      rw [newline] at blank
      exact blank
    | false =>
      rw [newline] at blank
      exact ih blank _

/-- A lexeme does not depend on what stands before it. -/
theorem Segment.fits_lexeme_iff {before after text : List Char} {kind : TokenKind}
    {value : String} : (Segment.lexeme kind value text).Fits before after ↔
      Spelled kind value text ∧ Unextended kind text after := by
  constructor
  · intro fits
    cases fits with
    | lexeme spelled alone => exact ⟨spelled, alone⟩
  · rintro ⟨spelled, alone⟩
    exact .lexeme spelled alone

theorem Segment.Fits.of_before {before other after : List Char} {segment : Segment}
    (line : BlankLine before → BlankLine other) (fits : segment.Fits before after) :
    segment.Fits other after := by
  cases fits with
  | blank blank => exact .blank blank
  | slashes noNewline ends => exact .slashes noNewline ends
  | numberSign blankLine noNewline ends => exact .numberSign (line blankLine) noNewline ends
  | block first => exact .block first
  | lexeme spelled alone => exact .lexeme spelled alone

/-- What fits on a line that is not blank fits anywhere: its number signs stand on later lines. -/
theorem Fitting.of_before {before after : List Char} {segments : List Segment}
    (line : blankLineAfter true before = false) (fitting : Fitting before segments after)
    (other : List Char) : Fitting other segments after := by
  have blank (text : List Char) (there : BlankLine (before ++ text)) :
      BlankLine (other ++ text) := by
    rw [← blankLineAfter_iff, blankLineAfter_append] at there ⊢
    rw [line] at there
    exact blankLineAfter_mono there _
  clear line
  induction segments generalizing before other with
  | nil => trivial
  | cons segment later ih =>
    refine ⟨fitting.1.of_before (by simpa using blank []), ih fitting.2 _ fun text => ?_⟩
    rw [List.append_assoc, List.append_assoc]
    exact blank (segment.text ++ text)

/-! ### Trivia between segments -/

/-- Trivia where a lexeme ends or begins makes segments of its own and changes no other. -/
theorem scan_insert {text more : List Char} {front back : List Segment}
    (cut : scan true text = ⟨front ++ back, none⟩) (trivia : Trivia more)
    (edge : (∃ segment ∈ front.getLast?, segment.IsLexeme) ∨
      ∃ segment ∈ back.head?, segment.IsLexeme) :
    ∃ inner : List Segment, inner.flatMap Segment.text = more ∧
      (∀ offset, Segment.tokens offset inner = []) ∧
      scan true (front.flatMap Segment.text ++ more ++ back.flatMap Segment.text) =
        ⟨front ++ inner ++ back, none⟩ := by
  obtain ⟨inner, rfl, silent, fitting⟩ := trivia.exists_segments
  have whole : Fitting [] (scan true text).segments [] := fitting_scan rfl (by rw [cut])
  rw [cut, fitting_append, List.append_nil, List.nil_append] at whole
  obtain ⟨first, second⟩ := whole
  have apart : (∀ segment ∈ front.getLast?,
      segment.IsLexeme ∨ ∃ c ∈ (back.flatMap Segment.text).head?, c ≠ '\n') ∧
      ∀ before, Fitting before back [] := by
    rcases edge with ⟨_, last, kind, value, text, rfl⟩ | ⟨_, next, kind, value, text, rfl⟩
    · constructor
      · intro segment here
        cases last.symm.trans here
        exact .inl ⟨kind, value, text, rfl⟩
      · obtain ⟨earlier, rfl⟩ := List.getLast?_eq_some_iff.mp last
        obtain ⟨spelled, -⟩ := Segment.fits_lexeme_iff.mp (fitting_append.mp first).2.1
        apply second.of_before
        rw [List.flatMap_append, List.flatMap_singleton, blankLineAfter_append]
        exact blankLineAfter_of_spelled spelled _
    · obtain ⟨later, rfl⟩ := List.head?_eq_some_iff.mp next
      obtain ⟨spelled, alone⟩ := Segment.fits_lexeme_iff.mp second.1
      constructor
      · intro segment _
        obtain ⟨c, rest, rfl⟩ := spelled.eq_cons
        have visible := spelled.isBlank_head
        refine .inr ⟨c, rfl, ?_⟩
        rintro rfl
        cases visible
      · intro before
        refine ⟨.lexeme spelled alone, second.2.of_before ?_ _⟩
        rw [blankLineAfter_append]
        exact blankLineAfter_of_spelled spelled _
  refine ⟨inner, rfl, silent, ?_⟩
  have all : Fitting [] (front ++ inner ++ back) [] := by
    rw [fitting_append, fitting_append, List.append_nil]
    exact ⟨⟨first.insert trivia.separates apart.1, fitting _ _⟩, apart.2 _⟩
  rw [← List.flatMap_append, ← List.flatMap_append]
  exact scan_of_fitting all

end DotGraph
