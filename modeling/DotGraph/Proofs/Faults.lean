import DotGraph.Proofs.Retiling

/-!
# Where a text cannot be cut

Four things stop the cutting of a text: a string, a bracketed text or a block comment that nothing
closes, and a character that begins nothing (`Fault`). Said without the scanners, they are what each
of them misses when it finds nothing. A text fails where the segments before it end, for the one
fault that stands there (`Token.tokenize_fault`); what is before that place does not depend on what
comes from there on.
-/

namespace DotGraph

open Text Lexeme

namespace Lexeme

/-! ### What the scanners miss -/

theorem commentTail?_eq_none_iff {s : List Char} :
    commentTail? s = none ↔ ¬ ['*', '/'] <:+: s := by
  fun_induction commentTail? s with
  | case1 rest =>
    have inside : ['*', '/'] <:+: '*' :: '/' :: rest := ⟨[], rest, rfl⟩
    simp [inside]
  | case2 c rest noEnd ih =>
    have noFront : ¬ ['*', '/'] <+: c :: rest := by
      rintro ⟨later, same⟩
      obtain ⟨rfl, rfl⟩ := List.cons.inj same
      exact noEnd later rfl rfl
    rw [Option.map_eq_none_iff, ih, List.infix_cons_iff, or_iff_right noFront]
  | case3 => simp

theorem literalBody?_eq_none_iff {s : List Char} :
    literalBody? s = none ↔ ∀ body value, Literal body value → ¬ body ++ ['"'] <+: s := by
  constructor
  · rintro none body value literal ⟨later, rfl⟩
    have found := literal.literalBody?_eq later
    rw [List.append_assoc, List.singleton_append, found] at none
    cases none
  · intro unclosed
    cases found : literalBody? s with
    | none => rfl
    | some body =>
      obtain ⟨value, literal⟩ := literal_of_literalBody? found
      exact absurd (literalBody?_isPrefix found) (unclosed body value literal)

/-- While no bracket closes the outermost one, more brackets are open than closed. -/
theorem count_lt_of_htmlTail?_eq_none {depth : Nat} {s front : List Char}
    (none : htmlTail? depth s = none) (inside : front <+: s) :
    front.count '>' < front.count '<' + (depth + 1) := by
  fun_induction htmlTail? depth s generalizing front with
  | case1 depth =>
    simp [List.prefix_nil.mp inside]
  | case2 => cases none
  | case3 depth rest ih | case4 depth rest ih =>
    cases front with
    | nil => simp
    | cons d front =>
      obtain ⟨rfl, within⟩ := List.cons_prefix_cons.mp inside
      have more := ih (Option.map_eq_none_iff.mp none) within
      simp only [List.count_cons_self, List.count_cons_of_ne, ne_eq, Char.reduceEq,
        not_false_eq_true]
      omega
  | case5 depth c rest outermost inner noOpening ih =>
    have noClosing : c ≠ '>' := by
      cases depth with
      | zero => exact outermost rfl
      | succ depth => exact inner depth rfl
    cases front with
    | nil => simp
    | cons d front =>
      obtain ⟨rfl, within⟩ := List.cons_prefix_cons.mp inside
      have more := ih (Option.map_eq_none_iff.mp none) within
      rwa [List.count_cons_of_ne noClosing, List.count_cons_of_ne noOpening]

theorem htmlTail?_eq_none_iff {rest : List Char} :
    htmlTail? 0 rest = none ↔
      ∀ text, text <+: '<' :: rest → text ≠ [] → text.count '>' ≠ text.count '<' := by
  constructor
  · intro none text inside some
    cases text with
    | nil => exact absurd rfl some
    | cons d front =>
      obtain ⟨rfl, within⟩ := List.cons_prefix_cons.mp inside
      have more := count_lt_of_htmlTail?_eq_none none within
      simp only [List.count_cons_self, List.count_cons_of_ne, ne_eq, Char.reduceEq,
        not_false_eq_true]
      omega
  · intro unbalanced
    cases found : htmlTail? 0 rest with
    | none => rfl
    | some tail =>
      obtain ⟨inside, closes⟩ := htmlTail?_eq_some_iff.mp found
      have balance := (bracketed_cons_iff.mpr closes).2.1
      exact absurd balance (unbalanced _ ((List.prefix_cons_inj '<').mpr inside) (by simp))

theorem numeral?_eq_none_iff {s : List Char} :
    numeral? s = none ↔ ∀ text, text <+: s → ¬ Numeral text := by
  constructor
  · rintro none text ⟨later, rfl⟩ isNumeral
    obtain ⟨numeral, found, -⟩ := numeral?_append isNumeral later
    cases none.symm.trans found
  · intro noNumeral
    cases found : numeral? s with
    | none => rfl
    | some text => exact absurd (numeral_of_numeral? found) (noNumeral _ (numeral?_isPrefix found))

end Lexeme

/-! ### Faults -/

/-- A comment opens where a text comes after another one. -/
def OpensComment (before text : List Char) : Prop :=
  ['/', '/'] <+: text ∨ ['/', '*'] <+: text ∨ text.head? = some '#' ∧ BlankLine before

/-- A character that is neither a quote nor an opening bracket and begins nothing where it stands:
no blank, comment, operator, numeral, punctuation mark or word. -/
structure Unexpected (before : List Char) (c : Char) (rest : List Char) : Prop where
  quote : c ≠ '"'
  bracket : c ≠ '<'
  visible : isBlank c = false
  comment : ¬ OpensComment before (c :: rest)
  operator : ¬ ['-', '>'] <+: c :: rest ∧ ¬ ['-', '-'] <+: c :: rest
  numeral : ∀ text, text <+: c :: rest → ¬ Numeral text
  mark : TokenKind.ofPunctuation? c = none
  word : isIdentifierStart c = false

/-- Why no segment begins with a text that comes after another one. -/
inductive Fault (before : List Char) : List Char → Reason → Prop
  | string {rest : List Char} :
      (∀ body value, Literal body value → ¬ body ++ ['"'] <+: rest) →
      Fault before ('"' :: rest) .unterminatedString
  | html {rest : List Char} :
      (∀ text, text <+: '<' :: rest → text ≠ [] → text.count '>' ≠ text.count '<') →
      Fault before ('<' :: rest) .unterminatedHtml
  | comment {rest : List Char} : ¬ ['*', '/'] <:+: rest →
      Fault before ('/' :: '*' :: rest) .unterminatedComment
  | character {c : Char} {rest : List Char} : Unexpected before c rest →
      Fault before (c :: rest) (.unexpectedCharacter c)

theorem pair_prefix_iff {a b c : Char} {rest : List Char} :
    [a, b] <+: c :: rest ↔ c = a ∧ rest.head? = some b := by
  cases rest <;> simp [List.cons_prefix_cons, eq_comm]

theorem nextSegment_eq_nextBare {before rest : List Char} {c : Char} (visible : isBlank c = false)
    (noComment : ¬ OpensComment before (c :: rest)) (noQuote : c ≠ '"') (noBracket : c ≠ '<')
    (noOperator : ¬ ['-', '>'] <+: c :: rest ∧ ¬ ['-', '-'] <+: c :: rest) :
    nextSegment (blankLineAfter true before) c rest = nextBare c rest := by
  rw [OpensComment, pair_prefix_iff, pair_prefix_iff, List.head?_cons, Option.some.injEq,
    ← blankLineAfter_iff] at noComment
  rw [pair_prefix_iff, pair_prefix_iff] at noOperator
  exact nextSegment_of_unopened visible (fun opens => noComment (opens.imp_right .inr))
    (fun opens => noComment (.inr (.inl opens))) noQuote noBracket noOperator.1 noOperator.2

/-- Only what a block comment misses stops a comment. -/
theorem fault_of_opensComment {before rest : List Char} {c : Char} {reason : Reason}
    (opens : OpensComment before (c :: rest))
    (fails : nextSegment (blankLineAfter true before) c rest = .error reason) :
    Fault before (c :: rest) reason := by
  rcases opens with ⟨later, same⟩ | ⟨later, same⟩ | ⟨first, blankLine⟩
  · obtain ⟨rfl, rfl⟩ := List.cons.inj same
    cases fails
  · obtain ⟨rfl, rfl⟩ := List.cons.inj same
    change nextSegment _ '/' ('*' :: later) = _ at fails
    rw [nextSegment_block] at fails
    cases found : commentTail? later with
    | some tail =>
      rw [found] at fails
      cases fails
    | none =>
      rw [found] at fails
      cases fails
      exact .comment (commentTail?_eq_none_iff.mp found)
  · obtain rfl := Option.some.inj first
    rw [blankLineAfter_iff.mpr blankLine, nextSegment_numberSign] at fails
    cases fails

theorem fault_of_nextSegment {before rest : List Char} {c : Char} {reason : Reason}
    (fails : nextSegment (blankLineAfter true before) c rest = .error reason) :
    Fault before (c :: rest) reason := by
  by_cases comment : OpensComment before (c :: rest)
  · exact fault_of_opensComment comment fails
  by_cases visible : isBlank c = true
  · rw [nextSegment_blank visible] at fails
    cases fails
  by_cases quote : c = '"'
  · subst quote
    rw [nextSegment_quote] at fails
    cases found : literalBody? rest with
    | some body =>
      rw [found] at fails
      cases fails
    | none =>
      rw [found] at fails
      cases fails
      exact .string (literalBody?_eq_none_iff.mp found)
  by_cases bracket : c = '<'
  · subst bracket
    rw [nextSegment_bracket] at fails
    cases found : htmlTail? 0 rest with
    | some tail =>
      rw [found] at fails
      cases fails
    | none =>
      rw [found] at fails
      cases fails
      exact .html (htmlTail?_eq_none_iff.mp found)
  by_cases arrow : ['-', '>'] <+: c :: rest
  · obtain ⟨later, same⟩ := arrow
    obtain ⟨rfl, rfl⟩ := List.cons.inj same
    cases fails
  by_cases line : ['-', '-'] <+: c :: rest
  · obtain ⟨later, same⟩ := line
    obtain ⟨rfl, rfl⟩ := List.cons.inj same
    cases fails
  rw [Bool.not_eq_true] at visible
  rw [nextSegment_eq_nextBare visible comment quote bracket ⟨arrow, line⟩, nextBare] at fails
  cases numeral : numeral? (c :: rest) with
  | some text =>
    rw [numeral] at fails
    cases fails
  | none =>
    cases mark : TokenKind.ofPunctuation? c with
    | some kind =>
      rw [numeral, mark] at fails
      cases fails
    | none =>
      simp only [numeral, mark] at fails
      split at fails
      · cases fails
      · next word =>
        cases fails
        exact .character ⟨quote, bracket, visible, comment, ⟨arrow, line⟩,
          numeral?_eq_none_iff.mp numeral, mark, Bool.eq_false_iff.mpr word⟩

theorem Unexpected.nextSegment_eq {before rest : List Char} {c : Char}
    (unexpected : Unexpected before c rest) :
    nextSegment (blankLineAfter true before) c rest = .error (.unexpectedCharacter c) := by
  rw [nextSegment_eq_nextBare unexpected.visible unexpected.comment unexpected.quote
      unexpected.bracket unexpected.operator,
    nextBare, numeral?_eq_none_iff.mpr unexpected.numeral, unexpected.mark]
  exact if_neg (Bool.eq_false_iff.mp unexpected.word)

/-- The first segment of a text is missing for the fault that stands there. -/
theorem nextSegment_eq_error_iff {before rest : List Char} {c : Char} {reason : Reason} :
    nextSegment (blankLineAfter true before) c rest = .error reason ↔
      Fault before (c :: rest) reason := by
  refine ⟨fault_of_nextSegment, fun fault => ?_⟩
  cases fault with
  | string unclosed => rw [nextSegment_quote, literalBody?_eq_none_iff.mpr unclosed]
  | html unbalanced => rw [nextSegment_bracket, htmlTail?_eq_none_iff.mpr unbalanced]
  | comment noEnd => rw [nextSegment_block, commentTail?_eq_none_iff.mpr noEnd]
  | character unexpected => exact unexpected.nextSegment_eq

theorem Fault.unique {before text : List Char} {reason other : Reason}
    (fault : Fault before text reason) (fault' : Fault before text other) : other = reason := by
  cases text with
  | nil => cases fault
  | cons c rest =>
    have first := nextSegment_eq_error_iff.mpr fault
    have second := nextSegment_eq_error_iff.mpr fault'
    cases first.symm.trans second
    rfl

/-- Characters that begin something in some places only, where they begin nothing: a number sign
after something visible on its line, and a minus or a slash without what it needs behind it. -/
inductive Stray (before : List Char) : Char → List Char → Prop
  | numberSign {rest : List Char} : ¬ BlankLine before → Stray before '#' rest
  | minus {rest : List Char} :
      (∀ d ∈ rest.head?, d ≠ '-' ∧ d ≠ '>' ∧ d.isDigit = false) →
      (∀ d later, rest = '.' :: d :: later → d.isDigit = false) → Stray before '-' rest
  | slash {rest : List Char} : (∀ d ∈ rest.head?, d ≠ '/' ∧ d ≠ '*') → Stray before '/' rest

/-- A number goes on with a digit, or with a point and a digit. -/
theorem Lexeme.Unsigned.opens {text : List Char} (unsigned : Unsigned text) :
    ∃ d rest, d.isDigit = true ∧ (text = d :: rest ∨ text = '.' :: d :: rest) := by
  cases unsigned with
  | fraction present allDigits =>
    obtain ⟨d, rest, rfl⟩ := List.exists_cons_of_ne_nil present
    exact ⟨d, rest, allDigits d List.mem_cons_self, .inr rfl⟩
  | whole present allDigits =>
    obtain ⟨d, rest, rfl⟩ := List.exists_cons_of_ne_nil present
    exact ⟨d, rest, allDigits d List.mem_cons_self, .inl rfl⟩
  | @decimal _ digits present allDigits =>
    obtain ⟨d, rest, rfl⟩ := List.exists_cons_of_ne_nil present
    exact ⟨d, rest ++ '.' :: digits, allDigits d List.mem_cons_self, .inl rfl⟩

theorem Stray.unexpected {before rest : List Char} {c : Char} (stray : Stray before c rest) :
    Unexpected before c rest := by
  have noNumeral (other : c ≠ '-') (noDigit : c.isDigit = false) (noPoint : c ≠ '.') :
      ∀ text, text <+: c :: rest → ¬ Numeral text := by
    intro text inside isNumeral
    obtain ⟨d, later, rfl, first⟩ := isNumeral.eq_cons
    obtain ⟨rfl, -⟩ := List.cons_prefix_cons.mp inside
    rcases first with digit | point | minus
    · cases digit.symm.trans noDigit
    · exact noPoint point
    · exact other minus
  cases stray with
  | numberSign visible =>
    exact ⟨by decide, by decide, rfl, by simp [OpensComment, List.cons_prefix_cons, visible],
      by simp [List.cons_prefix_cons], noNumeral (by decide) rfl (by decide), rfl, rfl⟩
  | minus next point =>
    refine ⟨by decide, by decide, rfl, by simp [OpensComment, List.cons_prefix_cons], ?_, ?_, rfl,
      rfl⟩
    · rw [pair_prefix_iff, pair_prefix_iff]
      exact ⟨fun arrow => (next _ arrow.2).2.1 rfl, fun line => (next _ line.2).1 rfl⟩
    · intro text inside isNumeral
      cases isNumeral with
      | positive unsigned =>
        obtain ⟨d, later, rfl, first⟩ := unsigned.eq_cons
        obtain ⟨rfl, -⟩ := List.cons_prefix_cons.mp inside
        exact absurd first (by decide)
      | negative unsigned =>
        obtain ⟨-, within⟩ := List.cons_prefix_cons.mp inside
        obtain ⟨d, later, digit, rfl | rfl⟩ := unsigned.opens
        · obtain ⟨more, rfl⟩ := within
          cases digit.symm.trans (next d rfl).2.2
        · obtain ⟨more, rfl⟩ := within
          cases digit.symm.trans (point d _ rfl)
  | slash next =>
    refine ⟨by decide, by decide, rfl, ?_, by simp [List.cons_prefix_cons],
      noNumeral (by decide) rfl (by decide), rfl, rfl⟩
    rw [OpensComment, pair_prefix_iff, pair_prefix_iff]
    rintro (slashes | block | sign)
    · exact (next _ slashes.2).1 rfl
    · exact (next _ block.2).2 rfl
    · cases sign.1

/-! ### Where a scan stops -/

/-- What is cut off at first does not depend on what comes after all of it. -/
theorem Segment.Fits.of_append {before inner after : List Char} {segment : Segment}
    (fits : segment.Fits before (inner ++ after)) : segment.Fits before inner := by
  have line (ends : ∀ c ∈ (inner ++ after).head?, c = '\n') : ∀ c ∈ inner.head?, c = '\n' := by
    intro c first
    cases inner with
    | nil => cases first
    | cons d inner => exact ends c first
  cases fits with
  | blank blank => exact .blank blank
  | slashes noNewline ends => exact .slashes noNewline (line ends)
  | numberSign blankLine noNewline ends => exact .numberSign blankLine noNewline (line ends)
  | block first => exact .block first
  | lexeme spelled alone => exact .lexeme spelled alone.of_append

theorem Fitting.nil_of_append {before after : List Char} {segments : List Segment}
    (fitting : Fitting before segments after) : Fitting before segments [] := by
  induction segments generalizing before with
  | nil => trivial
  | cons segment later ih =>
    refine ⟨?_, ih fitting.2⟩
    rw [List.append_nil]
    exact fitting.1.of_append

theorem scan_of_error {blankLine : Bool} {c : Char} {rest : List Char} {reason : Reason}
    (fails : nextSegment blankLine c rest = .error reason) :
    scan blankLine (c :: rest) = ⟨[], some reason⟩ := by
  rw [scan]
  split
  · next found =>
    cases fails.symm.trans found
    rfl
  · next cut => cases fails.symm.trans cut

/-- After some of the segments of a scan, the scan goes on with the others. -/
theorem scan_drop {blankLine : Bool} {text : List Char} {front later : List Segment}
    {failure? : Option Reason} (cut : scan blankLine text = ⟨front ++ later, failure?⟩) :
    scan (blankLineAfter blankLine (front.flatMap Segment.text))
      (text.drop (Segment.width front)) = ⟨later, failure?⟩ := by
  induction front generalizing blankLine text with
  | nil => exact cut
  | cons segment front ih =>
    cases text with
    | nil =>
      rw [scan] at cut
      cases cut
    | cons c rest =>
      cases first : nextSegment blankLine c rest with
      | error reason =>
        rw [scan_of_error first] at cut
        cases cut
      | ok next =>
        rw [scan_of_ok first] at cut
        cases found : scan (blankLineAfter blankLine next.text)
          ((c :: rest).drop next.text.length) with
        | mk segments reason? =>
          rw [found] at cut
          cases cut
          have others := ih found
          rwa [List.drop_drop, ← blankLineAfter_append] at others

section

variable {text : List Char} {front later : List Segment}

theorem take_width (split : (scan true text).segments = front ++ later) :
    text.take (Segment.width front) = front.flatMap Segment.text := by
  have whole := flatMap_text_scan_append true text
  rw [split, List.flatMap_append, List.append_assoc] at whole
  rw [width_eq]
  exact (congrArg _ whole.symm).trans (List.take_left' rfl)

/-- The text that some of the segments make up is cut into just these. -/
theorem scan_take_width (split : (scan true text).segments = front ++ later) :
    scan true (text.take (Segment.width front)) = ⟨front, none⟩ := by
  have fitting : Fitting [] (scan true text).segments _ := fitting_scan_append rfl
  rw [split, fitting_append] at fitting
  rw [take_width split]
  exact scan_of_fitting fitting.1.nil_of_append

theorem scan_drop_width (split : (scan true text).segments = front ++ later) :
    scan (blankLineAfter true (text.take (Segment.width front)))
      (text.drop (Segment.width front)) = ⟨later, (scan true text).failure?⟩ := by
  rw [take_width split]
  apply scan_drop
  rw [← split]

/-- Segments that end where a fault stands are all that there are. -/
theorem failure_of_fault (split : (scan true text).segments = front ++ later) {reason : Reason}
    (fault : Fault (text.take (Segment.width front)) (text.drop (Segment.width front)) reason) :
    later = [] ∧ (scan true text).failure? = some reason := by
  have others := scan_drop_width split
  cases found : text.drop (Segment.width front) with
  | nil =>
    rw [found] at fault
    cases fault
  | cons c rest =>
    rw [found] at fault others
    rw [scan_of_error (nextSegment_eq_error_iff.mpr fault)] at others
    obtain ⟨none, reason⟩ := Scan.mk.inj others
    exact ⟨none.symm, reason.symm⟩

end

/-- Where a scan stops, a fault stands. -/
theorem fault_of_scan {text : List Char} {reason : Reason}
    (fails : (scan true text).failure? = some reason) :
    Fault (text.take (Segment.width (scan true text).segments))
      (text.drop (Segment.width (scan true text).segments)) reason := by
  have stops := @scan_drop_width text _ [] (List.append_nil _).symm
  rw [fails] at stops
  cases found : text.drop (Segment.width (scan true text).segments) with
  | nil =>
    rw [found, scan] at stops
    cases stops
  | cons c rest =>
    rw [found] at stops
    apply nextSegment_eq_error_iff.mp
    cases first : nextSegment _ c rest with
    | error other =>
      rw [scan_of_error first] at stops
      cases stops
      rfl
    | ok segment =>
      rw [scan_of_ok first] at stops
      cases stops

theorem Fault.place_lt {text : List Char} {place : Nat} {reason : Reason}
    (fault : Fault (text.take place) (text.drop place) reason) : place < text.length := by
  apply Nat.lt_of_not_le
  intro beyond
  rw [List.drop_eq_nil_of_le beyond] at fault
  cases fault

/-- Segments of a text end at a place: a boundary of the scan of the text. -/
def Boundary (text : List Char) (place : Nat) : Prop :=
  ∃ front, front <+: (scan true text).segments ∧ Segment.width front = place

namespace Token

/-- The text before a boundary is cut into the tokens before it. -/
theorem tokenize_take {source : String} {front later : List Segment}
    (split : (scan true source.toList).segments = front ++ later) :
    tokenize (String.ofList (source.toList.take (Segment.width front))) =
      .ok (Segment.tokens 0 front ++ [endOfInput (Segment.width front)]) := by
  have cut := scan_take_width split
  have short : (source.toList.take (Segment.width front)).length = Segment.width front := by
    rw [take_width split, width_eq]
  refine tokenize_eq_ok_iff.mpr ⟨?_, ?_⟩
  · rw [String.toList_ofList, cut]
  · rw [frontTokens, String.toList_ofList, cut, String.length_ofList, short]

/-- A text is cut into tokens, or it fails at one place for one reason: a boundary of its scan
before the end, up to which it is cut into the tokens it has until then, and where one fault stands
and no other. It fails wherever a fault stands at a boundary, and what is stray there is such a
fault. -/
theorem tokenize_fault (source : String) :
    ((∃ tokens, tokenize source = .ok tokens) ∨
      ∃ place reason, tokenize source = .error (.ofOffset source place reason) ∧
        place < source.length ∧ Boundary source.toList place ∧
        tokenize (String.ofList (source.toList.take place)) =
          .ok (frontTokens source ++ [endOfInput place]) ∧
        ∀ other, Fault (source.toList.take place) (source.toList.drop place) other ↔
          other = reason) ∧
    (∀ place reason, Boundary source.toList place →
      Fault (source.toList.take place) (source.toList.drop place) reason →
      tokenize source = .error (.ofOffset source place reason)) ∧
    ∀ place c rest, source.toList.drop place = c :: rest →
      Stray (source.toList.take place) c rest →
      Fault (source.toList.take place) (c :: rest) (.unexpectedCharacter c) := by
  refine ⟨?_, ?_, fun _ _ _ _ stray => .character stray.unexpected⟩
  · cases found : (scan true source.toList).failure? with
    | none => exact .inl ⟨_, tokenize_of_none found⟩
    | some reason =>
      have fault := fault_of_scan found
      refine .inr ⟨_, reason, tokenize_of_some found, ?_, ⟨_, List.prefix_rfl, rfl⟩,
        tokenize_take (List.append_nil _).symm, fun other => ⟨fault.unique, ?_⟩⟩
      · rw [← String.length_toList]
        exact fault.place_lt
      · rintro rfl
        exact fault
  · rintro _ reason ⟨front, ⟨later, split⟩, rfl⟩ fault
    obtain ⟨rfl, fails⟩ := failure_of_fault split.symm fault
    rw [List.append_nil] at split
    rw [split]
    exact tokenize_of_some fails

/-- A number sign after a string, with what would open a string and a bracketed text before it and
what would open another one after it. -/
theorem tokenize_fault_numberSign :
    tokenize "\"\\\"/*<\" #<--" =
      .error (.ofOffset "\"\\\"/*<\" #<--" 8 (.unexpectedCharacter '#')) := by
  have cut : scan true "\"\\\"/*<\" #<--".toList =
      ⟨[.quoted ['\\', '"', '/', '*', '<'], .trivia [' ']], some (.unexpectedCharacter '#')⟩ := by
    cbv
  obtain ⟨-, fails, strays⟩ := tokenize_fault "\"\\\"/*<\" #<--"
  apply fails 8 _ ⟨_, List.prefix_rfl, by rw [cut]; decide⟩
  apply strays 8 '#' ['<', '-', '-'] (by decide)
  exact .numberSign (by rw [← blankLineAfter_iff]; decide)

end Token

end DotGraph
