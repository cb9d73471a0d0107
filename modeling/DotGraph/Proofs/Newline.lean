import DotGraph.Proofs.Tokens

/-!
# Cutting a text before a newline

What a text is cut into does not depend on what comes after a newline behind it, if all of the text
can be cut (`scan_append_newline`).
-/

namespace DotGraph

theorem takeWhile_append_of_stops {p : Char → Bool} {stop : Char} (stops : p stop = false)
    (text later : List Char) : (text ++ stop :: later).takeWhile p = text.takeWhile p := by
  rw [List.takeWhile_append, List.takeWhile_cons_of_neg (by simp [stops]), List.append_nil,
    ite_eq_right_iff]
  intro whole
  exact ((List.takeWhile_prefix p).eq_of_length whole).symm

theorem dropWhile_append_of_stops {p : Char → Bool} {stop : Char} (stops : p stop = false)
    (text later : List Char) :
    (text ++ stop :: later).dropWhile p = text.dropWhile p ++ stop :: later := by
  rw [List.dropWhile_append, List.dropWhile_cons_of_neg (by simp [stops]), ite_eq_right_iff]
  intro none
  rw [List.isEmpty_iff.mp none, List.nil_append]

theorem head?_append_newline {d : Char} (other : d ≠ '\n') (text later : List Char) :
    (text ++ '\n' :: later).head? = some d ↔ text.head? = some d := by
  cases text with
  | nil => simp [other.symm]
  | cons c text => rfl

namespace Lexeme

theorem commentTail?_append {text tail : List Char} (h : commentTail? text = some tail)
    (later : List Char) : commentTail? (text ++ later) = some tail := by
  fun_induction commentTail? text generalizing tail with
  | case1 => exact h
  | case2 c rest opens ih =>
    obtain ⟨inner, found, rfl⟩ := Option.map_eq_some_iff.mp h
    rw [List.cons_append, commentTail?, ih found, Option.map_some]
    rintro more rfl same
    cases rest with
    | nil => cases found
    | cons d rest =>
      obtain ⟨rfl, -⟩ := List.cons.inj same
      exact opens rest rfl rfl
  | case3 => cases h

theorem literalBody?_append {text body : List Char} (h : literalBody? text = some body)
    (later : List Char) : literalBody? (text ++ later) = some body := by
  fun_induction literalBody? text generalizing body with
  | case1 => exact h
  | case2 c rest ih =>
    obtain ⟨inner, found, rfl⟩ := Option.map_eq_some_iff.mp h
    rw [List.cons_append, List.cons_append, literalBody?, ih found, Option.map_some]
  | case3 c rest closes escapes ih =>
    obtain ⟨inner, found, rfl⟩ := Option.map_eq_some_iff.mp h
    rw [List.cons_append, literalBody?, ih found, Option.map_some]
    · exact closes
    · rintro d more rfl same
      cases rest with
      | nil => cases found
      | cons e rest => exact escapes e rest rfl rfl
  | case4 => cases h

theorem htmlTail?_append {depth : Nat} {text tail : List Char}
    (h : htmlTail? depth text = some tail) (later : List Char) :
    htmlTail? depth (text ++ later) = some tail := by
  fun_induction htmlTail? depth text generalizing tail with
  | case1 => cases h
  | case2 => exact h
  | case3 depth rest ih | case4 depth rest ih =>
    obtain ⟨inner, found, rfl⟩ := Option.map_eq_some_iff.mp h
    rw [List.cons_append, htmlTail?, ih found, Option.map_some]
  | case5 depth c rest outermost closes opens ih =>
    obtain ⟨inner, found, rfl⟩ := Option.map_eq_some_iff.mp h
    rw [List.cons_append, htmlTail?, ih found, Option.map_some]
    · exact opens
    · exact outermost
    · exact closes

theorem unsignedNumeral?_append_newline (text later : List Char) :
    unsignedNumeral? (text ++ '\n' :: later) = unsignedNumeral? text := by
  have noDigit : Char.isDigit '\n' = false := rfl
  unfold unsignedNumeral?
  rw [takeWhile_append_of_stops noDigit, dropWhile_append_of_stops noDigit]
  cases text.dropWhile Char.isDigit with
  | nil => cases text.takeWhile Char.isDigit <;> simp
  | cons c rest =>
    by_cases point : c = '.'
    · subst point
      have fraction := takeWhile_append_of_stops noDigit rest later
      cases text.takeWhile Char.isDigit with
      | nil => simp only [List.cons_append, fraction]
      | cons d whole => simp only [List.cons_append, fraction]
    · cases text.takeWhile Char.isDigit <;> simp [point]

theorem numeral?_append_newline (text later : List Char) :
    numeral? (text ++ '\n' :: later) = numeral? text := by
  cases text with
  | nil => rfl
  | cons c rest =>
    by_cases sign : c = '-'
    · subst sign
      rw [List.cons_append, numeral?, numeral?, unsignedNumeral?_append_newline]
    · rw [List.cons_append, numeral?.eq_2, numeral?.eq_2, ← List.cons_append,
        unsignedNumeral?_append_newline]
      · simpa using sign
      · simpa using sign

end Lexeme

theorem numeral?_cons_append_newline (c : Char) (rest later : List Char) :
    Lexeme.numeral? (c :: (rest ++ '\n' :: later)) = Lexeme.numeral? (c :: rest) :=
  Lexeme.numeral?_append_newline (c :: rest) later

/-- What is closed in one text and in the same way in another makes the same segment of both. -/
theorem segment_of_closed {tail? other? : Option (List Char)} {segment : Segment}
    (make : List Char → Segment) (reason : Reason)
    (stays : ∀ tail, tail? = some tail → other? = some tail)
    (h : (match tail? with | some tail => .ok (make tail) | none => .error reason) =
      Except.ok segment) :
    (match other? with | some tail => .ok (make tail) | none => .error reason) =
      Except.ok segment := by
  cases found : tail? with
  | none =>
    rw [found] at h
    cases h
  | some tail =>
    rw [found] at h
    rw [stays tail found]
    exact h

/-- A newline ends every segment that a text does not leave open. -/
theorem nextSegment_append_newline {blankLine : Bool} {c : Char} {rest : List Char}
    {segment : Segment} (h : nextSegment blankLine c rest = .ok segment) (later : List Char) :
    nextSegment blankLine c (rest ++ '\n' :: later) = .ok segment := by
  have line : (rest ++ '\n' :: later).takeWhile (· != '\n') = rest.takeWhile (· != '\n') :=
    takeWhile_append_of_stops rfl rest later
  have word : (rest ++ '\n' :: later).takeWhile Lexeme.isIdentifierPart =
      rest.takeWhile Lexeme.isIdentifierPart :=
    takeWhile_append_of_stops (by decide) rest later
  unfold nextSegment at h ⊢
  rw [line, word, numeral?_cons_append_newline]
  simp only [head?_append_newline (show '/' ≠ '\n' by decide),
    head?_append_newline (show '*' ≠ '\n' by decide),
    head?_append_newline (show '>' ≠ '\n' by decide),
    head?_append_newline (show '-' ≠ '\n' by decide)]
  -- only what is enclosed may reach beyond the newline, and here it is closed before it
  by_cases blank : Text.isBlank c = true
  · rwa [if_pos blank] at h ⊢
  rw [if_neg blank] at h ⊢
  by_cases comment : c = '/' ∧ rest.head? = some '/' ∨ c = '#' ∧ blankLine = true
  · rwa [if_pos comment] at h ⊢
  rw [if_neg comment] at h ⊢
  by_cases block : c = '/' ∧ rest.head? = some '*'
  · rw [if_pos block] at h ⊢
    have inside : rest ≠ [] := by
      rintro rfl
      cases block.2
    refine segment_of_closed (fun tail => .trivia ('/' :: '*' :: tail)) .unterminatedComment
      (fun tail closes => ?_) h
    rw [List.tail_append_of_ne_nil inside]
    exact Lexeme.commentTail?_append closes _
  rw [if_neg block] at h ⊢
  by_cases literal : c = '"'
  · rw [if_pos literal] at h ⊢
    exact segment_of_closed .quoted .unterminatedString
      (fun _ closes => Lexeme.literalBody?_append closes _) h
  rw [if_neg literal] at h ⊢
  by_cases html : c = '<'
  · rw [if_pos html] at h ⊢
    exact segment_of_closed (fun tail => .verbatim .html ('<' :: tail)) .unterminatedHtml
      (fun _ closes => Lexeme.htmlTail?_append closes _) h
  rwa [if_neg html] at h ⊢

theorem scan_append_newline {blankLine : Bool} {text : List Char}
    (whole : (scan blankLine text).failure? = none) (later : List Char) :
    scan blankLine (text ++ '\n' :: later) =
      ⟨(scan blankLine text).segments ++ .trivia ['\n'] :: (scan true later).segments,
        (scan true later).failure?⟩ := by
  fun_induction scan blankLine text with
  | case1 blankLine =>
    have cut : nextSegment blankLine '\n' later = .ok (.trivia ['\n']) := rfl
    exact scan_of_ok cut
  | case2 => cases whole
  | case3 blankLine c rest segment cut ih =>
    have fits := (nextSegment_isPrefix cut).length_le
    rw [List.cons_append, scan_of_ok (nextSegment_append_newline cut later), ← List.cons_append,
      List.drop_append_of_le_length fits, ih whole]
    rfl

theorem toList_append_newline (first second : String) :
    (first ++ "\n" ++ second).toList = first.toList ++ '\n' :: second.toList := by
  simp

theorem length_append_newline (first second : String) :
    (first ++ "\n" ++ second).length = second.length + (first.length + 1) := by
  rw [String.length_append, String.length_append, show "\n".length = 1 from rfl]
  omega

theorem frontTokens_append_newline {first : String}
    (whole : (scan true first.toList).failure? = none) (second : String) :
    frontTokens (first ++ "\n" ++ second) =
      frontTokens first ++ (frontTokens second).map (Token.shift (first.length + 1)) := by
  unfold frontTokens
  rw [toList_append_newline, scan_append_newline whole, Segment.tokens_append, width_scan whole,
    Segment.tokens, Nat.add_assoc, Segment.tokens_add]
  rfl

namespace Location

theorem lastLineStart_append_newline (before text : List Char) :
    lastLineStart (before ++ '\n' :: text) = lastLineStart text + (before.length + 1) := by
  have short : (text.reverse.takeWhile (· != '\n')).length ≤ text.length :=
    Nat.le_trans (List.takeWhile_prefix _).length_le (Nat.le_of_eq List.length_reverse)
  have line : (text.reverse ++ '\n' :: before.reverse).takeWhile (· != '\n') =
      text.reverse.takeWhile (· != '\n') :=
    takeWhile_append_of_stops rfl text.reverse before.reverse
  unfold lastLineStart
  rw [List.reverse_append, List.reverse_cons, List.append_assoc, List.singleton_append, line,
    List.length_append, List.length_cons]
  omega

/-- A place in a text lies below all lines of a text before it, in the same column. -/
theorem ofOffset_append_newline (first second : String) (offset : Nat) :
    ofOffset (first ++ "\n" ++ second) (offset + (first.length + 1)) =
      ⟨(ofOffset second offset).line + 1 + first.toList.count '\n',
        (ofOffset second offset).column⟩ := by
  have before : (first ++ "\n" ++ second).toList.take (offset + (first.length + 1)) =
      first.toList ++ '\n' :: second.toList.take offset := by
    have width : offset + (first.length + 1) = first.toList.length + (offset + 1) := by
      rw [String.length_toList]
      omega
    rw [toList_append_newline, width, List.take_length_add_append, List.take_succ_cons]
  dsimp only [ofOffset]
  rw [before, lastLineStart_append_newline, List.count_append, List.count_cons_self,
    String.length_toList, Nat.add_sub_add_right]
  congr 1
  omega

end Location

/-- An error of a text as it stands below another text. -/
def SyntaxError.below (text : String) (error : SyntaxError) : SyntaxError :=
  ⟨error.reason, error.offset + (text.length + 1),
    ⟨error.location.line + 1 + text.toList.count '\n', error.location.column⟩⟩

theorem SyntaxError.ofOffset_append_newline (first second : String) (offset : Nat)
    (reason : Reason) :
    ofOffset (first ++ "\n" ++ second) (offset + (first.length + 1)) reason =
      (ofOffset second offset reason).below first := by
  unfold ofOffset
  rw [Location.ofOffset_append_newline]
  rfl

namespace Token

theorem tokenize_append_newline {first second : String} {tokens : List Token}
    (whole : (scan true first.toList).failure? = none) (cut : tokenize second = .ok tokens) :
    tokenize (first ++ "\n" ++ second) =
      .ok (frontTokens first ++ tokens.map (shift (first.length + 1))) := by
  obtain ⟨complete, rfl⟩ := tokenize_eq_ok_iff.mp cut
  refine tokenize_eq_ok_iff.mpr ⟨?_, ?_⟩
  · rw [toList_append_newline, scan_append_newline whole]
    exact complete
  · rw [frontTokens_append_newline whole, length_append_newline, List.map_append,
      List.append_assoc]
    rfl

theorem tokenize_append_newline_error {first second : String} {error : SyntaxError}
    (whole : (scan true first.toList).failure? = none) (fails : tokenize second = .error error) :
    tokenize (first ++ "\n" ++ second) = .error (error.below first) := by
  cases found : (scan true second.toList).failure? with
  | none => rw [tokenize_of_none found] at fails; cases fails
  | some reason =>
    rw [tokenize_of_some found] at fails
    cases fails
    have later : (scan true (first ++ "\n" ++ second).toList).failure? = some reason := by
      rw [toList_append_newline, scan_append_newline whole]
      exact found
    rw [tokenize_of_some later, toList_append_newline, scan_append_newline whole,
      Segment.width_append, width_scan whole, Segment.width, ← SyntaxError.ofOffset_append_newline]
    congr 2
    rw [String.length_toList, Segment.text_trivia, List.length_singleton]
    omega

end Token

end DotGraph
