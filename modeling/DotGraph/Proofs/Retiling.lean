import DotGraph.Proofs.Tiling

/-!
# Segments that fit are what is cut

A segment that fits between the text before it and the text after it is what is cut off there
(`nextSegment_of_fits`). So segments that fit one after another are what the text that they make up
is cut into (`scan_of_fitting`), and no text has two tilings (`tiles_iff`).
-/

namespace DotGraph

open Text Lexeme

/-- A line is taken through its end. -/
theorem takeWhile_line {line after : List Char} (noNewline : '\n' ∉ line)
    (ends : ∀ c ∈ after.head?, c = '\n') : (line ++ after).takeWhile (· != '\n') = line := by
  have inside : ∀ c ∈ line, (c != '\n') = true := by
    rintro c here
    exact bne_iff_ne.mpr fun same => noNewline (same ▸ here)
  apply takeWhile_run inside
  intro c first
  rw [ends c first]
  rfl

theorem nextSegment_blank {c : Char} (blank : isBlank c = true) (blankLine : Bool)
    (rest : List Char) : nextSegment blankLine c rest = .ok (.trivia [c]) :=
  if_pos blank

theorem nextSegment_slashes (blankLine : Bool) (rest : List Char) :
    nextSegment blankLine '/' ('/' :: rest) =
      .ok (.trivia ('/' :: ('/' :: rest).takeWhile (· != '\n'))) :=
  rfl

theorem nextSegment_numberSign (rest : List Char) :
    nextSegment true '#' rest = .ok (.trivia ('#' :: rest.takeWhile (· != '\n'))) :=
  rfl

theorem nextSegment_block (blankLine : Bool) (rest : List Char) :
    nextSegment blankLine '/' ('*' :: rest) =
      match commentTail? rest with
      | some tail => .ok (.trivia ('/' :: '*' :: tail))
      | none => .error .unterminatedComment :=
  rfl

theorem nextSegment_of_fits {before after rest : List Char} {c : Char} {segment : Segment}
    (fits : segment.Fits before after) (whole : segment.text ++ after = c :: rest) :
    nextSegment (blankLineAfter true before) c rest = .ok segment := by
  cases fits with
  | blank blank =>
    obtain ⟨rfl, -⟩ := List.cons.inj whole
    exact nextSegment_blank blank ..
  | @slashes body noNewline ends =>
    rw [Segment.text_trivia, List.cons_append, List.cons_append] at whole
    obtain ⟨rfl, rfl⟩ := List.cons.inj whole
    have line : '\n' ∉ '/' :: body := by simpa using noNewline
    rw [nextSegment_slashes, ← List.cons_append, takeWhile_line line ends]
  | numberSign blankLine noNewline ends =>
    rw [Segment.text_trivia, List.cons_append] at whole
    obtain ⟨rfl, rfl⟩ := List.cons.inj whole
    rw [blankLineAfter_iff.mpr blankLine, nextSegment_numberSign, takeWhile_line noNewline ends]
  | block first =>
    rw [Segment.text_trivia, List.cons_append, List.cons_append, List.append_assoc] at whole
    obtain ⟨rfl, rfl⟩ := List.cons.inj whole
    rw [nextSegment_block, List.cons_append, List.singleton_append,
      commentTail?_append_of_first first]
  | lexeme spelled alone => exact nextSegment_of_spelled spelled alone whole _

theorem Segment.Fits.eq_cons {before after : List Char} {segment : Segment}
    (fits : segment.Fits before after) : ∃ c rest, segment.text = c :: rest := by
  cases fits with
  | lexeme spelled _ => exact spelled.eq_cons
  | _ => exact ⟨_, _, rfl⟩

/-- Segments that fit one after another are what the text that they make up is cut into. -/
theorem scan_of_fitting {before : List Char} {segments : List Segment}
    (fitting : Fitting before segments []) :
    scan (blankLineAfter true before) (segments.flatMap Segment.text) = ⟨segments, none⟩ := by
  induction segments generalizing before with
  | nil => rw [List.flatMap_nil, scan]
  | cons segment later ih =>
    obtain ⟨fits, others⟩ := fitting
    rw [List.append_nil] at fits
    obtain ⟨c, rest, first⟩ := fits.eq_cons
    have cut := nextSegment_of_fits fits (by rw [first, List.cons_append])
    rw [List.flatMap_cons, first, List.cons_append, scan_of_ok cut, ← List.cons_append, ← first,
      List.drop_left, ← blankLineAfter_append, ih others]
    rfl

theorem Fitting.of_splits {before after : List Char} {segments : List Segment}
    (fits : ∀ earlier segment later, segments = earlier ++ segment :: later →
      segment.Fits (before ++ earlier.flatMap Segment.text)
        (later.flatMap Segment.text ++ after)) : Fitting before segments after := by
  induction segments generalizing before with
  | nil => trivial
  | cons segment later ih =>
    refine ⟨by simpa using fits [] segment later rfl, ih fun earlier inner rest split => ?_⟩
    rw [List.append_assoc, ← List.flatMap_cons]
    exact fits (segment :: earlier) inner rest (congrArg (segment :: ·) split)

/-- A text has one tiling, if any: what it is cut into. -/
theorem tiles_iff {segments : List Segment} {text : List Char} :
    Tiles segments text ↔ scan true text = ⟨segments, none⟩ := by
  constructor
  · intro tiles
    have fitting : Fitting [] segments [] := by
      apply Fitting.of_splits
      simpa using tiles.fits
    rw [← tiles.whole]
    exact scan_of_fitting fitting
  · intro cut
    have tiles := @tiles_scan text (by rw [cut])
    rwa [cut] at tiles

end DotGraph
