import DotGraph.SyntaxError
import DotGraph.Text.Blank
import DotGraph.Token.Lexeme

/-!
# Segments of a source text

A text falls into segments: blanks and comments, which mean nothing, and lexemes, which make one
token each. `nextSegment` cuts the first one off; what it cuts off is a non-empty leading part of
the text (`nextSegment_isPrefix`, `nextSegment_ne_nil`).
-/

namespace DotGraph

open Text

inductive Segment
  | trivia (text : List Char)
  | lexeme (kind : TokenKind) (value : String) (text : List Char)
  deriving DecidableEq

namespace Segment

def text : Segment → List Char
  | .trivia text => text
  | .lexeme _ _ text => text

@[simp] theorem text_trivia (text : List Char) : (Segment.trivia text).text = text := rfl

@[simp] theorem text_lexeme (kind : TokenKind) (value : String) (text : List Char) :
    (Segment.lexeme kind value text).text = text := rfl

/-- A lexeme that stands for itself. -/
def verbatim (kind : TokenKind) (text : List Char) : Segment :=
  .lexeme kind (String.ofList text) text

@[simp] theorem text_verbatim (kind : TokenKind) (text : List Char) :
    (verbatim kind text).text = text := rfl

def quoted (body : List Char) : Segment :=
  .lexeme .string (String.ofList (Lexeme.unescape body)) ('"' :: body ++ ['"'])

@[simp] theorem text_quoted (body : List Char) : (quoted body).text = '"' :: body ++ ['"'] := rfl

end Segment

/-- Whether a line is still blank after a text, if it was (or was not) before it. -/
def blankLineAfter (blankLine : Bool) (text : List Char) : Bool :=
  text.foldl (fun blank c => c == '\n' || blank && isBlank c) blankLine

@[simp] theorem blankLineAfter_nil (blankLine : Bool) : blankLineAfter blankLine [] = blankLine :=
  rfl

theorem blankLineAfter_append (blankLine : Bool) (first second : List Char) :
    blankLineAfter blankLine (first ++ second) =
      blankLineAfter (blankLineAfter blankLine first) second :=
  List.foldl_append

/-- The first segment of the text `c :: rest`. `blankLine` says that nothing but blanks stands
before it on its line, where a number sign opens a comment. -/
def nextSegment (blankLine : Bool) (c : Char) (rest : List Char) : Except Reason Segment :=
  if isBlank c then
    .ok (.trivia [c])
  else if (c = '/' ∧ rest.head? = some '/') ∨ (c = '#' ∧ blankLine = true) then
    .ok (.trivia (c :: rest.takeWhile (· != '\n')))
  else if c = '/' ∧ rest.head? = some '*' then
    match Lexeme.commentTail? rest.tail with
    | some tail => .ok (.trivia ('/' :: '*' :: tail))
    | none => .error .unterminatedComment
  else if c = '"' then
    match Lexeme.literalBody? rest with
    | some body => .ok (.quoted body)
    | none => .error .unterminatedString
  else if c = '<' then
    match Lexeme.htmlTail? 0 rest with
    | some tail => .ok (.verbatim .html ('<' :: tail))
    | none => .error .unterminatedHtml
  else if c = '-' ∧ rest.head? = some '>' then
    .ok (.verbatim .arrow ['-', '>'])
  else if c = '-' ∧ rest.head? = some '-' then
    .ok (.verbatim .line ['-', '-'])
  else
    match Lexeme.numeral? (c :: rest) with
    | some numeral => .ok (.verbatim .numeral numeral)
    | none =>
      match TokenKind.ofPunctuation? c with
      | some kind => .ok (.verbatim kind [c])
      | none =>
        if Lexeme.isIdentifierStart c then
          .ok (.verbatim .identifier (c :: rest.takeWhile Lexeme.isIdentifierPart))
        else
          .error (.unexpectedCharacter c)

theorem nextSegment_isPrefix {blankLine : Bool} {c : Char} {rest : List Char} {segment : Segment}
    (h : nextSegment blankLine c rest = .ok segment) : segment.text <+: c :: rest := by
  have two : ∀ {d : Char}, rest.head? = some d → rest = d :: rest.tail :=
    fun hd => by cases rest <;> simp_all
  unfold nextSegment at h
  split at h
  · cases h; exact (List.prefix_cons_inj c).mpr (List.nil_prefix)
  split at h
  · cases h; exact (List.prefix_cons_inj c).mpr (List.takeWhile_prefix _)
  split at h
  · next opens =>
    split at h
    · next tail closes =>
      cases h
      rw [opens.1, two opens.2, Segment.text_trivia, List.prefix_cons_inj, List.prefix_cons_inj]
      exact Lexeme.commentTail?_isPrefix closes
    · cases h
  split at h
  · next opens =>
    split at h
    · next body closes =>
      cases h
      rw [opens, Segment.text_quoted, List.cons_append, List.prefix_cons_inj]
      exact Lexeme.literalBody?_isPrefix closes
    · cases h
  split at h
  · next opens =>
    split at h
    · next tail closes =>
      cases h
      rw [opens, Segment.text_verbatim, List.prefix_cons_inj]
      exact Lexeme.htmlTail?_isPrefix closes
    · cases h
  split at h
  · next opens => cases h; rw [opens.1, two opens.2]; exact ⟨rest.tail, rfl⟩
  split at h
  · next opens => cases h; rw [opens.1, two opens.2]; exact ⟨rest.tail, rfl⟩
  split at h
  · next numeral found => cases h; exact Lexeme.numeral?_isPrefix found
  split at h
  · cases h; exact (List.prefix_cons_inj c).mpr (List.nil_prefix)
  split at h
  · cases h; exact (List.prefix_cons_inj c).mpr (List.takeWhile_prefix _)
  · cases h

theorem nextSegment_ne_nil {blankLine : Bool} {c : Char} {rest : List Char} {segment : Segment}
    (h : nextSegment blankLine c rest = .ok segment) : segment.text ≠ [] := by
  unfold nextSegment at h
  repeat' split at h
  all_goals cases h
  all_goals simp
  exact Lexeme.numeral?_ne_nil (by assumption)

end DotGraph
