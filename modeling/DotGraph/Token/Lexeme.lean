import DotGraph.Text.Letter
import DotGraph.Text.Numeric

/-!
# Lexemes

Each scanner answers with what it takes from the front of a text, so what it takes is always a
leading part of the text.
-/

namespace DotGraph.Lexeme

open Text

/-- The rest of a block comment, through the first `*/`. -/
def commentTail? : List Char → Option (List Char)
  | '*' :: '/' :: _ => some ['*', '/']
  | c :: rest => (commentTail? rest).map (c :: ·)
  | [] => none

theorem commentTail?_isPrefix {s tail : List Char} (h : commentTail? s = some tail) :
    tail <+: s := by
  fun_induction commentTail? s generalizing tail with
  | case1 rest => cases h; exact ⟨rest, rfl⟩
  | case2 c rest _ ih =>
    obtain ⟨t, ht, rfl⟩ := Option.map_eq_some_iff.mp h
    exact (List.prefix_cons_inj c).mpr (ih ht)
  | case3 => simp at h

/-- What stands between an opening quote and the quote that closes it. A backslash takes the
character after it along, so a quote after a backslash does not close. -/
def literalBody? : List Char → Option (List Char)
  | '"' :: _ => some []
  | '\\' :: c :: rest => (literalBody? rest).map ('\\' :: c :: ·)
  | c :: rest => (literalBody? rest).map (c :: ·)
  | [] => none

theorem literalBody?_isPrefix {s body : List Char} (h : literalBody? s = some body) :
    body ++ ['"'] <+: s := by
  fun_induction literalBody? s generalizing body with
  | case1 rest => cases h; exact ⟨rest, rfl⟩
  | case2 c rest ih =>
    obtain ⟨t, ht, rfl⟩ := Option.map_eq_some_iff.mp h
    exact (List.prefix_cons_inj _).mpr ((List.prefix_cons_inj c).mpr (ih ht))
  | case3 c rest _ _ ih =>
    obtain ⟨t, ht, rfl⟩ := Option.map_eq_some_iff.mp h
    exact (List.prefix_cons_inj c).mpr (ih ht)
  | case4 => simp at h

/-- The text a literal stands for: an escaped quote is a quote, an escaped newline is nothing, and
every other escape is kept as it is written. -/
def unescape : List Char → List Char
  | '\\' :: '"' :: rest => '"' :: unescape rest
  | '\\' :: '\n' :: rest => unescape rest
  | '\\' :: c :: rest => '\\' :: c :: unescape rest
  | c :: rest => c :: unescape rest
  | [] => []

/-- The rest of an angle-bracketed text in which `depth` inner brackets are open, through the
bracket that closes the outermost one. -/
def htmlTail? : Nat → List Char → Option (List Char)
  | _, [] => none
  | 0, '>' :: _ => some ['>']
  | depth + 1, '>' :: rest => (htmlTail? depth rest).map ('>' :: ·)
  | depth, '<' :: rest => (htmlTail? (depth + 1) rest).map ('<' :: ·)
  | depth, c :: rest => (htmlTail? depth rest).map (c :: ·)

theorem htmlTail?_isPrefix {depth : Nat} {s tail : List Char} (h : htmlTail? depth s = some tail) :
    tail <+: s := by
  fun_induction htmlTail? depth s generalizing tail with
  | case1 => simp at h
  | case2 rest => cases h; exact ⟨rest, rfl⟩
  | case3 depth rest ih | case4 depth rest ih | case5 depth c rest _ _ _ ih =>
    obtain ⟨t, ht, rfl⟩ := Option.map_eq_some_iff.mp h
    exact (List.prefix_cons_inj _).mpr (ih ht)

/-- The longest numeral without a sign: digits with an optional point and fraction, or a point and
digits. -/
def unsignedNumeral? (s : List Char) : Option (List Char) :=
  match s.takeWhile Char.isDigit, s.dropWhile Char.isDigit with
  | [], '.' :: rest =>
    match rest.takeWhile Char.isDigit with
    | [] => none
    | fraction => some ('.' :: fraction)
  | [], _ => none
  | whole, '.' :: rest => some (whole ++ '.' :: rest.takeWhile Char.isDigit)
  | whole, _ => some whole

theorem unsignedNumeral?_isPrefix {s numeral : List Char} (h : unsignedNumeral? s = some numeral) :
    numeral <+: s := by
  have split := List.takeWhile_append_dropWhile (p := Char.isDigit) (l := s)
  unfold unsignedNumeral? at h
  split at h
  · next rest whole fraction =>
    rw [whole, fraction, List.nil_append] at split
    subst split
    split at h
    · simp at h
    · cases h
      exact (List.prefix_cons_inj '.').mpr (List.takeWhile_prefix _)
  · simp at h
  · next whole rest fraction _ =>
    cases h
    refine ⟨rest.dropWhile Char.isDigit, ?_⟩
    rw [List.append_assoc, List.cons_append, List.takeWhile_append_dropWhile, ← fraction]
    exact split
  · cases h
    exact List.takeWhile_prefix _

def numeral? : List Char → Option (List Char)
  | '-' :: rest => (unsignedNumeral? rest).map ('-' :: ·)
  | s => unsignedNumeral? s

theorem numeral?_isPrefix {s numeral : List Char} (h : numeral? s = some numeral) :
    numeral <+: s := by
  unfold numeral? at h
  split at h
  · obtain ⟨t, ht, rfl⟩ := Option.map_eq_some_iff.mp h
    exact (List.prefix_cons_inj '-').mpr (unsignedNumeral?_isPrefix ht)
  · exact unsignedNumeral?_isPrefix h

theorem numeral?_ne_nil {s numeral : List Char} (h : numeral? s = some numeral) :
    numeral ≠ [] := by
  rintro rfl
  unfold numeral? at h
  split at h
  · simp at h
  · unfold unsignedNumeral? at h
    split at h
    · split at h <;> simp at h
    · simp at h
    · simp at h
    · simp_all

def isIdentifierStart (c : Char) : Bool := isLetter c || c == '_'

def isIdentifierPart (c : Char) : Bool := isLetter c || isNumeric c || c == '_'

end DotGraph.Lexeme
