import DotGraph.Binary64.Reading
import DotGraph.Json.Basic
import DotGraph.OrderedMap

/-!
# Reading JSON

A value is read from the front of a text, together with the text that follows it, which is shorter;
that it is shorter is why reading ends. Of two fields with one name the later value counts, in the
place of the first.
-/

namespace DotGraph.Json

/-- What was read from the front of a text, and what follows. -/
structure Front (α : Type) (text : List Char) where
  value : α
  rest : List Char
  shorter : rest.length < text.length

def isSpace (c : Char) : Bool := c == ' ' || c == '\t' || c == '\n' || c == '\r'

def skipSpace (text : List Char) : List Char := text.dropWhile isSpace

theorem length_dropWhile_le (p : Char → Bool) (text : List Char) :
    (text.dropWhile p).length ≤ text.length :=
  (List.dropWhile_suffix p).length_le

theorem length_skipSpace_le (text : List Char) : (skipSpace text).length ≤ text.length :=
  length_dropWhile_le isSpace text

def hexValue? (c : Char) : Option Nat :=
  if c.isDigit then some (c.toNat - '0'.toNat)
  else if 'a' ≤ c ∧ c ≤ 'f' then some (c.toNat - 'a'.toNat + 10)
  else if 'A' ≤ c ∧ c ≤ 'F' then some (c.toNat - 'A'.toNat + 10)
  else none

def hexUnit? (a b c d : Char) : Option Nat := do
  let a ← hexValue? a
  let b ← hexValue? b
  let c ← hexValue? c
  let d ← hexValue? d
  return ((a * 16 + b) * 16 + c) * 16 + d

def isHighSurrogate (unit : Nat) : Bool := 0xd800 ≤ unit && unit < 0xdc00

def isLowSurrogate (unit : Nat) : Bool := 0xdc00 ≤ unit && unit < 0xe000

def escaped? : Char → Option Char
  | '"' => some '"'
  | '\\' => some '\\'
  | '/' => some '/'
  | 'b' => some '\x08'
  | 'f' => some '\x0c'
  | 'n' => some '\n'
  | 'r' => some '\r'
  | 't' => some '\t'
  | _ => none

/-- One more character in front of what was read. -/
def withChar (c : Char) : Option (List Char × List Char) → Option (List Char × List Char)
  | none => none
  | some (chars, rest) => some (c :: chars, rest)

theorem eq_some_of_withChar {c : Char} {front : Option (List Char × List Char)}
    {chars rest : List Char} (h : withChar c front = some (chars, rest)) :
    ∃ others, front = some (others, rest) := by
  cases front with
  | none => cases h
  | some result => cases h; exact ⟨_, rfl⟩

/-- The characters of a string after its opening quote, and what follows the closing one. A code
point beyond the basic plane may be written as two units; a unit of a pair does not stand alone. -/
def readString : List Char → Option (List Char × List Char)
  | [] => none
  | '"' :: rest => some ([], rest)
  | '\\' :: 'u' :: a :: b :: c :: d :: rest =>
    match hexUnit? a b c d with
    | none => none
    | some unit =>
      if isHighSurrogate unit then
        match rest with
        | '\\' :: 'u' :: a :: b :: c :: d :: rest =>
          match hexUnit? a b c d with
          | none => none
          | some low =>
            if isLowSurrogate low then
              withChar (Char.ofNat (0x10000 + (unit - 0xd800) * 0x400 + (low - 0xdc00)))
                (readString rest)
            else none
        | _ => none
      else if isLowSurrogate unit then none
      else withChar (Char.ofNat unit) (readString rest)
  | '\\' :: c :: rest =>
    match escaped? c with
    | none => none
    | some c => withChar c (readString rest)
  | c :: rest =>
    if c.toNat < 0x20 ∨ c = '\\' then none
    else withChar c (readString rest)

theorem length_readString_lt {text chars rest : List Char}
    (h : readString text = some (chars, rest)) : rest.length < text.length := by
  fun_induction readString text generalizing chars rest with
  | case1 | case3 | case4 | case6 | case7 | case8 | case10 | case12 => cases h
  | case2 => cases h; simp
  | case5 _ _ _ _ _ _ _ _ _ _ _ after _ _ _ ih | case9 _ _ _ _ after _ _ _ _ ih
  | case11 _ after _ _ _ ih | case13 _ after _ _ _ _ ih =>
    obtain ⟨others, found⟩ := eq_some_of_withChar h
    have := ih found
    simp only [List.length_cons]
    omega

/-- A number is whole unless it has a fraction or a power of ten. -/
def readNumber? (lexeme : List Char) : Option Json :=
  let (negative, digits) :=
    match lexeme with
    | '-' :: digits => (true, digits)
    | digits => (false, digits)
  let whole := digits.takeWhile Char.isDigit
  let rest := digits.dropWhile Char.isDigit
  if whole = [] ∨ (whole.head? = some '0' ∧ 1 < whole.length) then none
  else
    match rest with
    | [] =>
      let value : Int := Binary64.digitsValue whole
      some (.int (if negative then -value else value))
    | '.' :: c :: _ =>
      if c.isDigit then (Binary64.readUnsigned? negative digits).map .float else none
    | '.' :: [] => none
    | _ => (Binary64.readUnsigned? negative digits).map .float

def isNumberPart (c : Char) : Bool :=
  c.isDigit || c == '-' || c == '+' || c == '.' || c == 'e' || c == 'E'

def numberFront (text : List Char) : Option (Front Json text) :=
  match readNumber? (text.takeWhile isNumberPart) with
  | none => none
  | some value =>
    if h : text.takeWhile isNumberPart = [] then none
    else some ⟨value, text.dropWhile isNumberPart, by
      have := congrArg List.length (List.takeWhile_append_dropWhile (p := isNumberPart) (l := text))
      have := List.length_pos_iff.mpr h
      simp only [List.length_append] at *
      omega⟩

def stringFront (text : List Char) : Option (Front String text) :=
  match skipped : skipSpace text with
  | '"' :: rest =>
    match read : readString rest with
    | none => none
    | some (chars, after) => some ⟨String.ofList chars, after, by
        have := length_readString_lt read
        have := length_skipSpace_le text
        simp only [skipped, List.length_cons] at this
        omega⟩
  | _ => none

mutual

def valueFront (text : List Char) : Option (Front Json text) :=
  have bound := length_skipSpace_le text
  match skipped : skipSpace text with
  | 'n' :: 'u' :: 'l' :: 'l' :: rest =>
    some ⟨.null, rest, by simp only [skipped, List.length_cons] at bound; omega⟩
  | 't' :: 'r' :: 'u' :: 'e' :: rest =>
    some ⟨.bool true, rest, by simp only [skipped, List.length_cons] at bound; omega⟩
  | 'f' :: 'a' :: 'l' :: 's' :: 'e' :: rest =>
    some ⟨.bool false, rest, by simp only [skipped, List.length_cons] at bound; omega⟩
  | '[' :: rest =>
    have inner := length_skipSpace_le rest
    match closed : skipSpace rest with
    | ']' :: after => some ⟨.array [], after, by
        simp only [skipped, closed, List.length_cons] at bound inner; omega⟩
    | _ =>
      match itemsFront rest with
      | none => none
      | some ⟨items, after, shorter⟩ => some ⟨.array items, after, by
          simp only [skipped, List.length_cons] at bound; omega⟩
  | '{' :: rest =>
    have inner := length_skipSpace_le rest
    match closed : skipSpace rest with
    | '}' :: after => some ⟨.object [], after, by
        simp only [skipped, closed, List.length_cons] at bound inner; omega⟩
    | _ =>
      match fieldsFront rest with
      | none => none
      | some ⟨fields, after, shorter⟩ =>
        some ⟨.object (OrderedMap.ofPairs fields).entries, after, by
          simp only [skipped, List.length_cons] at bound; omega⟩
  | '"' :: _ => (stringFront text).map fun front => ⟨.string front.value, front.rest, front.shorter⟩
  | unknown =>
    (numberFront unknown).map fun front => ⟨front.value, front.rest, by
      have := front.shorter
      rw [skipped] at bound
      omega⟩
termination_by 2 * text.length
decreasing_by
  all_goals
    simp only [skipped, List.length_cons] at bound
    omega

/-- The items of a list, the first of which the text begins with, and its closing bracket. -/
def itemsFront (text : List Char) : Option (Front (List Json) text) :=
  match valueFront text with
  | none => none
  | some ⟨item, rest, shorter⟩ =>
    have bound := length_skipSpace_le rest
    match skipped : skipSpace rest with
    | ']' :: after => some ⟨[item], after, by
        simp only [skipped, List.length_cons] at bound; omega⟩
    | ',' :: after =>
      match itemsFront after with
      | none => none
      | some ⟨items, last, shorter⟩ => some ⟨item :: items, last, by
          simp only [skipped, List.length_cons] at bound; omega⟩
    | _ => none
termination_by 2 * text.length + 1
decreasing_by
  · omega
  · simp only [skipped, List.length_cons] at bound
    omega

/-- The fields of an object, the first of which the text begins with, and its closing brace. -/
def fieldsFront (text : List Char) : Option (Front (List (String × Json)) text) :=
  match stringFront text with
  | none => none
  | some ⟨name, named, short⟩ =>
    have start := length_skipSpace_le named
    match separated : skipSpace named with
    | ':' :: after =>
      match valueFront after with
      | none => none
      | some ⟨value, rest, shorter⟩ =>
        have bound := length_skipSpace_le rest
        match skipped : skipSpace rest with
        | '}' :: after => some ⟨[(name, value)], after, by
            simp only [skipped, separated, List.length_cons] at bound start; omega⟩
        | ',' :: after =>
          match fieldsFront after with
          | none => none
          | some ⟨fields, last, less⟩ => some ⟨(name, value) :: fields, last, by
              simp only [skipped, separated, List.length_cons] at bound start; omega⟩
        | _ => none
    | _ => none
termination_by 2 * text.length + 1
decreasing_by
  · simp only [separated, List.length_cons] at start
    omega
  · simp only [skipped, separated, List.length_cons] at bound start
    omega

end

def ofText? (text : String) : Option Json :=
  match valueFront text.toList with
  | some ⟨value, rest, _⟩ => if (skipSpace rest).isEmpty then some value else none
  | none => none

end DotGraph.Json
