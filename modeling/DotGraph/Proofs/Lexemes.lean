import DotGraph.Text.Blank
import DotGraph.Token.Basic
import DotGraph.Token.Lexeme

/-!
# Classes of lexemes

What strings in quotes, bracketed texts and numerals are, said without the scanners that take them
from a text; and that the scanners take just these: a string through the first quote that closes it,
a bracketed text through the bracket that balances the first one, and the longest numeral.
-/

namespace DotGraph.Lexeme

open Text

/-! ### Strings -/

/-- What may stand between quotes, and the text it stands for: backslashes are paired with the
characters after them, and a quote stands only as the partner of one. -/
inductive Literal : List Char → List Char → Prop
  | nil : Literal [] []
  | quote {body value : List Char} : Literal body value →
      Literal ('\\' :: '"' :: body) ('"' :: value)
  | continuation {body value : List Char} : Literal body value →
      Literal ('\\' :: '\n' :: body) value
  | escape {c : Char} {body value : List Char} : c ≠ '"' → c ≠ '\n' → Literal body value →
      Literal ('\\' :: c :: body) ('\\' :: c :: value)
  | plain {c : Char} {body value : List Char} : c ≠ '\\' → c ≠ '"' → Literal body value →
      Literal (c :: body) (c :: value)

theorem Literal.unescape_eq {body value : List Char} (literal : Literal body value) :
    unescape body = value := by
  induction literal with
  | nil => rfl
  | quote _ ih | continuation _ ih => rw [unescape, ih]
  | escape noQuote noNewline _ ih =>
    rw [unescape, ih]
    · exact noQuote
    · exact noNewline
  | plain noBackslash _ _ ih =>
    rw [unescape, ih]
    all_goals
      intros
      exact noBackslash ‹_›

theorem Literal.literalBody?_eq {body value : List Char} (literal : Literal body value)
    (rest : List Char) : literalBody? (body ++ '"' :: rest) = some body := by
  induction literal with
  | nil => rfl
  | quote _ ih | continuation _ ih | escape _ _ _ ih =>
    rw [List.cons_append, List.cons_append, literalBody?, ih, Option.map_some]
  | plain noBackslash noQuote _ ih =>
    rw [List.cons_append, literalBody?, ih, Option.map_some]
    · exact noQuote
    · intros
      exact noBackslash ‹_›

theorem literal_of_literalBody? {s body : List Char} (found : literalBody? s = some body) :
    ∃ value, Literal body value := by
  fun_induction literalBody? s generalizing body with
  | case1 rest =>
    cases found
    exact ⟨[], .nil⟩
  | case2 c rest ih =>
    obtain ⟨inner, there, rfl⟩ := Option.map_eq_some_iff.mp found
    obtain ⟨value, literal⟩ := ih there
    by_cases quote : c = '"'
    · subst quote
      exact ⟨_, .quote literal⟩
    by_cases newline : c = '\n'
    · subst newline
      exact ⟨_, .continuation literal⟩
    exact ⟨_, .escape quote newline literal⟩
  | case3 c rest noQuote noPair ih =>
    obtain ⟨inner, there, rfl⟩ := Option.map_eq_some_iff.mp found
    obtain ⟨value, literal⟩ := ih there
    have noBackslash : c ≠ '\\' := by
      rintro rfl
      cases rest with
      | nil => cases there
      | cons d rest => exact noPair d rest rfl rfl
    exact ⟨_, .plain noBackslash noQuote literal⟩
  | case4 => cases found

/-! ### Angle brackets -/

/-- A text that closes a number of angle brackets, and not before its end. -/
def Closes (depth : Nat) (text : List Char) : Prop :=
  text.count '>' = text.count '<' + depth ∧
    ∀ front, front <+: text → front ≠ text → front.count '>' < front.count '<' + depth

theorem closes_zero {text : List Char} : Closes 0 text ↔ text = [] := by
  constructor
  · intro closes
    apply Decidable.byContradiction
    intro more
    exact Nat.lt_irrefl _ (closes.2 [] List.nil_prefix (Ne.symm more))
  · rintro rfl
    exact ⟨rfl, fun front inside more => absurd (List.prefix_nil.mp inside) more⟩

theorem closes_cons {depth : Nat} {c : Char} {text : List Char} :
    Closes (depth + 1) (c :: text) ↔
      Closes (depth + 1 + (if c = '<' then 1 else 0) - if c = '>' then 1 else 0) text := by
  have grows (front : List Char) :
      (c :: front).count '<' = front.count '<' + (if c = '<' then 1 else 0) ∧
        (c :: front).count '>' = front.count '>' + (if c = '>' then 1 else 0) := by
    simp [List.count_cons]
  have one : (if c = '>' then 1 else 0) ≤ 1 := by split <;> omega
  unfold Closes
  rw [(grows text).1, (grows text).2]
  constructor
  · rintro ⟨balance, before⟩
    refine ⟨by omega, fun front inside more => ?_⟩
    have longer := before (c :: front) ((List.prefix_cons_inj c).mpr inside) (by simpa using more)
    rw [(grows front).1, (grows front).2] at longer
    omega
  · rintro ⟨balance, before⟩
    refine ⟨by omega, fun front inside more => ?_⟩
    cases front with
    | nil => simp
    | cons d front =>
      obtain ⟨rfl, within⟩ := List.cons_prefix_cons.mp inside
      have shorter := before front within (by simpa using more)
      rw [(grows front).1, (grows front).2]
      omega

theorem not_closes_nil {depth : Nat} : ¬ Closes (depth + 1) [] := by
  intro closes
  cases closes.1

/-- What closes some brackets in a text is its first character with what closes the brackets that
are open after it. -/
theorem closes_prefix_cons {depth : Nat} {c : Char} {rest tail : List Char} (later : Nat)
    (step : depth + 1 + (if c = '<' then 1 else 0) - (if c = '>' then 1 else 0) = later) :
    tail <+: c :: rest ∧ Closes (depth + 1) tail ↔
      ∃ t, (t <+: rest ∧ Closes later t) ∧ c :: t = tail := by
  subst step
  constructor
  · rintro ⟨inside, closes⟩
    cases tail with
    | nil => exact absurd closes not_closes_nil
    | cons d t =>
      obtain ⟨rfl, within⟩ := List.cons_prefix_cons.mp inside
      exact ⟨t, ⟨within, closes_cons.mp closes⟩, rfl⟩
  · rintro ⟨t, ⟨within, closes⟩, rfl⟩
    exact ⟨(List.prefix_cons_inj c).mpr within, closes_cons.mpr closes⟩

theorem htmlTail?_eq_some_iff {depth : Nat} {s tail : List Char} :
    htmlTail? depth s = some tail ↔ tail <+: s ∧ Closes (depth + 1) tail := by
  -- each step of the scanner takes one character off both sides, with the depth after it
  fun_induction htmlTail? depth s generalizing tail with
  | case1 depth =>
    constructor
    · intro found
      cases found
    · rintro ⟨inside, closes⟩
      exact absurd (List.prefix_nil.mp inside ▸ closes) not_closes_nil
  | case2 rest =>
    rw [closes_prefix_cons 0 (by decide), Option.some.injEq]
    constructor
    · rintro rfl
      exact ⟨[], ⟨List.nil_prefix, closes_zero.mpr rfl⟩, rfl⟩
    · rintro ⟨t, ⟨-, closes⟩, rfl⟩
      rw [closes_zero.mp closes]
  | case3 depth rest ih =>
    rw [closes_prefix_cons (depth + 1) (by simp), Option.map_eq_some_iff]
    simp only [ih]
  | case4 depth rest ih =>
    rw [closes_prefix_cons (depth + 1 + 1) (by simp), Option.map_eq_some_iff]
    simp only [ih]
  | case5 depth c rest outermost inner noOpening ih =>
    have noClosing : c ≠ '>' := by
      cases depth with
      | zero => exact outermost rfl
      | succ depth => exact inner depth rfl
    rw [closes_prefix_cons (depth + 1) (by rw [if_neg noOpening, if_neg noClosing]; rfl),
      Option.map_eq_some_iff]
    simp only [ih]

/-- A text in angle brackets: its last bracket, and none before it, balances its first one. -/
def Bracketed (text : List Char) : Prop :=
  text.head? = some '<' ∧ text.count '>' = text.count '<' ∧
    ∀ front, front <+: text → front ≠ [] → front ≠ text → front.count '>' < front.count '<'

theorem bracketed_cons_iff {tail : List Char} : Bracketed ('<' :: tail) ↔ Closes 1 tail := by
  unfold Bracketed Closes
  constructor
  · rintro ⟨-, balance, before⟩
    refine ⟨by simpa using balance, fun front inside more => ?_⟩
    simpa using before ('<' :: front) ((List.prefix_cons_inj '<').mpr inside) (by simp)
      (by simpa using more)
  · rintro ⟨balance, before⟩
    refine ⟨rfl, by simpa using balance, fun front inside some more => ?_⟩
    cases front with
    | nil => exact absurd rfl some
    | cons d front =>
      obtain ⟨rfl, within⟩ := List.cons_prefix_cons.mp inside
      simpa using before front within (by simpa using more)

/-! ### Block comments -/

/-- A block comment ends with the first `*/` in it. -/
theorem commentTail?_eq_some {s tail : List Char} (found : commentTail? s = some tail) :
    ∃ body, tail = body ++ ['*', '/'] ∧
      ∀ front, front ++ ['*', '/'] <+: tail → front = body := by
  fun_induction commentTail? s generalizing tail with
  | case1 rest =>
    cases found
    refine ⟨[], rfl, fun front inside => ?_⟩
    have shorter := inside.length_le
    rw [List.length_append] at shorter
    exact List.length_eq_zero_iff.mp (Nat.le_zero.mp (Nat.le_of_add_le_add_right shorter))
  | case2 c rest noEnd ih =>
    obtain ⟨t, there, rfl⟩ := Option.map_eq_some_iff.mp found
    obtain ⟨body, rfl, first⟩ := ih there
    refine ⟨c :: body, rfl, fun front inside => ?_⟩
    cases front with
    | nil =>
      obtain ⟨rfl, within⟩ := List.cons_prefix_cons.mp inside
      obtain ⟨later, rfl⟩ := within.trans (commentTail?_isPrefix there)
      exact absurd rfl (noEnd later rfl)
    | cons d front =>
      obtain ⟨rfl, within⟩ := List.cons_prefix_cons.mp inside
      rw [first front within]
  | case3 => cases found

theorem commentTail?_append_of_first {body : List Char}
    (first : ∀ front, front ++ ['*', '/'] <+: body ++ ['*', '/'] → front = body)
    (after : List Char) :
    commentTail? (body ++ '*' :: '/' :: after) = some (body ++ ['*', '/']) := by
  induction body with
  | nil => rfl
  | cons c body ih =>
    have later : ∀ front, front ++ ['*', '/'] <+: body ++ ['*', '/'] → front = body := by
      intro front inside
      exact (List.cons.inj (first (c :: front) ((List.prefix_cons_inj c).mpr inside))).2
    rw [List.cons_append, commentTail?, ih later, Option.map_some, List.cons_append]
    rintro rest rfl opens
    cases body with
    | nil => cases opens
    | cons d body =>
      obtain ⟨rfl, -⟩ := List.cons.inj opens
      cases first [] ⟨body ++ ['*', '/'], rfl⟩

/-! ### Numerals -/

/-- Digits with an optional point and fraction, or a point and digits. -/
inductive Unsigned : List Char → Prop
  | fraction {digits : List Char} : digits ≠ [] → (∀ d ∈ digits, d.isDigit = true) →
      Unsigned ('.' :: digits)
  | whole {digits : List Char} : digits ≠ [] → (∀ d ∈ digits, d.isDigit = true) → Unsigned digits
  | decimal {whole digits : List Char} : whole ≠ [] → (∀ d ∈ whole, d.isDigit = true) →
      (∀ d ∈ digits, d.isDigit = true) → Unsigned (whole ++ '.' :: digits)

/-- An unsigned number, with an optional minus sign. -/
inductive Numeral : List Char → Prop
  | positive {text : List Char} : Unsigned text → Numeral text
  | negative {text : List Char} : Unsigned text → Numeral ('-' :: text)

theorem isDigit_of_mem_takeWhile {s : List Char} :
    ∀ d ∈ s.takeWhile Char.isDigit, d.isDigit = true :=
  List.all_eq_true.mp List.all_takeWhile

theorem unsigned_of_unsignedNumeral? {s text : List Char} (found : unsignedNumeral? s = some text) :
    Unsigned text := by
  have digits : ∀ d ∈ s.takeWhile Char.isDigit, d.isDigit = true := isDigit_of_mem_takeWhile
  unfold unsignedNumeral? at found
  split at found
  · split at found
    · cases found
    · next present =>
      cases found
      exact .fraction present isDigit_of_mem_takeWhile
  · cases found
  · next present =>
    cases found
    exact .decimal present digits isDigit_of_mem_takeWhile
  · next present _ _ =>
    cases found
    exact .whole present digits

/-- The digits a number begins with are taken as a whole, and a point after them with them. -/
theorem unsignedNumeral?_digits {digits : List Char} (present : digits ≠ [])
    (allDigits : ∀ d ∈ digits, d.isDigit = true) (rest : List Char) :
    ∃ more, unsignedNumeral? (digits ++ rest) =
        some (digits ++ rest.takeWhile Char.isDigit ++ more) ∧
      ∀ later, rest.dropWhile Char.isDigit = '.' :: later →
        more = '.' :: later.takeWhile Char.isDigit := by
  unfold unsignedNumeral?
  rw [List.takeWhile_append_of_pos allDigits, List.dropWhile_append_of_pos allDigits]
  have taken : digits ++ rest.takeWhile Char.isDigit ≠ [] := by simp [present]
  split
  · next empty _ => exact absurd empty taken
  · next empty _ => exact absurd empty taken
  · next point _ =>
    refine ⟨_, rfl, fun later same => ?_⟩
    cases point.symm.trans same
    rfl
  · next noPoint _ =>
    refine ⟨[], by rw [List.append_nil], fun later same => ?_⟩
    exact absurd same (noPoint later)

theorem unsignedNumeral?_point {digits : List Char} (present : digits ≠ [])
    (allDigits : ∀ d ∈ digits, d.isDigit = true) (rest : List Char) :
    unsignedNumeral? ('.' :: (digits ++ rest)) =
      some ('.' :: (digits ++ rest.takeWhile Char.isDigit)) := by
  have noWhole : ('.' :: (digits ++ rest)).takeWhile Char.isDigit = [] := rfl
  have point : ('.' :: (digits ++ rest)).dropWhile Char.isDigit = '.' :: (digits ++ rest) := rfl
  unfold unsignedNumeral?
  simp only [noWhole, point, List.takeWhile_append_of_pos allDigits]
  split
  · next empty => exact absurd (List.append_eq_nil_iff.mp empty).1 present
  · rfl

theorem unsignedNumeral?_append {text : List Char} (unsigned : Unsigned text) (rest : List Char) :
    ∃ numeral, unsignedNumeral? (text ++ rest) = some numeral ∧ text <+: numeral := by
  cases unsigned with
  | fraction present allDigits =>
    exact ⟨_, unsignedNumeral?_point present allDigits rest,
      (List.prefix_cons_inj '.').mpr (List.prefix_append ..)⟩
  | whole present allDigits =>
    obtain ⟨more, found, -⟩ := unsignedNumeral?_digits present allDigits rest
    rw [List.append_assoc] at found
    exact ⟨_, found, List.prefix_append ..⟩
  | @decimal whole digits present allWhole allDigits =>
    obtain ⟨more, found, point⟩ :=
      unsignedNumeral?_digits present allWhole ('.' :: digits ++ rest)
    have stops : ('.' :: digits ++ rest).takeWhile Char.isDigit = [] := rfl
    have after : ('.' :: digits ++ rest).dropWhile Char.isDigit = '.' :: (digits ++ rest) := rfl
    rw [point _ after, stops, List.append_nil, List.takeWhile_append_of_pos allDigits] at found
    rw [List.append_assoc]
    exact ⟨_, found, ⟨rest.takeWhile Char.isDigit, by simp⟩⟩

theorem numeral_of_numeral? {s text : List Char} (found : numeral? s = some text) :
    Numeral text := by
  unfold numeral? at found
  split at found
  · obtain ⟨t, there, rfl⟩ := Option.map_eq_some_iff.mp found
    exact .negative (unsigned_of_unsignedNumeral? there)
  · exact .positive (unsigned_of_unsignedNumeral? found)

/-- A number begins with a digit or a point. -/
theorem Unsigned.eq_cons {text : List Char} (unsigned : Unsigned text) :
    ∃ c rest, text = c :: rest ∧ (c.isDigit = true ∨ c = '.') := by
  cases unsigned with
  | @fraction digits => exact ⟨'.', digits, rfl, .inr rfl⟩
  | whole present allDigits =>
    obtain ⟨d, rest, rfl⟩ := List.exists_cons_of_ne_nil present
    exact ⟨d, rest, rfl, .inl (allDigits d List.mem_cons_self)⟩
  | @decimal _ digits present allDigits =>
    obtain ⟨d, rest, rfl⟩ := List.exists_cons_of_ne_nil present
    exact ⟨d, rest ++ '.' :: digits, rfl, .inl (allDigits d List.mem_cons_self)⟩

theorem Numeral.eq_cons {text : List Char} (isNumeral : Numeral text) :
    ∃ c rest, text = c :: rest ∧ (c.isDigit = true ∨ c = '.' ∨ c = '-') := by
  cases isNumeral with
  | positive unsigned =>
    obtain ⟨c, rest, same, first⟩ := unsigned.eq_cons
    exact ⟨c, rest, same, first.imp_right .inl⟩
  | @negative text => exact ⟨'-', text, rfl, .inr (.inr rfl)⟩

theorem Unsigned.isDigit_or_eq_of_mem {text : List Char} (unsigned : Unsigned text) {c : Char}
    (inside : c ∈ text) : c.isDigit = true ∨ c = '.' := by
  cases unsigned with
  | fraction _ allDigits =>
    rcases List.mem_cons.mp inside with rfl | inside
    · exact .inr rfl
    · exact .inl (allDigits c inside)
  | whole _ allDigits => exact .inl (allDigits c inside)
  | decimal _ allWhole allDigits =>
    rcases List.mem_append.mp inside with inside | inside
    · exact .inl (allWhole c inside)
    rcases List.mem_cons.mp inside with rfl | inside
    · exact .inr rfl
    · exact .inl (allDigits c inside)

theorem Numeral.isDigit_or_eq_of_mem {text : List Char} (isNumeral : Numeral text) {c : Char}
    (inside : c ∈ text) : c.isDigit = true ∨ c = '.' ∨ c = '-' := by
  cases isNumeral with
  | positive unsigned => exact (unsigned.isDigit_or_eq_of_mem inside).imp_right .inl
  | negative unsigned =>
    rcases List.mem_cons.mp inside with rfl | inside
    · exact .inr (.inr rfl)
    · exact (unsigned.isDigit_or_eq_of_mem inside).imp_right .inl

theorem numeral?_of_ne_minus {c : Char} (noMinus : c ≠ '-') (rest : List Char) :
    numeral? (c :: rest) = unsignedNumeral? (c :: rest) := by
  unfold numeral?
  split
  · next same => exact absurd (List.cons.inj same).1 noMinus
  · rfl

theorem numeral?_append {text : List Char} (isNumeral : Numeral text) (rest : List Char) :
    ∃ numeral, numeral? (text ++ rest) = some numeral ∧ text <+: numeral := by
  cases isNumeral with
  | positive unsigned =>
    obtain ⟨c, front, rfl, first⟩ := unsigned.eq_cons
    have noMinus : c ≠ '-' := by
      rintro rfl
      exact absurd first (by decide)
    rw [List.cons_append, numeral?_of_ne_minus noMinus]
    exact unsignedNumeral?_append unsigned rest
  | @negative text unsigned =>
    obtain ⟨numeral, found, longer⟩ := unsignedNumeral?_append unsigned rest
    refine ⟨'-' :: numeral, ?_, (List.prefix_cons_inj '-').mpr longer⟩
    rw [List.cons_append, numeral?, found, Option.map_some]

/-- The numeral taken from a text is the longest one it begins with. -/
theorem numeral?_eq_some_iff {s text : List Char} :
    numeral? s = some text ↔ text <+: s ∧ Numeral text ∧
      ∀ other, other <+: s → Numeral other → other.length ≤ text.length := by
  constructor
  · intro found
    refine ⟨numeral?_isPrefix found, numeral_of_numeral? found, ?_⟩
    rintro other ⟨rest, rfl⟩ isNumeral
    obtain ⟨longest, there, within⟩ := numeral?_append isNumeral rest
    cases found.symm.trans there
    exact within.length_le
  · rintro ⟨⟨rest, rfl⟩, isNumeral, longest⟩
    obtain ⟨numeral, found, within⟩ := numeral?_append isNumeral rest
    rw [found]
    have shorter := longest numeral (numeral?_isPrefix found) (numeral_of_numeral? found)
    rw [within.eq_of_length_le shorter]

/-! ### Lexemes -/

/-- Which texts are lexemes of which kind, and what token they make: a string is decoded, every
other lexeme stands for itself. -/
inductive Spelled : TokenKind → String → List Char → Prop
  | string {body value : List Char} : Literal body value →
      Spelled .string (String.ofList value) ('"' :: body ++ ['"'])
  | html {text : List Char} : Bracketed text → Spelled .html (String.ofList text) text
  | arrow : Spelled .arrow "->" ['-', '>']
  | line : Spelled .line "--" ['-', '-']
  | numeral {text : List Char} : Numeral text → Spelled .numeral (String.ofList text) text
  | punctuation {kind : TokenKind} {c : Char} : TokenKind.ofPunctuation? c = some kind →
      Spelled kind (String.ofList [c]) [c]
  | identifier {c : Char} {rest : List Char} : isIdentifierStart c = true →
      (∀ d ∈ rest, isIdentifierPart d = true) →
      Spelled .identifier (String.ofList (c :: rest)) (c :: rest)

/-- No longer lexeme of its kind begins where this one does: no word goes on after a word, and no
numeral goes on after a numeral. -/
def Unextended (kind : TokenKind) (text after : List Char) : Prop :=
  (kind = .identifier → ∀ c ∈ after.head?, isIdentifierPart c = false) ∧
    (kind = .numeral → ∀ longer, longer <+: text ++ after → Numeral longer →
      longer.length ≤ text.length)

/-- Only words and numerals could go on. -/
theorem unextended_of_kind {kind : TokenKind} (word : kind ≠ .identifier)
    (numeral : kind ≠ .numeral) (text after : List Char) : Unextended kind text after :=
  ⟨fun same => absurd same word, fun same => absurd same numeral⟩

theorem unextended_nil (kind : TokenKind) (text : List Char) : Unextended kind text [] := by
  constructor
  · rintro - c ⟨⟩
  · intro _ longer inside _
    rw [List.append_nil] at inside
    exact inside.length_le

theorem Unextended.of_append {kind : TokenKind} {text inner after : List Char}
    (alone : Unextended kind text (inner ++ after)) : Unextended kind text inner := by
  constructor
  · intro word c first
    cases inner with
    | nil => cases first
    | cons d inner => exact alone.1 word c first
  · intro numeral longer inside
    exact alone.2 numeral longer (inside.trans ⟨after, List.append_assoc ..⟩)

/-! ### First characters -/

theorem toNat_of_isDigit {c : Char} (digit : c.isDigit = true) : 48 ≤ c.toNat ∧ c.toNat ≤ 57 := by
  rw [Char.isDigit, Bool.and_eq_true, decide_eq_true_eq, decide_eq_true_eq] at digit
  exact digit

theorem isBlank_eq_false_of_isDigit {c : Char} (digit : c.isDigit = true) : isBlank c = false := by
  have code := toNat_of_isDigit digit
  rw [Bool.eq_false_iff]
  intro blank
  obtain ⟨range, inside, bounds⟩ := CodeRanges.contains_iff.mp blank
  have apart : ∀ range ∈ blankRanges.entries, range.2 < 48 ∨ 57 < range.1 := by decide
  have := apart range inside
  omega

/-- A blank is in no class that holds none of the codes of blanks. -/
theorem contains_eq_false_of_isBlank {c : Char} {ranges : CodeRanges}
    (apart : ∀ range ∈ blankRanges.entries, ∀ distance < range.2 + 1 - range.1,
      ranges.contains (range.1 + distance) = false)
    (blank : isBlank c = true) : ranges.contains c.toNat = false := by
  obtain ⟨range, inside, first, last⟩ := CodeRanges.contains_iff.mp blank
  have := apart range inside (c.toNat - range.1) (by omega)
  rwa [Nat.add_sub_cancel' first] at this

theorem isLetter_eq_false_of_isBlank {c : Char} (blank : isBlank c = true) : isLetter c = false :=
  contains_eq_false_of_isBlank (by decide +kernel) blank

theorem isNumeric_eq_false_of_isBlank {c : Char} (blank : isBlank c = true) :
    isNumeric c = false :=
  contains_eq_false_of_isBlank (by decide +kernel) blank

theorem isDigit_eq_false_of_isIdentifierStart {c : Char} (start : isIdentifierStart c = true) :
    c.isDigit = false := by
  rw [Bool.eq_false_iff]
  intro digit
  have code := toNat_of_isDigit digit
  have noLetter : isLetter c = false :=
    CodeRanges.contains_eq_false_of_lt rfl (Nat.lt_of_le_of_lt code.2 (by decide))
  rw [isIdentifierStart, noLetter, Bool.false_or, beq_iff_eq] at start
  subst start
  cases digit

/-- A character that begins a word is none that cannot. -/
theorem ne_of_isIdentifierStart {c d : Char} (start : isIdentifierStart c = true)
    (other : isIdentifierStart d = false) : c ≠ d := by
  rintro rfl
  cases start.symm.trans other

theorem isBlank_eq_false_of_isIdentifierStart {c : Char} (start : isIdentifierStart c = true) :
    isBlank c = false := by
  rw [Bool.eq_false_iff]
  intro blank
  rw [isIdentifierStart, isLetter_eq_false_of_isBlank blank, Bool.false_or, beq_iff_eq] at start
  subst start
  cases blank

theorem isIdentifierStart_of_ofPunctuation? {c : Char} {kind : TokenKind}
    (found : TokenKind.ofPunctuation? c = some kind) : isIdentifierStart c = false := by
  unfold TokenKind.ofPunctuation? at found
  split at found <;> cases found <;> rfl

theorem ofPunctuation?_of_isIdentifierStart {c : Char} (start : isIdentifierStart c = true) :
    TokenKind.ofPunctuation? c = none := by
  cases found : TokenKind.ofPunctuation? c with
  | none => rfl
  | some kind => cases start.symm.trans (isIdentifierStart_of_ofPunctuation? found)

theorem numeral?_of_isIdentifierStart {c : Char} (start : isIdentifierStart c = true)
    (rest : List Char) : numeral? (c :: rest) = none := by
  cases found : numeral? (c :: rest) with
  | none => rfl
  | some text =>
    obtain ⟨d, more, rfl, first⟩ := (numeral_of_numeral? found).eq_cons
    obtain ⟨rfl, -⟩ := List.cons_prefix_cons.mp (numeral?_isPrefix found)
    rcases first with digit | rfl | rfl
    · cases digit.symm.trans (isDigit_eq_false_of_isIdentifierStart start)
    all_goals cases start

/-! ### What separates lexemes -/

/-- A character that stands in no word and no numeral. -/
structure Separates (c : Char) : Prop where
  word : isIdentifierPart c = false
  digit : c.isDigit = false
  point : c ≠ '.'
  minus : c ≠ '-'

theorem Separates.not_mem {c : Char} (separates : Separates c) {text : List Char}
    (isNumeral : Numeral text) : c ∉ text := by
  intro inside
  rcases isNumeral.isDigit_or_eq_of_mem inside with digit | point | minus
  · cases digit.symm.trans separates.digit
  · exact separates.point point
  · exact separates.minus minus

theorem separates_of_isBlank {c : Char} (blank : isBlank c = true) : Separates c where
  word := by
    have other : c ≠ '_' := by
      rintro rfl
      cases blank
    simp [isIdentifierPart, isLetter_eq_false_of_isBlank blank, isNumeric_eq_false_of_isBlank blank,
      other]
  digit := by
    rw [Bool.eq_false_iff]
    intro digit
    cases blank.symm.trans (isBlank_eq_false_of_isDigit digit)
  point := by
    rintro rfl
    cases blank
  minus := by
    rintro rfl
    cases blank

theorem separates_slash : Separates '/' := ⟨by decide, rfl, by decide, by decide⟩

/-- A character that no word and no numeral takes along ends a lexeme, whatever comes after it. -/
theorem Unextended.append_of_ends {kind : TokenKind} {text inner : List Char} {c : Char}
    (alone : Unextended kind text inner)
    (word : kind = .identifier → inner = [] → isIdentifierPart c = false)
    (ends : ∀ longer, Numeral longer → ¬ text ++ inner ++ [c] <+: longer) (later : List Char) :
    Unextended kind text (inner ++ c :: later) := by
  constructor
  · intro isWord d first
    cases inner with
    | nil =>
      cases first
      exact word isWord rfl
    | cons e inner => exact alone.1 isWord d first
  · intro numeral longer inside isNumeral
    by_cases short : longer.length ≤ (text ++ inner).length
    · apply alone.2 numeral longer _ isNumeral
      exact List.prefix_of_prefix_length_le inside ⟨c :: later, List.append_assoc ..⟩ short
    · -- a longer numeral would hold the character
      have reaches : text ++ inner ++ [c] <+: longer :=
        List.prefix_of_prefix_length_le ⟨later, by simp⟩ inside (by simp at short ⊢; omega)
      exact absurd reaches (ends longer isNumeral)

/-- A character that separates ends every lexeme, whatever comes after it. -/
theorem Unextended.append_cons {kind : TokenKind} {text inner : List Char} {c : Char}
    (alone : Unextended kind text inner) (separates : Separates c) (later : List Char) :
    Unextended kind text (inner ++ c :: later) := by
  apply alone.append_of_ends (fun _ _ => separates.word)
  intro longer isNumeral reaches
  exact separates.not_mem isNumeral (reaches.mem (by simp))

end DotGraph.Lexeme
