import DotGraph.Proofs.Json.Grammar
import DotGraph.Text.Run

/-!
# Reading numbers

A number of the grammar is read as the value it stands for, and nothing of it is left.
-/

namespace DotGraph.Json

theorem Digits.exists_cons {digits : List Char} (isDigits : Digits digits) :
    ∃ d more, digits = d :: more ∧ d.isDigit = true := by
  obtain ⟨d, more, rfl⟩ := List.exists_cons_of_ne_nil isDigits.nonempty
  exact ⟨d, more, rfl, isDigits.isDigit d List.mem_cons_self⟩

theorem Digits.splits {digits rest : List Char} (isDigits : Digits digits)
    (ends : ∀ c ∈ rest.head?, c.isDigit = false) :
    (digits ++ rest).takeWhile Char.isDigit = digits ∧
      (digits ++ rest).dropWhile Char.isDigit = rest :=
  ⟨Text.takeWhile_run isDigits.isDigit ends, Text.dropWhile_run isDigits.isDigit ends⟩

theorem Exponent.readExponent?_eq {power : Int} {text : List Char}
    (exponent : Exponent power text) : Binary64.readExponent? text = some power := by
  cases exponent with
  | absent => rfl
  | @power e negative sign digits mark signs isDigits =>
    obtain ⟨d, more, rfl, first⟩ := isDigits.exists_cons
    have all : (d :: more).all Char.isDigit = true := List.all_eq_true.mpr isDigits.isDigit
    cases signs with
    | absent =>
      have noMinus : d ≠ '-' := by rintro rfl; cases first
      have noPlus : d ≠ '+' := by rintro rfl; cases first
      simp [Binary64.readExponent?, mark, all, signed, noMinus, noPlus]
    | plus | minus => simp [Binary64.readExponent?, mark, all, signed]

theorem Exponent.mem_head {power : Int} {text : List Char} (exponent : Exponent power text) :
    ∀ c ∈ text.head?, c = 'e' ∨ c = 'E' := by
  cases exponent with
  | absent => simp
  | power mark => simpa using mark

theorem Whole.zero_cons {d : Char} {more : List Char} (isWhole : Whole (d :: more)) :
    ¬ (d = '0' ∧ 0 < more.length) := by
  rintro ⟨rfl, long⟩
  have short := isWhole.zero rfl
  rw [List.length_cons] at short
  omega

theorem toLower_eq_of_isDigit {c : Char} (digit : c.isDigit = true) : c.toLower = c := by
  simp only [Char.isDigit, Bool.and_eq_true, decide_eq_true_eq] at digit
  unfold Char.toLower
  apply dif_neg
  rintro ⟨low, -⟩
  exact absurd (UInt32.le_trans low digit.2) (by decide)

/-- A text that begins with a digit is no word, in any case. -/
theorem map_toLower_ne {d c : Char} (digit : d.isDigit = true) (other : c.isDigit = false)
    (text word : List Char) : (d :: text).map Char.toLower ≠ c :: word := by
  rw [List.map_cons, toLower_eq_of_isDigit digit]
  intro same
  cases same
  cases digit.symm.trans other

theorem readUnsigned?_eq (negative : Bool) {whole fraction front back : List Char} {power : Int}
    (isWhole : Whole whole) (fractional : Fraction fraction front)
    (exponent : Exponent power back) :
    Binary64.readUnsigned? negative (whole ++ (front ++ back)) =
      some (.ofDecimal negative (Binary64.digitsValue (whole ++ fraction))
        (power - fraction.length)) := by
  obtain ⟨d, more, rfl, first⟩ := isWhole.exists_cons
  have tail : ∀ c ∈ back.head?, c.isDigit = false ∧ c ≠ '.' := by
    intro c here
    rcases exponent.mem_head c here with rfl | rfl <;> decide
  unfold Binary64.readUnsigned?
  rw [List.cons_append, if_neg (not_or.mpr ⟨map_toLower_ne first rfl _ _,
    map_toLower_ne first rfl _ _⟩), if_neg (map_toLower_ne first rfl _ _), ← List.cons_append]
  cases fractional with
  | absent =>
    obtain ⟨taken, dropped⟩ := isWhole.splits fun c here => (tail c here).1
    rw [List.nil_append, taken, dropped]
    cases back with
    | nil => simp [exponent.readExponent?_eq]
    | cons c back =>
      rcases exponent.mem_head c rfl with rfl | rfl <;> simp [exponent.readExponent?_eq]
  | digits digits =>
    obtain ⟨taken, dropped⟩ :=
      @Digits.splits _ ('.' :: fraction ++ back) isWhole.toDigits fun c here => by cases here; rfl
    obtain ⟨taken', dropped'⟩ := digits.splits fun c here => (tail c here).1
    rw [taken, dropped]
    simp [taken', dropped', exponent.readExponent?_eq]

theorem readNumber?_whole (negative : Bool) {whole : List Char} (isWhole : Whole whole) :
    readNumber? (Binary64.sign negative ++ whole) =
      some (.int (signed negative (Binary64.digitsValue whole))) := by
  obtain ⟨d, more, rfl, first⟩ := isWhole.exists_cons
  have noMinus : d ≠ '-' := by rintro rfl; cases first
  obtain ⟨taken, dropped⟩ := @Digits.splits _ [] isWhole.toDigits (by simp)
  rw [List.append_nil] at taken dropped
  have noZeros := isWhole.zero_cons
  cases negative
  all_goals
    simp [Binary64.sign, readNumber?, signed, noMinus, taken, dropped, noZeros]

/-- What a number is read as whose digits do not end it. -/
theorem readNumber?_more (negative : Bool) {whole rest : List Char} (isWhole : Whole whole)
    (goesOn : (∃ e back, rest = e :: back ∧ (e = 'e' ∨ e = 'E')) ∨
      ∃ d back, rest = '.' :: d :: back ∧ d.isDigit = true) :
    readNumber? (Binary64.sign negative ++ (whole ++ rest)) =
      (Binary64.readUnsigned? negative (whole ++ rest)).map .float := by
  obtain ⟨d, more, rfl, first⟩ := isWhole.exists_cons
  have noMinus : d ≠ '-' := by rintro rfl; cases first
  have ends : ∀ c ∈ rest.head?, c.isDigit = false := by
    rcases goesOn with ⟨e, back, rfl, rfl | rfl⟩ | ⟨d, back, rfl, -⟩ <;> simp
  obtain ⟨taken, dropped⟩ := isWhole.splits ends
  rw [List.cons_append] at taken dropped ⊢
  have noZeros := isWhole.zero_cons
  rcases goesOn with ⟨e, back, rfl, rfl | rfl⟩ | ⟨d, back, rfl, digit⟩
  all_goals
    cases negative
    all_goals
      simp [Binary64.sign, readNumber?, *]

theorem Number.readNumber?_eq {value : Json} {text : List Char} (number : Number value text) :
    readNumber? text = some value := by
  cases number with
  | int negative isWhole => exact readNumber?_whole negative isWhole
  | @float negative whole fraction front back power isWhole fractional exponent more =>
    rw [List.append_assoc, List.append_assoc, readNumber?_more negative isWhole,
      readUnsigned?_eq negative isWhole fractional exponent]
    · rfl
    · cases fractional with
      | absent =>
        obtain ⟨e, others, rfl⟩ := List.exists_cons_of_ne_nil more
        exact .inl ⟨e, others, rfl, exponent.mem_head e rfl⟩
      | digits digits =>
        obtain ⟨d, others, rfl, first⟩ := digits.exists_cons
        exact .inr ⟨d, others ++ back, rfl, first⟩

/-! ### The front of a text that is a number -/

theorem isNumberPart_of_isDigit {c : Char} (digit : c.isDigit = true) : isNumberPart c = true := by
  simp [isNumberPart, digit]

theorem Digits.isNumberPart {digits : List Char} (isDigits : Digits digits) :
    ∀ c ∈ digits, isNumberPart c = true :=
  fun c inside => isNumberPart_of_isDigit (isDigits.isDigit c inside)

theorem Fraction.isNumberPart {digits text : List Char} (fraction : Fraction digits text) :
    ∀ c ∈ text, isNumberPart c = true := by
  cases fraction with
  | absent => exact List.forall_mem_nil _
  | digits digits => exact List.forall_mem_cons.mpr ⟨rfl, digits.isNumberPart⟩

theorem Exponent.isNumberPart {power : Int} {text : List Char} (exponent : Exponent power text) :
    ∀ c ∈ text, isNumberPart c = true := by
  cases exponent with
  | absent => exact List.forall_mem_nil _
  | power mark sign digits =>
    rw [List.cons_append, List.forall_mem_cons, List.forall_mem_append]
    refine ⟨?_, ?_, digits.isNumberPart⟩
    · rcases mark with rfl | rfl <;> rfl
    · cases sign with
      | absent => exact List.forall_mem_nil _
      | plus | minus => exact List.forall_mem_singleton.mpr rfl

theorem isNumberPart_sign (negative : Bool) :
    ∀ c ∈ Binary64.sign negative, isNumberPart c = true := by
  cases negative
  · exact List.forall_mem_nil _
  · exact List.forall_mem_singleton.mpr rfl

theorem Number.isNumberPart {value : Json} {text : List Char} (number : Number value text) :
    ∀ c ∈ text, isNumberPart c = true := by
  cases number with
  | int negative isWhole =>
    exact List.forall_mem_append.mpr ⟨isNumberPart_sign negative, isWhole.isNumberPart⟩
  | float negative isWhole fraction exponent =>
    simp only [List.forall_mem_append]
    exact ⟨⟨⟨isNumberPart_sign negative, isWhole.isNumberPart⟩, fraction.isNumberPart⟩,
      exponent.isNumberPart⟩

theorem Number.exists_cons {value : Json} {text : List Char} (number : Number value text) :
    ∃ c more, text = c :: more ∧ (c = '-' ∨ c.isDigit = true) := by
  have begins (negative : Bool) {whole : List Char} (isWhole : Whole whole) (rest : List Char) :
      ∃ c more, Binary64.sign negative ++ whole ++ rest = c :: more ∧
        (c = '-' ∨ c.isDigit = true) := by
    obtain ⟨d, more, rfl, first⟩ := isWhole.exists_cons
    cases negative
    · exact ⟨d, more ++ rest, rfl, .inr first⟩
    · exact ⟨'-', d :: more ++ rest, rfl, .inl rfl⟩
  cases number with
  | @int negative whole isWhole =>
    rw [← List.append_nil (Binary64.sign negative ++ whole)]
    exact begins negative isWhole []
  | @float negative whole fraction front back _ isWhole =>
    rw [List.append_assoc (Binary64.sign negative ++ whole) front back]
    exact begins negative isWhole (front ++ back)

end DotGraph.Json
