import DotGraph.Proofs.Json.Number

/-!
# Reading what the grammar derives

A text that stands for a value is read as that value (`Document.ofText?_eq`), so it stands for no
other one.
-/

namespace DotGraph.Json

/-! ### Strings -/

/-- What is written for one character is read as this character. -/
theorem CharText.readString_append {c : Char} {text : List Char} (written : CharText c text)
    (rest : List Char) : readString (text ++ rest) = withChar c (readString rest) := by
  cases written with
  | plain noQuote noBackslash high => simp [readString, noBackslash, Nat.not_lt.mpr high]
  | escape escaped =>
    unfold escaped? at escaped
    split at escaped
    all_goals
      cases escaped
    all_goals
      simp [readString, escaped?]
  | unit value noHigh noLow => simp [readString, value, noHigh, noLow]
  | pair value isHigh value' isLow =>
    simp [readString, value, isHigh, value', isLow]

theorem CharsText.readString_eq {chars text : List Char} (written : CharsText chars text)
    (rest : List Char) : readString (text ++ '"' :: rest) = some (chars, rest) := by
  induction written with
  | nil => simp [readString]
  | cons first _ ih => rw [List.append_assoc, first.readString_append, ih]; rfl

/-! ### What a reader takes from the front -/

/-- A reader takes a value from the front of a text and leaves the rest of it. -/
def Reads {α : Type} {text : List Char} (front : Option (Front α text)) (value : α)
    (rest : List Char) : Prop :=
  front.map (fun front => (front.value, front.rest)) = some (value, rest)

/-- No number goes on with a text. -/
def Ends (rest : List Char) : Prop := ∀ c ∈ rest.head?, isNumberPart c = false

section
variable {α : Type} {text rest after : List Char}

theorem Reads.exists_eq {front : Option (Front α text)} {value : α}
    (reads : Reads front value rest) : ∃ shorter, front = some ⟨value, rest, shorter⟩ := by
  cases front with
  | none => cases reads
  | some front =>
    cases reads
    exact ⟨front.shorter, rfl⟩

theorem reads_stringFront {quoted : List Char} {name : String} (written : StringText name quoted)
    (start : skipSpace text = quoted ++ rest) : Reads (stringFront text) name rest := by
  cases written with
  | @quoted chars body written =>
    have read := written.readString_eq rest
    have start : skipSpace text = '"' :: (body ++ '"' :: rest) := by simpa using start
    unfold stringFront
    split
    · next skipped =>
      cases start.symm.trans skipped
      split
      · next failed => cases read.symm.trans failed
      · next found =>
        cases read.symm.trans found
        rfl
    · next other => exact absurd start (other _)

/-! ### Values

The text behind the blanks tells in which branch it is read; with the other ones it does not
agree. -/

theorem reads_valueFront_null (start : skipSpace text = ['n', 'u', 'l', 'l'] ++ rest) :
    Reads (valueFront text) .null rest := by
  rw [valueFront]
  split <;> rename_i skipped
  case h_1 =>
    cases start.symm.trans skipped
    rfl
  all_goals simp_all

theorem reads_valueFront_true (start : skipSpace text = ['t', 'r', 'u', 'e'] ++ rest) :
    Reads (valueFront text) (.bool true) rest := by
  rw [valueFront]
  split <;> rename_i skipped
  case h_2 =>
    cases start.symm.trans skipped
    rfl
  all_goals simp_all

theorem reads_valueFront_false (start : skipSpace text = ['f', 'a', 'l', 's', 'e'] ++ rest) :
    Reads (valueFront text) (.bool false) rest := by
  rw [valueFront]
  split <;> rename_i skipped
  case h_3 =>
    cases start.symm.trans skipped
    rfl
  all_goals simp_all

theorem reads_valueFront_string {quoted : List Char} {value : String}
    (written : StringText value quoted) (start : skipSpace text = quoted ++ rest) :
    Reads (valueFront text) (.string value) rest := by
  have read := reads_stringFront written start
  obtain ⟨shorter, found⟩ := read.exists_eq
  cases written
  rw [valueFront]
  split <;> rename_i skipped
  case h_6 =>
    rw [found]
    rfl
  all_goals simp_all

theorem reads_numberFront {lexeme : List Char} {value : Json} (number : Number value lexeme)
    (ends : Ends rest) :
    Reads (numberFront (lexeme ++ rest)) value rest := by
  have taken := Text.takeWhile_run number.isNumberPart ends
  have dropped := Text.dropWhile_run number.isNumberPart ends
  have nonempty : lexeme ≠ [] := by
    obtain ⟨c, more, rfl, -⟩ := number.exists_cons
    exact List.cons_ne_nil c more
  unfold numberFront
  split
  · next failed => rw [taken, number.readNumber?_eq] at failed; cases failed
  · next found =>
    rw [taken, number.readNumber?_eq] at found
    cases found
    rw [dif_neg (by rwa [taken])]
    exact congrArg (fun rest => some (value, rest)) dropped

theorem reads_valueFront_number {lexeme : List Char} {value : Json} (number : Number value lexeme)
    (start : skipSpace text = lexeme ++ rest) (ends : Ends rest) :
    Reads (valueFront text) value rest := by
  have found : Reads (numberFront (skipSpace text)) value rest := by
    rw [start]
    exact reads_numberFront number ends
  obtain ⟨shorter, found⟩ := found.exists_eq
  obtain ⟨c, more, rfl, first⟩ := number.exists_cons
  rw [valueFront]
  split <;> rename_i skipped
  case h_7 =>
    rw [found]
    rfl
  all_goals
    obtain rfl := (List.cons.inj (start.symm.trans skipped)).1
    rcases first with first | first <;> cases first

theorem reads_valueFront_emptyArray {inner : List Char} (start : skipSpace text = '[' :: inner)
    (closed : skipSpace inner = ']' :: rest) : Reads (valueFront text) (.array []) rest := by
  rw [valueFront]
  split <;> rename_i skipped
  case h_4 =>
    cases start.symm.trans skipped
    dsimp only
    split
    · next closed' =>
      cases closed.symm.trans closed'
      rfl
    · next opened => exact absurd closed (opened _)
  all_goals simp_all

theorem reads_valueFront_emptyObject {inner : List Char} (start : skipSpace text = '{' :: inner)
    (closed : skipSpace inner = '}' :: rest) : Reads (valueFront text) (.object []) rest := by
  rw [valueFront]
  split <;> rename_i skipped
  case h_5 =>
    cases start.symm.trans skipped
    dsimp only
    split
    · next closed' =>
      cases closed.symm.trans closed'
      rfl
    · next opened => exact absurd closed (opened _)
  all_goals simp_all

/-- No value begins with a bracket that closes one. -/
theorem valueFront_eq_none (closed : skipSpace text = ']' :: rest) : valueFront text = none := by
  have noNumber : numberFront (skipSpace text) = none := by
    rw [closed]
    rfl
  rw [valueFront]
  split <;> rename_i skipped
  case h_7 =>
    rw [noNumber]
    rfl
  all_goals simp_all

theorem itemsFront_eq_none (closed : skipSpace text = ']' :: rest) : itemsFront text = none := by
  rw [itemsFront, valueFront_eq_none closed]

theorem stringFront_eq_none (closed : skipSpace text = '}' :: rest) : stringFront text = none := by
  unfold stringFront
  split
  · next skipped => cases closed.symm.trans skipped
  · rfl

theorem fieldsFront_eq_none (closed : skipSpace text = '}' :: rest) : fieldsFront text = none := by
  rw [fieldsFront, stringFront_eq_none closed]

theorem reads_valueFront_array {inner : List Char} {items : List Json}
    (start : skipSpace text = '[' :: inner) (read : Reads (itemsFront inner) items rest) :
    Reads (valueFront text) (.array items) rest := by
  obtain ⟨shorter, found⟩ := read.exists_eq
  rw [valueFront]
  split <;> rename_i skipped
  case h_4 =>
    cases start.symm.trans skipped
    dsimp only
    split
    · next closed => rw [itemsFront_eq_none closed] at found; cases found
    · rw [found]; rfl
  all_goals simp_all

theorem reads_valueFront_object {inner : List Char} {fields : List (String × Json)}
    (start : skipSpace text = '{' :: inner) (read : Reads (fieldsFront inner) fields rest) :
    Reads (valueFront text) (.object (OrderedMap.ofPairs fields).entries) rest := by
  obtain ⟨shorter, found⟩ := read.exists_eq
  rw [valueFront]
  split <;> rename_i skipped
  case h_5 =>
    cases start.symm.trans skipped
    dsimp only
    split
    · next closed => rw [fieldsFront_eq_none closed] at found; cases found
    · rw [found]; rfl
  all_goals simp_all

theorem reads_itemsFront_last {item : Json} (read : Reads (valueFront text) item rest)
    (closed : skipSpace rest = ']' :: after) : Reads (itemsFront text) [item] after := by
  obtain ⟨shorter, found⟩ := read.exists_eq
  rw [itemsFront, found]
  dsimp only
  split
  · next skipped =>
    cases closed.symm.trans skipped
    rfl
  · next skipped => cases closed.symm.trans skipped
  · next other _ => exact absurd closed (other _)

theorem reads_itemsFront_cons {others : List Char} {item : Json} {items : List Json}
    (read : Reads (valueFront text) item rest) (comma : skipSpace rest = ',' :: others)
    (read' : Reads (itemsFront others) items after) :
    Reads (itemsFront text) (item :: items) after := by
  obtain ⟨shorter, found⟩ := read.exists_eq
  obtain ⟨shorter', found'⟩ := read'.exists_eq
  rw [itemsFront, found]
  dsimp only
  split
  · next skipped => cases comma.symm.trans skipped
  · next skipped =>
    cases comma.symm.trans skipped
    rw [found']
    rfl
  · next _ other => exact absurd comma (other _)

theorem reads_fieldsFront_last {named inner : List Char} {name : String} {value : Json}
    (read : Reads (stringFront text) name named) (colon : skipSpace named = ':' :: inner)
    (read' : Reads (valueFront inner) value rest) (closed : skipSpace rest = '}' :: after) :
    Reads (fieldsFront text) [(name, value)] after := by
  obtain ⟨short, found⟩ := read.exists_eq
  obtain ⟨shorter, found'⟩ := read'.exists_eq
  rw [fieldsFront, found]
  dsimp only
  split
  · next skipped =>
    cases colon.symm.trans skipped
    rw [found']
    dsimp only
    split
    · next skipped =>
      cases closed.symm.trans skipped
      rfl
    · next skipped => cases closed.symm.trans skipped
    · next other _ => exact absurd closed (other _)
  · next other => exact absurd colon (other _)

theorem reads_fieldsFront_cons {named inner others : List Char} {name : String} {value : Json}
    {fields : List (String × Json)} (read : Reads (stringFront text) name named)
    (colon : skipSpace named = ':' :: inner) (read' : Reads (valueFront inner) value rest)
    (comma : skipSpace rest = ',' :: others) (read'' : Reads (fieldsFront others) fields after) :
    Reads (fieldsFront text) ((name, value) :: fields) after := by
  obtain ⟨short, found⟩ := read.exists_eq
  obtain ⟨shorter, found'⟩ := read'.exists_eq
  obtain ⟨less, found''⟩ := read''.exists_eq
  rw [fieldsFront, found]
  dsimp only
  split
  · next skipped =>
    cases colon.symm.trans skipped
    rw [found']
    dsimp only
    split
    · next skipped => cases comma.symm.trans skipped
    · next skipped =>
      cases comma.symm.trans skipped
      rw [found'']
      rfl
    · next _ other => exact absurd comma (other _)
  · next other => exact absurd colon (other _)

end

/-! ### Phrases -/

theorem isNumberPart_eq_false_of_isSpace {c : Char} (space : isSpace c = true) :
    isNumberPart c = false := by
  simp only [isSpace, Bool.or_eq_true, beq_iff_eq] at space
  rcases space with ((rfl | rfl) | rfl) | rfl <;> rfl

theorem isSpace_eq_false_of_number {c : Char} (first : c = '-' ∨ c.isDigit = true) :
    isSpace c = false := by
  apply Bool.eq_false_iff.mpr
  intro space
  simp only [isSpace, Bool.or_eq_true, beq_iff_eq] at space
  rcases space with ((rfl | rfl) | rfl) | rfl
  all_goals
    rcases first with first | first <;> cases first

/-- A phrase is read from the front of every text that goes on behind it as the grammar wants. -/
def Phrase.ReadFrom : Phrase → List Char → Prop
  | .value json, text => ∀ before rest, Blank before → Ends rest →
    Reads (valueFront (before ++ text ++ rest)) json rest
  | .items list, text => ∀ rest, Reads (itemsFront (text ++ ']' :: rest)) list rest
  | .fields pairs, text => ∀ rest, Reads (fieldsFront (text ++ '}' :: rest)) pairs rest

theorem skipSpace_blanks {before rest : List Char} (blank : Blank before)
    (solid : ∀ c ∈ rest.head?, isSpace c = false) : skipSpace (before ++ rest) = rest :=
  Text.dropWhile_run blank solid

theorem skipSpace_cons {before rest : List Char} {c : Char} (blank : Blank before)
    (solid : isSpace c = false) : skipSpace (before ++ c :: rest) = c :: rest := by
  apply skipSpace_blanks blank
  rintro _ ⟨⟩
  exact solid

theorem skipSpace_padded {before inner rest more : List Char} {c : Char} (blank : Blank before)
    (start : inner = c :: more) (solid : isSpace c = false) :
    skipSpace (before ++ inner ++ rest) = inner ++ rest := by
  subst start
  rw [List.append_assoc]
  exact skipSpace_cons blank solid

theorem skipSpace_bracketed {before inner rest : List Char} {opening closing : Char}
    (blank : Blank before) (solid : isSpace opening = false) :
    skipSpace (before ++ (opening :: inner ++ [closing]) ++ rest) =
      opening :: (inner ++ closing :: rest) := by
  rw [List.append_assoc, List.cons_append, List.cons_append, List.append_assoc,
    List.singleton_append]
  exact skipSpace_cons blank solid

/-- Neither blanks nor a number go on with a text. -/
def Delimits (rest : List Char) : Prop :=
  ∀ c ∈ rest.head?, isSpace c = false ∧ isNumberPart c = false

theorem delimits_cons (c : Char) (rest : List Char) (solid : isSpace c = false)
    (noPart : isNumberPart c = false) : Delimits (c :: rest) := by
  rintro _ ⟨⟩
  exact ⟨solid, noPart⟩

/-- The blanks behind a value are left when it was read. -/
theorem Padded.reads {value : Json} {inner text rest : List Char} (padded : Padded inner text)
    (read : (Phrase.value value).ReadFrom inner) (delimits : Delimits rest) :
    ∃ left, Reads (valueFront (text ++ rest)) value left ∧ skipSpace left = rest := by
  cases padded with
  | @blanks before after blank blank' =>
    refine ⟨after ++ rest, ?_, ?_⟩
    · rw [List.append_assoc]
      apply read before (after ++ rest) blank
      cases after with
      | nil => exact fun c here => (delimits c here).2
      | cons c after =>
        rintro _ ⟨⟩
        exact isNumberPart_eq_false_of_isSpace (blank' c List.mem_cons_self)
    · exact skipSpace_blanks blank' fun c here => (delimits c here).1

theorem Padded.reads_name {name : String} {quoted named rest : List Char}
    (written : StringText name quoted) (padded : Padded quoted named) :
    ∃ left, Reads (stringFront (named ++ ':' :: rest)) name left ∧
      skipSpace left = ':' :: rest := by
  cases padded with
  | @blanks before after blank blank' =>
    refine ⟨after ++ ':' :: rest, reads_stringFront written ?_, skipSpace_cons blank' rfl⟩
    cases written
    rw [List.append_assoc]
    exact skipSpace_padded blank rfl rfl

theorem Derives.readFrom {phrase : Phrase} {text : List Char} (derives : Derives phrase text) :
    phrase.ReadFrom text := by
  induction derives with
  | null =>
    intro before rest blank _
    exact reads_valueFront_null (skipSpace_padded blank rfl rfl)
  | true =>
    intro before rest blank _
    exact reads_valueFront_true (skipSpace_padded blank rfl rfl)
  | false =>
    intro before rest blank _
    exact reads_valueFront_false (skipSpace_padded blank rfl rfl)
  | number number =>
    intro before rest blank ends
    obtain ⟨c, more, start, first⟩ := number.exists_cons
    have solid := isSpace_eq_false_of_number first
    exact reads_valueFront_number number (skipSpace_padded blank start solid) ends
  | string written =>
    intro before rest blank _
    apply reads_valueFront_string written
    cases written
    exact skipSpace_padded blank rfl rfl
  | emptyArray blank' =>
    intro before rest blank _
    exact reads_valueFront_emptyArray (skipSpace_bracketed blank rfl) (skipSpace_cons blank' rfl)
  | array _ ih =>
    intro before rest blank _
    exact reads_valueFront_array (skipSpace_bracketed blank rfl) (ih rest)
  | emptyObject blank' =>
    intro before rest blank _
    exact reads_valueFront_emptyObject (skipSpace_bracketed blank rfl) (skipSpace_cons blank' rfl)
  | object _ ih =>
    intro before rest blank _
    exact reads_valueFront_object (skipSpace_bracketed blank rfl) (ih rest)
  | item _ padded ih =>
    intro rest
    obtain ⟨left, read, next⟩ := padded.reads ih (delimits_cons ']' rest rfl rfl)
    exact reads_itemsFront_last read next
  | items _ padded _ ih ih' =>
    intro rest
    rw [List.append_assoc]
    obtain ⟨left, read, next⟩ := padded.reads ih (delimits_cons ',' _ rfl rfl)
    exact reads_itemsFront_cons read next (ih' rest)
  | field written named _ padded ih =>
    intro rest
    rw [List.append_assoc]
    obtain ⟨left, read, colon⟩ := named.reads_name written
    obtain ⟨left', read', next⟩ := padded.reads ih (delimits_cons '}' rest rfl rfl)
    exact reads_fieldsFront_last read colon read' next
  | fields written named _ padded _ ih ih' =>
    intro rest
    rw [List.append_assoc, List.append_assoc]
    obtain ⟨left, read, colon⟩ := named.reads_name written
    obtain ⟨left', read', next⟩ := padded.reads ih (delimits_cons ',' _ rfl rfl)
    exact reads_fieldsFront_cons read colon read' next (ih' rest)

theorem Document.ofText?_eq {value : Json} {text : String} (document : Document value text) :
    ofText? text = some value := by
  obtain ⟨inner, derives, padded⟩ := document
  have delimits : Delimits [] := by simp [Delimits]
  obtain ⟨left, read, next⟩ := padded.reads derives.readFrom delimits
  rw [List.append_nil] at read
  obtain ⟨shorter, found⟩ := read.exists_eq
  unfold ofText?
  rw [found]
  simp [next]

end DotGraph.Json
