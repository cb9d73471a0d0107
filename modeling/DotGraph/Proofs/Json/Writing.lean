import DotGraph.Json.Printer
import DotGraph.Proofs.Json.Reading

/-!
# What is written is derived

Values without numbers and without repeated names are written, in every layout, as texts of the
grammar that stand for them (`Plain.document_render`). They are read back from these texts.
-/

namespace DotGraph.Json

/-- A value without numbers, in which no object has two fields of one name. -/
inductive Plain : Json → Prop
  | null : Plain .null
  | bool (value : Bool) : Plain (.bool value)
  | string (value : String) : Plain (.string value)
  | array {items : List Json} : (∀ item ∈ items, Plain item) → Plain (.array items)
  | object {fields : List (String × Json)} : (fields.map Prod.fst).Nodup →
      (∀ field ∈ fields, Plain field.2) → Plain (.object fields)

/-! ### Strings -/

theorem hexUnit?_hexDigits : ∀ n < 0x20,
    Text.hexDigits 4 n = ['0', '0', Nat.digitChar (n / 16), Nat.digitChar (n % 16)] ∧
      hexUnit? '0' '0' (Nat.digitChar (n / 16)) (Nat.digitChar (n % 16)) = some n := by
  decide

theorem charText_escape (c : Char) : CharText c (escape c) := by
  unfold escape
  split
  · next special => rcases special with rfl | rfl <;> exact .escape rfl
  next ordinary =>
  obtain ⟨noQuote, noBackslash⟩ := not_or.mp ordinary
  split
  · next newline => exact newline ▸ .escape rfl
  split
  · next carriageReturn => exact carriageReturn ▸ .escape rfl
  split
  · next tab => exact tab ▸ .escape rfl
  split
  · next formFeed => exact formFeed ▸ .escape rfl
  split
  · next backspace => exact backspace ▸ .escape rfl
  split
  · next low =>
    obtain ⟨digits, value⟩ := hexUnit?_hexDigits c.toNat low
    have noHigh : isHighSurrogate c.toNat = false := by
      rw [isHighSurrogate, decide_eq_false (by omega), Bool.false_and]
    have noLow : isLowSurrogate c.toNat = false := by
      rw [isLowSurrogate, decide_eq_false (by omega), Bool.false_and]
    have written := CharText.unit value noHigh noLow
    rwa [Char.ofNat_toNat, ← digits] at written
  · next high => exact .plain noQuote noBackslash (Nat.not_lt.mp high)

theorem charsText_flatMap (chars : List Char) : CharsText chars (chars.flatMap escape) := by
  induction chars with
  | nil => exact .nil
  | cons c chars ih => exact .cons (charText_escape c) ih

theorem stringText_writeString (value : String) : StringText value (writeString value) := by
  have quoted := StringText.quoted (charsText_flatMap value.toList)
  rwa [String.ofList_toList] at quoted

/-! ### Layout -/

theorem blank_lineBreak (layout : Layout) (level : Nat) : Blank (layout.lineBreak level) := by
  cases layout with
  | oneLine => exact List.forall_mem_nil _
  | indented width =>
    refine List.forall_mem_cons.mpr ⟨rfl, fun c inside => ?_⟩
    rw [List.eq_of_mem_replicate inside]
    rfl

/-- What stands behind the comma between two items. -/
theorem exists_separator (layout : Layout) (level : Nat) :
    ∃ blanks, layout.separator level = ',' :: blanks ∧ Blank blanks := by
  cases layout with
  | oneLine => exact ⟨[' '], rfl, List.forall_mem_singleton.mpr rfl⟩
  | indented width => exact ⟨_, rfl, blank_lineBreak _ level⟩

theorem Padded.before {before : List Char} (blank : Blank before) (text : List Char) :
    Padded text (before ++ text) := by
  have padded := @Padded.blanks text before [] blank (List.forall_mem_nil _)
  rwa [List.append_nil] at padded

/-! ### Values -/

section
variable {layout : Layout} {level : Nat}

theorem derives_writeItems {item : Json} {items : List Json} {before after : List Char}
    (first : Derives (.value item) (write layout level item))
    (others : ∀ item ∈ items, Derives (.value item) (write layout level item))
    (blank : Blank before) (blank' : Blank after) :
    Derives (.items (item :: items))
      (before ++ write layout level item ++ writeItems layout level items ++ after) := by
  -- the separator before an item ends in the blanks that pad it
  induction items generalizing item before with
  | nil =>
    rw [writeItems, List.append_nil]
    exact .item first (.blanks blank blank')
  | cons second items ih =>
    obtain ⟨blanks, separator, blank''⟩ := exists_separator layout level
    obtain ⟨next, others⟩ := List.forall_mem_cons.mp others
    have rest := ih next others blank''
    have whole := Derives.items first (Padded.before blank _) rest
    rw [writeItems, separator]
    simpa only [List.append_assoc, List.cons_append] using whole

theorem derives_writeFields {name : String} {value : Json} {fields : List (String × Json)}
    {before after : List Char} (first : Derives (.value value) (write layout level value))
    (others : ∀ field ∈ fields, Derives (.value field.2) (write layout level field.2))
    (blank : Blank before) (blank' : Blank after) :
    Derives (.fields ((name, value) :: fields))
      (before ++ writeString name ++ [':', ' '] ++ write layout level value ++
        writeFields layout level fields ++ after) := by
  have space : Blank [' '] := List.forall_mem_singleton.mpr rfl
  induction fields generalizing name value before with
  | nil =>
    have whole := Derives.field (stringText_writeString name) (.before blank _) first
      (.blanks space blank')
    rw [writeFields]
    simpa only [List.append_assoc, List.cons_append, List.nil_append] using whole
  | cons second fields ih =>
    obtain ⟨name', value'⟩ := second
    obtain ⟨blanks, separator, blank''⟩ := exists_separator layout level
    obtain ⟨next, others⟩ := List.forall_mem_cons.mp others
    have rest := @ih name' value' _ next others blank''
    have whole := Derives.fields (stringText_writeString name) (.before blank _) first
      (.before space _) rest
    rw [writeFields, separator]
    simpa only [List.append_assoc, List.cons_append, List.nil_append] using whole

end

theorem Plain.derives_write {value : Json} (plain : Plain value) (layout : Layout) (level : Nat) :
    Derives (.value value) (write layout level value) := by
  induction plain generalizing level with
  | null => exact .null
  | bool value =>
    cases value
    · exact .false
    · exact .true
  | string value => exact .string (stringText_writeString value)
  | @array items _ ih =>
    cases items with
    | nil => exact .emptyArray (List.forall_mem_nil _)
    | cons item items =>
      obtain ⟨first, others⟩ := List.forall_mem_cons.mp ih
      exact .array (derives_writeItems (first (level + 1))
        (fun item here => others item here (level + 1)) (blank_lineBreak layout (level + 1))
        (blank_lineBreak layout level))
  | @object fields distinct _ ih =>
    cases fields with
    | nil => exact .emptyObject (List.forall_mem_nil _)
    | cons field fields =>
      obtain ⟨first, others⟩ := List.forall_mem_cons.mp ih
      have whole := Derives.object (@derives_writeFields _ _ field.1 _ _ _ _ (first (level + 1))
        (fun field here => others field here (level + 1)) (blank_lineBreak layout (level + 1))
        (blank_lineBreak layout level))
      have kept : (OrderedMap.ofPairs (field :: fields)).entries = field :: fields :=
        congrArg OrderedMap.entries (OrderedMap.ofPairs_entries ⟨field :: fields, distinct⟩)
      rw [kept] at whole
      exact whole

theorem Plain.document_render {value : Json} (plain : Plain value) (layout : Layout) :
    Document value (value.render layout) := by
  refine ⟨write layout 0 value, plain.derives_write layout 0, ?_⟩
  rw [render, String.toList_ofList]
  exact .before (List.forall_mem_nil _) _

end DotGraph.Json
