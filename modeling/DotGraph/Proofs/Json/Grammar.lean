import DotGraph.Json.Parser
import DotGraph.Binary64.Text

/-!
# The grammar of JSON

Which texts stand for a value, said without a reader or a writer: blanks may surround every value
and name, a character of a string may be escaped in several ways, and numbers have no zeros in
front. `Document` is about whole texts.
-/

namespace DotGraph.Json

def Blank (text : List Char) : Prop := ∀ c ∈ text, isSpace c = true

/-- A text with blanks around it. -/
inductive Padded (text : List Char) : List Char → Prop
  | blanks {before after : List Char} : Blank before → Blank after →
      Padded text (before ++ text ++ after)

/-! ### Numbers -/

/-- Decimal digits, at least one. -/
structure Digits (text : List Char) : Prop where
  nonempty : text ≠ []
  isDigit : ∀ c ∈ text, c.isDigit = true

/-- Digits that begin with a zero only if they are one. -/
structure Whole (text : List Char) : Prop extends Digits text where
  zero : text.head? = some '0' → text.length = 1

/-- The digits behind the point, if there is one. -/
inductive Fraction : List Char → List Char → Prop
  | absent : Fraction [] []
  | digits {digits : List Char} : Digits digits → Fraction digits ('.' :: digits)

def signed (negative : Bool) (value : Nat) : Int := if negative then -value else value

/-- A sign in an exponent, and whether it is a minus. -/
inductive ExponentSign : Bool → List Char → Prop
  | absent : ExponentSign false []
  | plus : ExponentSign false ['+']
  | minus : ExponentSign true ['-']

/-- The power of ten, zero if none is written. -/
inductive Exponent : Int → List Char → Prop
  | absent : Exponent 0 []
  | power {e : Char} {negative : Bool} {sign digits : List Char} : e = 'e' ∨ e = 'E' →
      ExponentSign negative sign → Digits digits →
      Exponent (signed negative (Binary64.digitsValue digits)) (e :: sign ++ digits)

/-- A number is whole if it has neither a fraction nor a power of ten, and else the floating point
number nearest to the decimal. -/
inductive Number : Json → List Char → Prop
  | int (negative : Bool) {whole : List Char} : Whole whole →
      Number (.int (signed negative (Binary64.digitsValue whole)))
        (Binary64.sign negative ++ whole)
  | float (negative : Bool) {whole fraction front back : List Char} {power : Int} : Whole whole →
      Fraction fraction front → Exponent power back → front ++ back ≠ [] →
      Number (.float (.ofDecimal negative (Binary64.digitsValue (whole ++ fraction))
          (power - fraction.length)))
        (Binary64.sign negative ++ whole ++ front ++ back)

/-! ### Strings -/

/-- The ways to write one character of a string. A code point beyond the basic plane may be written
as a pair of surrogate units, and a surrogate unit stands in such a pair only. -/
inductive CharText : Char → List Char → Prop
  | plain {c : Char} : c ≠ '"' → c ≠ '\\' → 0x20 ≤ c.toNat → CharText c [c]
  | escape {letter c : Char} : escaped? letter = some c → CharText c ['\\', letter]
  | unit {a b c d : Char} {unit : Nat} : hexUnit? a b c d = some unit →
      isHighSurrogate unit = false → isLowSurrogate unit = false →
      CharText (Char.ofNat unit) ['\\', 'u', a, b, c, d]
  | pair {a b c d a' b' c' d' : Char} {high low : Nat} : hexUnit? a b c d = some high →
      isHighSurrogate high = true → hexUnit? a' b' c' d' = some low → isLowSurrogate low = true →
      CharText (Char.ofNat (0x10000 + (high - 0xd800) * 0x400 + (low - 0xdc00)))
        ['\\', 'u', a, b, c, d, '\\', 'u', a', b', c', d']

inductive CharsText : List Char → List Char → Prop
  | nil : CharsText [] []
  | cons {c : Char} {chars front back : List Char} : CharText c front → CharsText chars back →
      CharsText (c :: chars) (front ++ back)

inductive StringText : String → List Char → Prop
  | quoted {chars body : List Char} : CharsText chars body →
      StringText (String.ofList chars) ('"' :: body ++ ['"'])

/-! ### Values -/

/-- What a part of a text may stand for: a value, or what stands between the brackets of a list or
an object that is not empty. -/
inductive Phrase
  | value (value : Json)
  | items (items : List Json)
  | fields (fields : List (String × Json))

/-- The texts that stand for a phrase. Of two fields with one name the later value counts, in the
place of the first. -/
inductive Derives : Phrase → List Char → Prop
  | null : Derives (.value .null) ['n', 'u', 'l', 'l']
  | true : Derives (.value (.bool true)) ['t', 'r', 'u', 'e']
  | false : Derives (.value (.bool false)) ['f', 'a', 'l', 's', 'e']
  | number {value : Json} {text : List Char} : Number value text → Derives (.value value) text
  | string {value : String} {text : List Char} : StringText value text →
      Derives (.value (.string value)) text
  | emptyArray {blanks : List Char} : Blank blanks →
      Derives (.value (.array [])) ('[' :: blanks ++ [']'])
  | array {items : List Json} {text : List Char} : Derives (.items items) text →
      Derives (.value (.array items)) ('[' :: text ++ [']'])
  | emptyObject {blanks : List Char} : Blank blanks →
      Derives (.value (.object [])) ('{' :: blanks ++ ['}'])
  | object {fields : List (String × Json)} {text : List Char} : Derives (.fields fields) text →
      Derives (.value (.object (OrderedMap.ofPairs fields).entries)) ('{' :: text ++ ['}'])
  | item {item : Json} {inner text : List Char} : Derives (.value item) inner →
      Padded inner text → Derives (.items [item]) text
  | items {item : Json} {items : List Json} {inner text others : List Char} :
      Derives (.value item) inner → Padded inner text → Derives (.items items) others →
      Derives (.items (item :: items)) (text ++ ',' :: others)
  | field {name : String} {value : Json} {quoted named inner text : List Char} :
      StringText name quoted → Padded quoted named → Derives (.value value) inner →
      Padded inner text → Derives (.fields [(name, value)]) (named ++ ':' :: text)
  | fields {name : String} {value : Json} {fields : List (String × Json)}
      {quoted named inner text others : List Char} :
      StringText name quoted → Padded quoted named → Derives (.value value) inner →
      Padded inner text → Derives (.fields fields) others →
      Derives (.fields ((name, value) :: fields)) (named ++ ':' :: text ++ ',' :: others)

/-- A text that stands for a value as a whole. -/
def Document (value : Json) (text : String) : Prop :=
  ∃ inner, Derives (.value value) inner ∧ Padded inner text.toList

end DotGraph.Json
