import DotGraph.Binary64.Basic
import DotGraph.Text.Blank

/-!
# Reading numbers

A number is read from an optional sign and either a word (`inf`, `infinity`, `nan`, in any case) or
decimal digits with an optional point and an optional power of ten. Blanks may surround it, and an
underscore may stand between two digits.
-/

namespace DotGraph.Binary64

def digitsValue (digits : List Char) : Nat :=
  digits.foldl (fun value c => 10 * value + (c.toNat - '0'.toNat)) 0

def readExponent? : List Char → Option Int
  | [] => some 0
  | e :: rest =>
    let (negative, digits) :=
      match rest with
      | '-' :: digits => (true, digits)
      | '+' :: digits => (false, digits)
      | digits => (false, digits)
    if (e = 'e' ∨ e = 'E') ∧ digits ≠ [] ∧ digits.all Char.isDigit then
      some (if negative then -(digitsValue digits : Int) else digitsValue digits)
    else none

def readUnsigned? (negative : Bool) (text : List Char) : Option Binary64 :=
  let word := text.map Char.toLower
  if word = ['i', 'n', 'f'] ∨ word = ['i', 'n', 'f', 'i', 'n', 'i', 't', 'y'] then
    some (.infinite negative)
  else if word = ['n', 'a', 'n'] then some .nan
  else
    let whole := text.takeWhile Char.isDigit
    let (fraction, rest) :=
      match text.dropWhile Char.isDigit with
      | '.' :: rest => (rest.takeWhile Char.isDigit, rest.dropWhile Char.isDigit)
      | rest => ([], rest)
    if whole ++ fraction = [] then none
    else (readExponent? rest).map fun exponent =>
      ofDecimal negative (digitsValue (whole ++ fraction)) (exponent - fraction.length)

def trimBlanks (text : List Char) : List Char :=
  ((text.dropWhile Text.isBlank).reverse.dropWhile Text.isBlank).reverse

/-- Drops the underscores that stand between two digits. No number holds one elsewhere. -/
def joinDigits : List Char → List Char
  | c :: '_' :: d :: rest =>
    if c.isDigit ∧ d.isDigit then c :: joinDigits (d :: rest) else c :: '_' :: joinDigits (d :: rest)
  | c :: rest => c :: joinDigits rest
  | [] => []

def ofText? (text : String) : Option Binary64 :=
  match joinDigits (trimBlanks text.toList) with
  | '-' :: rest => readUnsigned? true rest
  | '+' :: rest => readUnsigned? false rest
  | rest => readUnsigned? false rest

end DotGraph.Binary64
