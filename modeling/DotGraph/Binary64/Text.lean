import DotGraph.Binary64.Shortest

/-!
# The text of a number

A number is written with its shortest digits, positionally when its leading digit stands for a
power of ten from `10 ^ (-4)` to `10 ^ 15`, else with a power of ten of at least two digits.
-/

namespace DotGraph.Binary64

def isPositional (leading : Int) : Bool := -4 ≤ leading && leading < 16

/-- Digits with the point after the digit that stands for one; both sides have a digit. -/
def positional (digits : List Char) (leading : Int) : List Char :=
  if leading < 0 then
    ['0', '.'] ++ List.replicate (-leading - 1).toNat '0' ++ digits
  else
    let wholeLength := leading.toNat + 1
    let whole := digits.take wholeLength ++ List.replicate (wholeLength - digits.length) '0'
    let fraction := digits.drop wholeLength
    whole ++ '.' :: (if fraction = [] then ['0'] else fraction)

def scientific (digits : List Char) (leading : Int) : List Char :=
  let exponent := Nat.toDigits 10 leading.natAbs
  let fraction := digits.drop 1
  digits.take 1 ++ (if fraction = [] then [] else '.' :: fraction) ++
    ['e', if leading < 0 then '-' else '+'] ++ List.replicate (2 - exponent.length) '0' ++ exponent

def Decimal.text (decimal : Decimal) : List Char :=
  let all := Nat.toDigits 10 decimal.digits
  let leading := decimal.exponent + all.length - 1
  let digits := (all.reverse.dropWhile (· == '0')).reverse
  if isPositional leading then positional digits leading else scientific digits leading

def sign (negative : Bool) : List Char := if negative then ['-'] else []

def text : Binary64 → String
  | .nan => "nan"
  | .infinite negative => String.ofList (sign negative ++ ['i', 'n', 'f'])
  | .finite negative significand exponent =>
    String.ofList (sign negative ++
      if significand = 0 then ['0', '.', '0'] else (shortest significand exponent).text)

end DotGraph.Binary64
