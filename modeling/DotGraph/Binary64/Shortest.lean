import DotGraph.Binary64.Basic

/-!
# Shortest decimals

The decimal of a positive number `m * 2 ^ q` is the nearest to it among those with the fewest
digits that are read back as the same number. What is read back as that number is the interval
that ends halfway to its neighbours, ends included if `m` is even. A grid of decimals meets the
interval only if one of the two grid points around the number does.
-/

namespace DotGraph.Binary64

/-- The number `digits * 10 ^ exponent`. -/
structure Decimal where
  digits : Nat
  exponent : Int
  deriving DecidableEq

def decimalLength (n : Nat) : Nat := (Nat.toDigits 10 n).length

/-- The exponent of the leading decimal digit of `m * 2 ^ q`. -/
def leadingExponent (m : Nat) (q : Int) : Int :=
  let numerator := m * Nat.pow 2 q.toNat
  let denominator := Nat.pow 2 (-q).toNat
  let estimate : Int := (decimalLength numerator : Int) - decimalLength denominator
  let reached :=
    denominator * Nat.pow 10 estimate.toNat ≤ numerator * Nat.pow 10 (-estimate).toNat
  if reached then estimate else estimate - 1

/-- The multiple of `10 ^ k` that is read back as `m * 2 ^ q` and lies nearest to it, the even one
of two. The quantities compared are whole: the grid point in units of `step`, the number and the
ends of its interval in quarters of `2 ^ q`. Below a power of two the numbers lie closer. -/
def gridPoint? (m : Nat) (q k : Int) : Option Nat :=
  let step := Nat.pow 2 (2 - q).toNat * Nat.pow 10 k.toNat
  let quarter := Nat.pow 2 (q - 2).toNat * Nat.pow 10 (-k).toNat
  let value := 4 * m * quarter
  let low := (4 * m - if m = Nat.pow 2 52 ∧ leastExponent < q then 1 else 2) * quarter
  let high := (4 * m + 2) * quarter
  let readsBack (point : Nat) : Bool :=
    if m % 2 = 0 then low ≤ point * step && point * step ≤ high
    else low < point * step && point * step < high
  let below := value / step
  let above := below + 1
  if readsBack below && readsBack above then
    let fromBelow := value - below * step
    let fromAbove := above * step - value
    some (if fromBelow < fromAbove ∨ fromBelow = fromAbove ∧ below % 2 = 0 then below else above)
  else if readsBack below then some below
  else if readsBack above then some above
  else none

/-- Seventeen digits are enough for every number. -/
def shortest (m : Nat) (q : Int) : Decimal :=
  let leading := leadingExponent m q
  let found := (List.range 17).findSome? fun (n : Nat) =>
    (gridPoint? m q (leading - n)).map (⟨·, leading - n⟩)
  found.getD ⟨m, q⟩

example : shortest (Nat.pow 2 52) (-52) = ⟨1, 0⟩ := by decide +kernel
example : shortest 1 (-1074) = ⟨5, -324⟩ := by decide +kernel
example : shortest 5764607523034235 (-59) = ⟨1, -2⟩ := by decide +kernel

end DotGraph.Binary64
