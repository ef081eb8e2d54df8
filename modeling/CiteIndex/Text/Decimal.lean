import CiteIndex.Text.Basic

/-!
# Decimals

Digits with a power of ten behind them, and where they leave the range of double precision.

- `Decimal.value`: the number that digits write
- `Decimal.exceedsDouble`: decimals that round to infinity
-/

namespace CiteIndex

namespace Decimal

def value (digits : Text) : Nat :=
  digits.foldl (fun n c => n * 10 + (c.toNat - '0'.toNat)) 0

def signedValue : Text → Int
  | '-' :: digits => -(value digits : Int)
  | '+' :: digits => value digits
  | digits => value digits

/-- The least number that rounds to infinity: half way between the largest finite double and the
power of two after it, where the tie goes up. -/
def infinityBound : Nat :=
  Nat.pow 2 1024 - Nat.pow 2 970

/-- Do digits with a power of ten behind them round to infinity in double precision. -/
def exceedsDouble (digits : Text) (exponent : Int) : Bool :=
  let significant := digits.dropWhile (· == '0')
  let places := (significant.length : Int) + exponent
  -- The number of digits decides, except among numbers with 309 digits before the point.
  if significant.isEmpty || places < 309 then false
  else if 309 < places then true
  else infinityBound * Nat.pow 10 (-exponent).toNat ≤ value significant * Nat.pow 10 exponent.toNat

end Decimal

end CiteIndex
