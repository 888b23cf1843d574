import Luso.Number.Shortest
import Luso.Text.Blank

/-!
# Written numbers

Integers are written in decimal.  A double-precision number is written with the digits of its
shortest decimal and always shows that it is no integer: it has a decimal point or an exponent.
-/

namespace Luso

/-- An integer in decimal, with a minus sign if it is negative. -/
def writeInt (value : Int) : List Char :=
  if value < 0 then '-' :: Nat.toDigits 10 value.natAbs else Nat.toDigits 10 value.natAbs

namespace Decimal

/-- Numbers below `10 ^ greatestPlainPoint` are written without an exponent. -/
def greatestPlainPoint : Int := 16

/-- Numbers from `10 ^ (leastPlainPoint - 1)` on are written without an exponent. -/
def leastPlainPoint : Int := -3

/-- Digits with a decimal point after the first `point` ones, filled up with zeros. -/
def writePlain (digits : List Char) (point : Int) : List Char :=
  if point ≤ 0 then
    '0' :: '.' :: (List.replicate (-point).toNat '0' ++ digits)
  else
    let before := point.toNat
    let fraction := digits.drop before
    digits.take before ++ List.replicate (before - digits.length) '0' ++
      '.' :: (if fraction = [] then ['0'] else fraction)

/-- Digits with a decimal point after the first one, if more follow, and an exponent. -/
def writeScientific (digits : List Char) (exponent : Int) : List Char :=
  let fraction := digits.drop 1
  digits.take 1 ++ (if fraction = [] then [] else '.' :: fraction) ++ 'e' :: writeInt exponent

/-- A decimal, written with an exponent if it is very great or very small. -/
def write (decimal : Decimal) : List Char :=
  let digits := Nat.toDigits 10 decimal.digits
  let significant := Text.trimEndWhile (· == '0') digits
  let point := digits.length + decimal.exponent
  if significant = [] then
    ['0', '.', '0']
  else if leastPlainPoint ≤ point ∧ point ≤ greatestPlainPoint then
    writePlain significant point
  else
    writeScientific significant (point - 1)

end Decimal

namespace Binary64

/-- A double-precision number, written so that it is read back. -/
def write : Binary64 → List Char
  | .finite negative magnitude =>
      if negative then '-' :: magnitude.shortest.write else magnitude.shortest.write
  | .infinite negative => if negative then ['-', 'i', 'n', 'f'] else ['i', 'n', 'f']
  | .nan => ['N', 'a', 'N']

/-- The written form of a number as a string. -/
def text (value : Binary64) : String :=
  String.ofList value.write

end Binary64

/-- The written form of an integer as a string. -/
def intText (value : Int) : String :=
  String.ofList (writeInt value)

end Luso
