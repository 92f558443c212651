/-!
# Reading a floating point number

The floating point number nearest to a decimal. Decimals far out of range are infinite or zero.
-/

namespace ModulePack.Decimal

def isAsciiDigit (c : Char) : Bool := '0' ≤ c && c ≤ '9'

def natOfDigits (cs : List Char) : Nat := cs.foldl (fun n c => 10 * n + (c.toNat - 48)) 0

/-- The number `digits * 10 ^ exponent`. -/
def floatOf (negative : Bool) (digits : List Char) (exponent : Int) : Float :=
  let n := natOfDigits digits
  let size := ((digits.dropWhile (· == '0')).length : Int) + exponent
  let x : Float :=
    if n = 0 || size < -400 then 0.0
    else if 400 < size then 1.0 / 0.0
    else Float.ofScientific n (exponent < 0) exponent.natAbs
  if negative then -x else x

end ModulePack.Decimal
