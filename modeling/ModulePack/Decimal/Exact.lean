import ModulePack.Decimal.Shortest

/-!
# Comparing numbers

Whole numbers and floating point numbers are compared by their exact values.
-/

namespace ModulePack.Decimal

inductive Exact
  /-- The number `mantissa * 2 ^ exponent`. -/
  | finite (mantissa exponent : Int)
  | infinite (negative : Bool)
  | undefined
  deriving DecidableEq, Repr

namespace Exact

def ofInt (n : Int) : Exact := .finite n 0

def ofFloat (x : Float) : Exact :=
  let bits := x.toBits.toNat
  let negative := isNegativeBits bits
  match magnitudeOfBits bits with
  | .finite b => .finite (if negative then -(b.mantissa : Int) else b.mantissa) b.exponent
  | .infinite => .infinite negative
  | .undefined => .undefined

/-- The mantissas of two finite numbers over the smaller one of their exponents. -/
def align (a e b f : Int) : Int × Int :=
  (a * Nat.pow 2 (e - f).toNat, b * Nat.pow 2 (f - e).toNat)

/-- Whether a number is less than another one. An undefined number is less than none. -/
def less : Exact → Exact → Bool
  | .undefined, _ | _, .undefined => false
  | .infinite m, .infinite n => m && !n
  | .infinite m, .finite _ _ => m
  | .finite _ _, .infinite n => !n
  | .finite a e, .finite b f =>
    let (a, b) := align a e b f
    a < b

def same : Exact → Exact → Bool
  | .infinite m, .infinite n => m == n
  | .finite a e, .finite b f =>
    let (a, b) := align a e b f
    a == b
  | _, _ => false

end Exact

end ModulePack.Decimal
