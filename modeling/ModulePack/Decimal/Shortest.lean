/-!
# The shortest decimal of a binary number

A finite binary number is `mantissa * 2 ^ exponent`. Every real number nearer to it than to its
neighbours reads back as it; among the decimals that do, `shortest` picks one with the fewest
digits, and of those the nearest one.
-/

namespace ModulePack.Decimal

/-- The number `mantissa * 2 ^ exponent`. -/
structure Binary where
  mantissa : Nat
  exponent : Int
  deriving DecidableEq, Repr

/-- The number `digits * 10 ^ exponent`. -/
structure Scaled where
  digits : Nat
  exponent : Int
  deriving DecidableEq, Repr

inductive Magnitude
  | finite (b : Binary)
  | infinite
  | undefined
  deriving DecidableEq, Repr

def magnitudeOfBits (bits : Nat) : Magnitude :=
  let fraction : Nat := bits % Nat.pow 2 52
  let scale : Nat := bits / Nat.pow 2 52 % Nat.pow 2 11
  if scale = 2047 then if fraction = 0 then .infinite else .undefined
  else if scale = 0 then .finite ⟨fraction, -1074⟩
  else .finite ⟨fraction + Nat.pow 2 52, (scale : Int) - 1075⟩

def isNegativeBits (bits : Nat) : Bool := bits / Nat.pow 2 63 % 2 == 1

def scaledLe (k : Nat) (e : Int) (u : Nat) (q : Int) : Bool :=
  k * Nat.pow 10 e.toNat * Nat.pow 2 (-q).toNat ≤ u * Nat.pow 2 q.toNat * Nat.pow 10 (-e).toNat

def scaledGe (k : Nat) (e : Int) (u : Nat) (q : Int) : Bool :=
  u * Nat.pow 2 q.toNat * Nat.pow 10 (-e).toNat ≤ k * Nat.pow 10 e.toNat * Nat.pow 2 (-q).toNat

/-- The interval of the reals that round to `b`, in quarters of its last place. -/
def Binary.bounds (b : Binary) : Nat × Nat :=
  let below := if b.mantissa = Nat.pow 2 52 ∧ -1074 < b.exponent then 1 else 2
  (4 * b.mantissa - below, 4 * b.mantissa + 2)

/-- Whether `k * 10 ^ e` reads back as `b`. -/
def Binary.readsBack (b : Binary) (k : Nat) (e : Int) : Bool :=
  let (low, high) := b.bounds
  let q := b.exponent - 2
  if b.mantissa % 2 = 0 then scaledGe k e low q && scaledLe k e high q
  else !scaledLe k e low q && !scaledGe k e high q

def Binary.leading (b : Binary) : Int :=
  let guess := ((b.mantissa.log2 : Int) + b.exponent) * 30103 / 100000
  if scaledLe 1 (guess + 1) b.mantissa b.exponent then guess + 1
  else if scaledLe 1 guess b.mantissa b.exponent then guess
  else guess - 1

/-- The neighbour of `b` that reads back on the grid of the multiples of `10 ^ e`, the nearer one
if both do. -/
def Binary.onGrid? (b : Binary) (e : Int) : Option Nat :=
  let num := b.mantissa * Nat.pow 2 b.exponent.toNat * Nat.pow 10 (-e).toNat
  let den := Nat.pow 2 (-b.exponent).toNat * Nat.pow 10 e.toNat
  let k := num / den
  let rest := num % den
  match b.readsBack k e, b.readsBack (k + 1) e with
  | true, true =>
    if 2 * rest < den then some k
    else if den < 2 * rest then some (k + 1)
    else if k % 2 = 0 then some k else some (k + 1)
  | true, false => some k
  | false, true => some (k + 1)
  | false, false => none

/-- The first grid with a hit, from the coarsest of `count` grids on. -/
def Binary.search (b : Binary) : (count : Nat) → Int → Scaled
  | 0, e => ⟨(b.onGrid? e).getD 0, e⟩
  | count + 1, e =>
    match b.onGrid? e with
    | some k => ⟨k, e⟩
    | none => b.search count (e - 1)

def Scaled.dropZeros : (fuel : Nat) → Scaled → Scaled
  | 0, d => d
  | fuel + 1, d =>
    if d.digits % 10 = 0 ∧ d.digits ≠ 0 then dropZeros fuel ⟨d.digits / 10, d.exponent + 1⟩ else d

def Binary.shortest (b : Binary) : Scaled :=
  if b.mantissa = 0 then ⟨0, 0⟩ else (b.search 17 b.leading).dropZeros 20

end ModulePack.Decimal
