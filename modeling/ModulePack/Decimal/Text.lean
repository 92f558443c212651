import ModulePack.Decimal.Shortest

/-!
# The text of a floating point number

The fewest digits that read back, positional from `0.0001` below `10 ^ 16` with at least one digit
after the point, otherwise with an exponent of at least two digits and its sign.
-/

namespace ModulePack.Decimal

def digitsOf (n : Nat) : List Char := (Nat.repr n).toList

/-- An exponent with its sign and at least two digits. -/
def exponentText (e : Int) : List Char :=
  let digits := digitsOf e.natAbs
  (if e < 0 then '-' else '+') :: (if digits.length < 2 then '0' :: digits else digits)

def Scaled.text (d : Scaled) : List Char :=
  let digits := digitsOf d.digits
  let point : Int := digits.length + d.exponent
  if -4 < point ∧ point ≤ 16 then
    if point ≤ 0 then '0' :: '.' :: List.replicate (-point).toNat '0' ++ digits
    else if digits.length ≤ point.toNat then
      digits ++ List.replicate (point.toNat - digits.length) '0' ++ ['.', '0']
    else digits.take point.toNat ++ '.' :: digits.drop point.toNat
  else
    let fraction := digits.drop 1
    digits.take 1 ++ (if fraction.isEmpty then [] else '.' :: fraction) ++
      'e' :: exponentText (point - 1)

structure Spelling where
  infinity : String
  undefined : String

/-- The text of a number whose infinities and undefined values have the given spellings. -/
def text (names : Spelling) (x : Float) : String :=
  let bits := x.toBits.toNat
  let sign := if isNegativeBits bits then "-" else ""
  match magnitudeOfBits bits with
  | .finite b => sign ++ String.ofList b.shortest.text
  | .infinite => sign ++ names.infinity
  | .undefined => names.undefined

end ModulePack.Decimal
