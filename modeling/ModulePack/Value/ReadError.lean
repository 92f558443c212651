import ModulePack.Fault

/-!
# Texts that are not read

A text is refused when it is malformed. A whole number with too many digits, values that are nested
too deep and an escape that is one half of a pair are refused in their own way, as no format forbids
them.
-/

namespace ModulePack

inductive ReadError
  | malformed
  | numberTooLong
  | nestedTooDeep
  /-- Half of a pair of units stands alone, which is no character, so that no text holds it. -/
  | halfPair
  deriving DecidableEq, Repr

/-- The most levels of a text with parts that stand in one another. -/
def depthLimit : Nat := 980

def digitLimit : Nat := 4300

/-- The least number that has more digits. -/
def longNumberBound : Nat := Nat.pow 10 digitLimit

def ReadError.fault? : ReadError → Option Fault
  | .malformed => none
  | .numberTooLong | .halfPair => some .badValue
  | .nestedTooDeep => some .nestedTooDeep

def isLongNumber (n : Int) : Bool := longNumberBound ≤ n.natAbs

end ModulePack
