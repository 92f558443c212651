import ModulePack.Decimal.Exact
import ModulePack.Fault
import ModulePack.Value.Basic

/-!
# Comparing values

Numbers are compared by their exact values, where a truth value counts as zero or one; texts by
their characters; lists by the first items that differ. Values of other kinds may be equal, but none
of them comes before another.
-/

namespace ModulePack.Value

def number? : Value → Option Decimal.Exact
  | .int n => some (.ofInt n)
  | .bool b => some (.ofInt (if b then 1 else 0))
  | .float x => some (.ofFloat x)
  | _ => none

mutual

def same : Value → Value → Bool
  | .null, .null => true
  | .text s, .text t => s == t
  | .moment m, .moment n => m.same n
  | .list xs, .list ys => sameItems xs ys
  | .table xs, .table ys => xs.length == ys.length && sameFields xs ys
  | v, w =>
    match v.number?, w.number? with
    | some x, some y => x.same y
    | _, _ => false

def sameItems : List Value → List Value → Bool
  | [], [] => true
  | x :: xs, y :: ys => same x y && sameItems xs ys
  | _, _ => false

/-- Whether each of the fields is in another table with an equal value. -/
def sameFields : List (String × Value) → Dictionary Value → Bool
  | [], _ => true
  | (key, x) :: xs, ys =>
    (match Dictionary.find? ys key with
      | some y => same x y
      | none => false) && sameFields xs ys

end

mutual

def less? : Value → Value → Option Bool
  | .text s, .text t => some (decide (s < t))
  | .moment m, .moment n => m.less? n
  | .list xs, .list ys => lessItems? xs ys
  | v, w =>
    match v.number?, w.number? with
    | some x, some y => some (x.less y)
    | _, _ => none

def lessItems? : List Value → List Value → Option Bool
  | [], ys => some (!ys.isEmpty)
  | _ :: _, [] => some false
  | x :: xs, y :: ys => if same x y then lessItems? xs ys else less? x y

end

def isBefore (v w : Value) : Except Fault Bool :=
  match v.less? w with
  | some b => .ok b
  | none => .error .wrongKind

/-- The values that go on a run after its last value, and those after the run. A run either falls
from each value to the next or does so nowhere. -/
def splitRun (falling : Bool) (last : Value) :
    List Value → Except Fault (List Value × List Value)
  | [] => .ok ([], [])
  | v :: rest => do
    if (← v.isBefore last) == falling then
      let (run, rest) ← splitRun falling v rest
      return (v :: run, rest)
    else return ([], v :: rest)

/-- The place after all sorted values that `v` is not before, found by halving. -/
def placeOf (v : Value) (sorted : List Value) : (fuel low high : Nat) → Except Fault Nat
  | 0, low, _ => .ok low
  | fuel + 1, low, high => do
    if low < high then
      let middle := (low + high) / 2
      if ← v.isBefore (sorted.getD middle .null) then placeOf v sorted fuel low middle
      else placeOf v sorted fuel (middle + 1) high
    else return low

def insertSorted (sorted : List Value) (v : Value) : Except Fault (List Value) := do
  return sorted.insertIdx (← placeOf v sorted sorted.length 0 sorted.length) v

/-- The values in order, equal ones as they stood. The run at the start is in order or is turned
round; all values after it are put into their places. -/
def sorted : List Value → Except Fault (List Value)
  | v :: w :: rest => do
    let falling ← w.isBefore v
    let (run, rest) ← splitRun falling w rest
    let run := v :: w :: run
    rest.foldlM insertSorted (if falling then run.reverse else run)
  | values => .ok values

end ModulePack.Value
