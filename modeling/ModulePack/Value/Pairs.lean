import ModulePack.Value.Order

/-!
# Values as lists of pairs

A list of lists of two stands for a table, the keys of which need not be texts. A key that is equal
to an earlier one gives that one a new value.
-/

namespace ModulePack.Value

def toList (v : Value) : Except Fault (List Value) :=
  match v.elements? with
  | some items => .ok items
  | none => .error .wrongKind

/-- The two elements of a value, the first of which can be a key. -/
def pair? (v : Value) : Except Fault (Value × Value) :=
  match v.elements? with
  | some [key, value] => if key.isScalar then .ok (key, value) else .error .wrongKind
  | some _ => .error .badValue
  | none => .error .wrongKind

def insertPair (key value : Value) : List (Value × Value) → List (Value × Value)
  | [] => [(key, value)]
  | (k, v) :: rest =>
    if k.same key then (k, value) :: rest else (k, v) :: insertPair key value rest

def toPairs (v : Value) : Except Fault (List (Value × Value)) :=
  match v with
  | .table fields => .ok (fields.map fun (key, value) => (.text key, value))
  | _ => do
    let items ← v.toList
    items.foldlM (fun pairs item => do
      let (key, value) ← item.pair?
      return insertPair key value pairs) []

def toFields (v : Value) : Except Fault (Dictionary Value) := do
  let pairs ← v.toPairs
  return pairs.filterMap fun (key, value) => key.text?.map (·, value)

end ModulePack.Value
