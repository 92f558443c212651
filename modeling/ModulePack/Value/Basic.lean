import ModulePack.Dictionary
import ModulePack.Moment

/-!
# Values

What a configuration file or a snapshot may hold. Configuration is not checked when it is read, so
most of its settings are values until their first use.
-/

namespace ModulePack

inductive Value
  | null
  | bool (b : Bool)
  | int (n : Int)
  | float (x : Float)
  | text (s : String)
  | moment (m : Moment)
  | list (items : List Value)
  | table (fields : List (String × Value))
  deriving Inhabited

namespace Value

/-- Whether a value counts as set: nothing, zero and what is empty do not. -/
def isTruthy : Value → Bool
  | .null => false
  | .bool b => b
  | .int n => n != 0
  | .float x => x != 0.0
  | .text s => s != ""
  | .moment _ => true
  | .list items => !items.isEmpty
  | .table fields => !fields.isEmpty

def text? : Value → Option String
  | .text s => some s
  | _ => none

def field? : Value → String → Option Value
  | .table fields, name => Dictionary.find? fields name
  | _, _ => none

def table? : Value → Option (Dictionary Value)
  | .table fields => some fields
  | _ => none

/-- Whether a value is the number `n`. The truth values count as zero and one. -/
def isNumber (n : Int) : Value → Bool
  | .int k => k == n
  | .bool b => n == if b then 1 else 0
  | .float x => x == Float.ofInt n
  | _ => false

/-- What a value gives one after the other: items, characters or keys. -/
def elements? : Value → Option (List Value)
  | .list items => some items
  | .text s => some (s.toList.map fun c => .text (String.singleton c))
  | .table fields => some (fields.map fun field => .text field.1)
  | _ => none

/-- Whether a value may be a member of a set: lists and tables may not. -/
def isScalar : Value → Bool
  | .list _ | .table _ => false
  | _ => true

end Value

end ModulePack
