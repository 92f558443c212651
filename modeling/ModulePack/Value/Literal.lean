import ModulePack.Decimal.Text
import ModulePack.Fault
import ModulePack.Text.Affix
import ModulePack.Text.Quoted
import ModulePack.Value.Basic
import ModulePack.Value.ReadError

/-!
# Values as text

`Value.literal` writes a value on one line with texts quoted; `Value.display` differs for a text and
a moment alone, which it leaves as they are. Whole numbers with too many digits are not written.
-/

namespace ModulePack.Value

def floatNames : Decimal.Spelling := ⟨"inf", "nan"⟩

mutual

def literal : Value → String
  | .null => "None"
  | .bool b => if b then "True" else "False"
  | .int n => toString n
  | .float x => Decimal.text floatNames x
  | .text s => Text.quote s
  | .moment m => m.literal
  | .list items => "[" ++ Text.join ", " (literals items) ++ "]"
  | .table fields => "\x7b" ++ Text.join ", " (fieldLiterals fields) ++ "\x7d"

def literals : List Value → List String
  | [] => []
  | v :: rest => literal v :: literals rest

def fieldLiterals : List (String × Value) → List String
  | [] => []
  | (key, v) :: rest => (Text.quote key ++ ": " ++ literal v) :: fieldLiterals rest

end

def display : Value → String
  | .text s => s
  | .moment m => m.text
  | v => v.literal

mutual

def hasLongNumber : Value → Bool
  | .int n => isLongNumber n
  | .list items => haveLongNumber items
  | .table fields => fieldsHaveLongNumber fields
  | _ => false

def haveLongNumber : List Value → Bool
  | [] => false
  | v :: rest => hasLongNumber v || haveLongNumber rest

def fieldsHaveLongNumber : List (String × Value) → Bool
  | [] => false
  | (_, v) :: rest => hasLongNumber v || fieldsHaveLongNumber rest

end

def display? (v : Value) : Except Fault String :=
  if v.hasLongNumber then .error .badValue else .ok v.display

end ModulePack.Value
