import ModulePack.Dictionary
import ModulePack.Issue
import ModulePack.NameSet
import ModulePack.Value.Basic

/-!
# Module records

What is known about one module of the project. A record is read from a value field by field, so all
that is wrong with it is known at once.
-/

namespace ModulePack

structure Record where
  name : String
  /-- Names of modules, in the order of the arguments of the module function. -/
  dependencies : List String := []
  exports : NameSet := .empty
  /-- The modules whose exports are exported again. -/
  reexports : List String := []
  /-- Whether the module is the one thing that it exports, which may not be an object. -/
  opaqueExport : Bool := false
  altName : Option String := none
  /-- Whether the file is a module at all. -/
  isModule : Bool := true
  code : Option String := none
  deriving DecidableEq

instance : Inhabited Record := ⟨⟨"", [], .empty, [], false, none, true, none⟩⟩

/-- Whether the compiled code is there; no code is empty. -/
def Record.hasCode (r : Record) : Bool := r.code.getD "" != ""

/-- What a value gives, or all that is wrong with it. -/
inductive Checked (α : Type)
  | valid (a : α)
  | invalid (issues : List Issue)
  deriving Inhabited

namespace Checked

def issue {α : Type} (kind : IssueKind) : Checked α := .invalid [⟨[], kind⟩]

def both {α β : Type} : Checked α → Checked β → Checked (α × β)
  | .valid a, .valid b => .valid (a, b)
  | .valid _, .invalid is => .invalid is
  | .invalid is, .valid _ => .invalid is
  | .invalid is, .invalid js => .invalid (is ++ js)

def map {α β : Type} (f : α → β) : Checked α → Checked β
  | .valid a => .valid (f a)
  | .invalid is => .invalid is

/-- The issues as seen one step further out. -/
def within {α : Type} (step : Step) : Checked α → Checked α
  | .valid a => .valid a
  | .invalid is => .invalid (is.map fun i => { i with place := step :: i.place })

def items {α : Type} (check : Value → Checked α) : (index : Nat) → List Value → Checked (List α)
  | _, [] => .valid []
  | index, v :: rest =>
    (both ((check v).within (.item index)) (items check (index + 1) rest)).map
      fun (a, as) => a :: as

end Checked

namespace Value

def asText : Value → Checked String
  | .text s => .valid s
  | _ => .issue .notText

def asOptionalText : Value → Checked (Option String)
  | .null => .valid none
  | v => (asText v).map some

def asTexts : Value → Checked (List String)
  | .list items => .items asText 0 items
  | _ => .issue .notList

def asTextSet : Value → Checked NameSet
  | .list items => (Checked.items asText 0 items).map .ofList
  | _ => .issue .notSet

def truthWords (b : Bool) : List String :=
  if b then ["1", "on", "t", "true", "y", "yes"] else ["0", "off", "f", "false", "n", "no"]

def truthOfWord (s : String) : Checked Bool :=
  let word := String.ofList (s.toList.map Char.toLower)
  if word ∈ truthWords true then .valid true
  else if word ∈ truthWords false then .valid false
  else .issue .truthSpelling

def truthOfInt (n : Int) : Checked Bool :=
  if n = 0 then .valid false else if n = 1 then .valid true else .issue .truthSpelling

def isInt64 (n : Int) : Bool := -9223372036854775808 ≤ n && n < 9223372036854775808

def isWholeFloat (x : Float) : Bool :=
  x.floor == x && -9223372036854775808.0 < x && x < 9223372036854775808.0

def asTruth : Value → Checked Bool
  | .bool b => .valid b
  | .text s => truthOfWord s
  | .int n => if isInt64 n then truthOfInt n else .issue .notTruthValue
  | .float x =>
    if isWholeFloat x then
      if x == 0.0 then .valid false else if x == 1.0 then .valid true else .issue .truthSpelling
    else .issue .notTruthValue
  | _ => .issue .notTruthValue

def required {α : Type} (fields : Dictionary Value) (name : String) (check : Value → Checked α) :
    Checked α :=
  (match fields.find? name with
    | some v => check v
    | none => .issue .missing).within (.field name)

def optional {α : Type} (fields : Dictionary Value) (name : String) (check : Value → Checked α)
    (absent : α) : Checked α :=
  match fields.find? name with
  | some v => (check v).within (.field name)
  | none => .valid absent

end Value

namespace Record

open Value in
def ofFields (fields : Dictionary Value) : Checked Record :=
  ((required fields "name" asText).both <|
    (optional fields "dependencies" asTexts []).both <|
    (optional fields "exports" asTextSet .empty).both <|
    (optional fields "export_module_references" asTexts []).both <|
    (optional fields "has_omnious_export" asTruth false).both <|
    (optional fields "alt_name" asOptionalText none).both <|
    (optional fields "has_import_or_export" asTruth true).both <|
    optional fields "compiled_code" asOptionalText none).map
  fun (name, dependencies, exports, reexports, opaqueExport, altName, isModule, code) =>
    ⟨name, dependencies, exports, reexports, opaqueExport, altName, isModule, code⟩

def ofValue : Value → Checked Record
  | .table fields => ofFields fields
  | _ => .issue .notRecord

def optionalText : Option String → Value
  | some s => .text s
  | none => .null

/-- The fields of a record without its code. -/
def toFields (r : Record) : Dictionary Value :=
  [("name", .text r.name),
    ("dependencies", .list (r.dependencies.map .text)),
    ("exports", .list (r.exports.names.map .text)),
    ("export_module_references", .list (r.reexports.map .text)),
    ("has_omnious_export", .bool r.opaqueExport),
    ("alt_name", optionalText r.altName),
    ("has_import_or_export", .bool r.isModule)]

end Record

end ModulePack
