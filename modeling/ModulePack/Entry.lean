import ModulePack.Error
import ModulePack.Json.Printer
import ModulePack.Record

/-!
# Entries of a bundle

An entry defines one module in a bundle. It is written as an array of two to four items: its name,
its dependencies and its metadata as far as they are needed, and its code.
-/

namespace ModulePack

structure EntryMeta where
  reexports : List String := []
  exports : List String := []
  opaqueExport : Bool := false
  altName : Option String := none
  deriving DecidableEq, Inhabited

structure Entry where
  name : String
  dependencies : List String := []
  metadata : Option EntryMeta := none
  code : String
  deriving DecidableEq, Inhabited

namespace EntryMeta

def toFields (m : EntryMeta) : List (String × Value) :=
  (if m.reexports.isEmpty then [] else [("exportRefs", .list (m.reexports.map .text))]) ++
    (if m.exports.isEmpty then [] else [("exports", .list (m.exports.map .text))]) ++
    (if m.opaqueExport then [("arbitraryType", .bool true)] else []) ++
    (if m.altName.getD "" = "" then [] else [("altName", .text (m.altName.getD ""))])

open Value in
/-- The metadata in a table, with the fields named as in a record. -/
def ofFields (fields : Dictionary Value) : Checked EntryMeta :=
  ((optional fields "export_refs" asTexts []).both <|
    (optional fields "exports" asTexts []).both <|
    (optional fields "arbitrary_type" asTruth false).both <|
    optional fields "alt_name" asOptionalText none).map
  fun (reexports, exports, opaqueExport, altName) => ⟨reexports, exports, opaqueExport, altName⟩

def ofValue : Value → Checked EntryMeta
  | .table fields => ofFields fields
  | _ => .issue .notRecord

def ofWire (wire : Dictionary Value) : Checked EntryMeta :=
  let fields := [("exportRefs", "export_refs"), ("exports", "exports"),
    ("arbitraryType", "arbitrary_type"), ("altName", "alt_name")].filterMap
    fun (key, field) => (Dictionary.find? wire key).map (field, ·)
  ofFields fields

end EntryMeta

namespace Entry

/-- The items of an entry, as few as carry all that it says. -/
def toItems (e : Entry) : List Value :=
  let dependencies := Value.list (e.dependencies.map .text)
  match e.metadata with
  | some m => [.text e.name, dependencies, .table m.toFields, .text e.code]
  | none =>
    if e.dependencies.isEmpty then [.text e.name, .text e.code]
    else [.text e.name, dependencies, .text e.code]

def toWire (e : Entry) : Value := .list e.toItems

open Value in
def ofFields (fields : Dictionary Value) : Checked Entry :=
  let asMeta : Value → Checked (Option EntryMeta)
    | .null => .valid none
    | v => (EntryMeta.ofValue v).map some
  ((required fields "name" asText).both <|
    (optional fields "dependencies" asTexts []).both <|
    (optional fields "meta" asMeta none).both <|
    required fields "code" asText).map
  fun (name, dependencies, metadata, code) => ⟨name, dependencies, metadata, code⟩

def ofValue : Value → Checked Entry
  | .table fields => ofFields fields
  | _ => .issue .notRecord

inductive WireError
  | itemCount (count : Nat)
  | issues (is : List Issue)
  | fault (f : Fault)
  deriving DecidableEq

def WireError.message? : WireError → Option String
  | .itemCount count =>
    some ("Bundle entry must have 2 to 4 items, got " ++ toString count)
  | _ => none

def ofChecked {α : Type} : Checked α → Except WireError α
  | .valid a => .ok a
  | .invalid is => .error (.issues is)

def ofItems : List Value → Except WireError Entry
  | [name, code] => ofChecked (ofFields [("name", name), ("code", code)])
  | [name, dependencies, code] =>
    ofChecked (ofFields [("name", name), ("dependencies", dependencies), ("code", code)])
  | [name, dependencies, .table wire, code] =>
    match EntryMeta.ofWire wire with
    | .invalid is => .error (.issues is)
    | .valid m =>
      (ofChecked (ofFields [("name", name), ("dependencies", dependencies), ("code", code)])).map
        fun e => { e with metadata := some m }
  | [_, _, _, _] => .error (.fault .noSuchPart)
  | items => .error (.itemCount items.length)

/-- The entry that an array stands for. A text counts as the array of its characters, a table as
the array of its keys. -/
def ofWire (wire : Value) : Except WireError Entry :=
  match wire.elements? with
  | some items => ofItems items
  | none => .error (.fault .wrongKind)

end Entry

def serializeEntries (entries : List Entry) : String :=
  Json.print .compact (.list (entries.map Entry.toWire))

/-- Whether the loader has to know more about a module than its dependencies. Lists of exports are
needed for modules in a circle alone, which others ask for exports before they are there. -/
def Record.needsMeta (r : Record) (circular : Bool) : Bool :=
  (circular && !r.exports.isEmpty) || r.altName.getD "" != "" || r.opaqueExport ||
    (circular && !r.reexports.isEmpty)

def Record.toEntry (r : Record) (circular : Bool) : Except BundleError Entry :=
  let code := r.code.getD ""
  if code = "" then .error (.codeMissing r.name)
  else
    let metadata : Option EntryMeta :=
      if r.needsMeta circular then
        some ⟨if circular then sortNames r.reexports else [],
          if circular then r.exports.names else [], r.opaqueExport, r.altName⟩
      else none
    .ok ⟨r.name, r.dependencies, metadata, code⟩

end ModulePack
