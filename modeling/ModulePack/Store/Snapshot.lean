import ModulePack.Error
import ModulePack.FileSystem.Text
import ModulePack.Json.Parser
import ModulePack.Json.Printer
import ModulePack.Store.Basic

/-!
# Snapshots of a store

A snapshot is a JSON file with a version and the records of a store in the order of their names.
Compiled code is not part of it.
-/

namespace ModulePack

namespace Snapshot

def fileName : String := ".tsbundle-modules.json"

def version : Int := 1

def ofStore (s : Store) : Value :=
  .table [("version", .int version),
    ("modules", .list (s.names.filterMap fun name => (s.get? name).map fun r => .table r.toFields))]

def text (s : Store) : String := Json.print .snapshot (ofStore s) ++ "\n"

def save (fs : FileSystem) (s : Store) (p : Path) : FileSystem × Except Error Unit :=
  match fs.writeText p (text s) with
  | (fs, .ok ()) => (fs, .ok ())
  | (fs, .error (.file e)) => (fs, .error (.store (.notWritten p e)))
  | (fs, .error _) => (fs, .error (.fault .badValue))

/-- The records of a list of values, up to the first that is no record. -/
def readRecords (p : Path) : List Value → Except Error (List Record)
  | [] => .ok []
  | v :: rest =>
    match Record.ofValue v with
    | .invalid issues => .error (.store (.malformedRecord p issues))
    | .valid r => (readRecords p rest).map (r :: ·)

def toStore (p : Path) (snapshot : Value) : Except Error Store :=
  if (snapshot.field? "version").any (Value.isNumber version) then
    match ((snapshot.field? "modules").getD (.list [])).elements? with
    | none => .error (.fault .wrongKind)
    | some items => (readRecords p items).map Store.ofRecords
  else .error (.store (.unsupported p))

def load (fs : FileSystem) (p : Path) : Except Error Store :=
  match fs.readText p with
  | .error (.file e) =>
    .error (.store (if e.fault = .notFound then .notFound p else .unreadable p e))
  | .error .badEncoding => .error (.fault .badEncoding)
  | .error .badName => .error (.fault .badValue)
  | .ok s =>
    match Json.parse s with
    | .error e => .error ((e.fault?.map .fault).getD (.store (.invalid p)))
    | .ok snapshot => toStore p snapshot

end Snapshot

end ModulePack
