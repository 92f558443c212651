import ModulePack.Error
import ModulePack.FileSystem.Text
import ModulePack.Toml.Parser

/-!
# Versions

The version of the program, and the version that a project file declares.
-/

namespace ModulePack.Version

def programName : String := "tsbundle"

def current : String := "0.3.0"

/-- The version that a project file declares, if it is the file of this program. -/
def declared (fs : FileSystem) (path : Path) : Except Fault (Option Value) :=
  match fs.readText path with
  | .error (.file _) => .ok none
  | .error .badEncoding => .error .badEncoding
  | .error .badName => .error .badValue
  | .ok s =>
    match Toml.parse s with
    | .error e =>
      match e.fault? with
      | some fault => .error fault
      | none => .ok none
    | .ok data =>
      match (data.find? "project").getD (.table []) with
      | .table fields =>
        let project : Dictionary Value := fields
        if (project.find? "name").any fun name => name.text? == some programName then
          .ok (project.find? "version")
        else .ok none
      | _ => .error .noSuchPart

end ModulePack.Version
