import ModulePack.Assembly
import ModulePack.Manifest
import ModulePack.Store.Snapshot

/-!
# Projects

A project is loaded from its manifest and the snapshot of its modules, and its bundle is assembled
from both.
-/

namespace ModulePack

namespace Mappings

def textTargets? (targets : List Value) : Option (List String) := targets.mapM Value.text?

/-- The rules before the first with a target that is no text. -/
def textRules : List (String × List Value) → List (String × List String)
  | [] => []
  | (key, targets) :: rest =>
    match textTargets? targets with
    | some texts => (key, texts) :: textRules rest
    | none => []

/-- The table of configured rules, and the warnings about the rules up to the first that cannot be
used. -/
def ofSettings (fs : FileSystem) (base : Path) (rules : List (String × List Value)) :
    Except Fault Mappings × List String :=
  let usable := textRules rules
  match ofRules fs base usable with
  | (.ok mappings, warnings) =>
    (if usable.length = rules.length then .ok mappings else .error .noSuchPart, warnings)
  | failed => failed

end Mappings

namespace Project

def specifiers (fs : FileSystem) (c : Config) : Except Fault Specifiers × List String :=
  let options := c.compiler
  let (mappings, warnings) := Mappings.ofSettings fs options.baseUrl options.paths
  let result := do
    let mappings ← mappings
    if options.ambientModules.all Value.isScalar then
      return ⟨options.rootDir, .files ⟨options.baseUrl, mappings⟩ c.projectDir,
        options.ambientModules.filterMap Value.text?⟩
    else throw .wrongKind
  (result, warnings)

def assembler (fs : FileSystem) (c : Config) (minifier : Minifier) :
    Except Fault Assembler × List String :=
  let (found, warnings) := specifiers fs c
  (found.map fun specifiers => { config := c, specifiers, minifier }, warnings)

/-- The manifest of a project, which may be outside its directory. -/
def manifestPath (fs : FileSystem) (directory : Path) (manifest : Option Path) :
    Except Fault Path := do
  let directory ← fs.resolve directory
  match manifest with
  | some manifest => fs.resolve manifest
  | none => return directory / Manifest.fileName

def load (fs : FileSystem) (directory : Path) (manifest : Option Path) (profile : Option String) :
    Except Error (Config × Store) × List String :=
  match manifestPath fs directory manifest with
  | .error fault => (.error (.fault fault), [])
  | .ok manifest =>
    let (config, warnings) := Manifest.load fs manifest profile
    let result := do
      let config ← config
      let store ← Snapshot.load fs (config.compiler.outDir / Snapshot.fileName)
      return (config, store)
    (result, warnings)

def run {α : Type} (build : Build α) (fs : FileSystem) (store : Store) :
    Except Error α × BuildState :=
  Id.run (StateT.run (ExceptT.run build) ⟨fs, store, [], none⟩)

def produce (fs : FileSystem) (c : Config) (store : Store) (minifier : Minifier)
    (p : LaunchParameters) : Except Error String × FileSystem × List String × List MinifyCall :=
  let (made, warnings) := assembler fs c minifier
  match made with
  | .error fault => (.error (.fault fault), fs, warnings, [])
  | .ok a =>
    let (result, s) := run (a.produce p) fs store
    (result, s.files, warnings, s.calls)

def build (fs : FileSystem) (directory : Path) (manifest : Option Path) (profile : Option String)
    (minifier : Minifier) (p : LaunchParameters) :
    Except Error String × FileSystem × List String × List MinifyCall :=
  let (loaded, warnings) := load fs directory manifest profile
  match loaded with
  | .error e => (.error e, fs, warnings, [])
  | .ok (config, store) =>
    let (result, fs, more, calls) := produce fs config store minifier p
    (result, fs, warnings ++ more, calls)

end Project

end ModulePack
