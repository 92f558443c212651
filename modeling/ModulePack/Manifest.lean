import ModulePack.Config
import ModulePack.FileSystem.Text
import ModulePack.Mapping
import ModulePack.Toml.Parser
import ModulePack.Value.Pairs

/-!
# Manifests

A manifest is a TOML file with the configuration of a project. The settings of a profile are put
over those of the project before anything is made of them, so a profile is nothing but a merge.
-/

namespace ModulePack

namespace Manifest

def fileName : String := "tsbundle.toml"

def requiredKeys : List String := ["entry_module", "entry_function", "out_file"]

/-- The keys of the compiler section that a profile may set. -/
def compilerKeys : List String := ["target"]

def bundleKeys : List String :=
  ["amd_require_name", "commonjs_require_name", "prefer_commonjs", "minify", "minify_options",
    "embed_tslib", "no_loader_code", "error_handler_name", "eval_capability", "module_blacklist",
    "module_whitelist"]

structure Sections where
  project : Dictionary Value
  compiler : Dictionary Value
  bundle : Dictionary Value
  deriving Inhabited

def sectionFields (data : Dictionary Value) (name : String) : Except Fault (Dictionary Value) :=
  ((data.find? name).getD (.table [])).toFields

def sections (data : Dictionary Value) : Except Fault Sections := do
  let project ← sectionFields data "project"
  let compiler ← sectionFields data "compiler"
  let bundle ← sectionFields data "bundle"
  return ⟨project, compiler, bundle⟩

/-- The sections with a setting of a profile put over them, unless no profile may set its key. -/
def Sections.override? (s : Sections) (key : String) (value : Value) : Option Sections :=
  if key ∈ requiredKeys then some { s with project := s.project.insert key value }
  else if key ∈ compilerKeys then some { s with compiler := s.compiler.insert key value }
  else if key ∈ bundleKeys then some { s with bundle := s.bundle.insert key value }
  else none

def unknownKeyWarning (path : Path) (profile key : String) : String :=
  "Ignoring unknown key '" ++ key ++ "' in profile '" ++ profile ++ "' of " ++ path.toString

/-- The sections under the settings of a profile, and the keys that no profile may set. -/
def Sections.overrideAll (s : Sections) (settings : List (String × Value)) :
    Sections × List String :=
  settings.foldl (fun (s, unknown) (key, value) =>
    match s.override? key value with
    | some s => (s, unknown)
    | none => (s, unknown ++ [key])) (s, [])

/-- Whether a name is among the keys, the items or the parts of a value. -/
def hasName (v : Value) (name : String) : Except Fault Bool :=
  match v with
  | .table fields => .ok (Dictionary.contains fields name)
  | .list items => .ok (items.any fun item => item.text? == some name)
  | .text s =>
    .ok ((List.range (s.length + 1)).any fun i => name.toList.isPrefixOf (s.toList.drop i))
  | _ => .error .wrongKind

def profileSettings (path : Path) (data : Dictionary Value) (profile : String) :
    Except Error (List (String × Value)) := do
  let profiles := (data.find? "profiles").getD (.table [])
  let known ← (hasName profiles profile).mapError .fault
  if known then
    match profiles.field? profile with
    | none => throw (.fault .wrongKind)
    | some settings =>
      let items ← settings.toList.mapError .fault
      let _ ← (Value.sorted items).mapError .fault
      match settings with
      | .table fields => return fields
      | _ => throw (.fault .noSuchPart)
  else
    let items ← profiles.toList.mapError .fault
    let names ← (Value.sorted items).mapError .fault
    if Value.haveLongNumber names then throw (.fault .badValue)
    throw (.config (.unknownProfile path profile names))

def missingKeys (project : Dictionary Value) : List String :=
  requiredKeys.filter fun key => !((project.find? key).getD .null).isTruthy

def baseDirectory (fs : FileSystem) (directory : Path) (setting : Value) : Except Fault Path :=
  match setting.orElse (.text ".") with
  | .text s => resolveBase fs s directory
  | _ => .error .noSuchPart

def pathRules (setting : Value) : Except Fault (Dictionary (List Value)) :=
  match setting with
  | .table fields => fields.mapM fun (key, targets) => targets.toList.map (key, ·)
  | _ => .error .noSuchPart

def compilerOptions (fs : FileSystem) (directory : Path) (s : Dictionary Value) :
    Except Fault CompilerOptions := do
  let setting (name : String) (absent : Value) : Value := (s.find? name).getD absent
  let baseUrl ← baseDirectory fs directory (setting "base_url" .null)
  let rootDir ← resolveSetting fs directory (setting "root_dir" (.text "."))
  let outDir ← resolveSetting fs directory (setting "out_dir" (.text "build"))
  let paths ← pathRules (setting "paths" (.table []))
  let ambientModules ← (setting "ambient_modules" (.list [])).toList
  return ⟨baseUrl, rootDir, outDir, setting "target" (.text "ES5"), paths, ambientModules⟩

def configOfSections (fs : FileSystem) (directory : Path) (s : Sections) :
    Except Fault Config := do
  let required (name : String) : Value := (s.project.find? name).getD .null
  let setting (name : String) (absent : Value) : Value := (s.bundle.find? name).getD absent
  let compiler ← compilerOptions fs directory s.compiler
  let outFile ← resolveSetting fs directory (required "out_file")
  let excludePatterns ← (setting "module_blacklist" (.list [])).toList
  let includePatterns ← (setting "module_whitelist" (.list [])).toList
  let minifyOptions ← (setting "minify_options" (.table [])).toPairs
  return {
    projectDir := directory
    entryModule := required "entry_module"
    entryFunction := required "entry_function"
    outFile
    compiler
    amdRequireName := setting "amd_require_name" (.text defaultRequireName)
    commonjsRequireName := setting "commonjs_require_name" (.text defaultRequireName)
    preferCommonjs := setting "prefer_commonjs" (.bool false)
    minify := setting "minify" (.bool false)
    embedHelper := setting "embed_tslib" (.bool true)
    noLoaderCode := setting "no_loader_code" (.bool false)
    errorHandlerName := (setting "error_handler_name" .null).orElse .null
    evalCapability := setting "eval_capability" (.text "eval")
    excludePatterns
    includePatterns
    minifyOptions }

/-- The configuration of sections, or an error that names the required keys that are not set. -/
def configure (fs : FileSystem) (path : Path) (s : Sections) : Except Error Config :=
  match missingKeys s.project with
  | [] => (configOfSections fs path.parent s).mapError .fault
  | missing => .error (.config (.missingKeys path missing))

/-- The configuration that a manifest describes under a profile, and the warnings about it. -/
def ofTable (fs : FileSystem) (path : Path) (data : Dictionary Value) (profile : Option String) :
    Except Error Config × List String :=
  match sections data with
  | .error fault => (.error (.fault fault), [])
  | .ok base =>
    match profile.filter (· != "") with
    | none => (configure fs path base, [])
    | some profile =>
      match profileSettings path data profile with
      | .error e => (.error e, [])
      | .ok settings =>
        let (merged, unknown) := base.overrideAll settings
        (configure fs path merged, unknown.map (unknownKeyWarning path profile))

def readTable (fs : FileSystem) (path : Path) : Except Error (Dictionary Value) :=
  match fs.readText path with
  | .error (.file e) =>
    .error (.config (if e.fault = .notFound then .notFound path else .unreadable path e))
  | .error .badEncoding => .error (.fault .badEncoding)
  | .error .badName => .error (.fault .badValue)
  | .ok s =>
    match Toml.parse s with
    | .ok data => .ok data
    | .error e => .error ((e.fault?.map .fault).getD (.config (.invalid path)))

def load (fs : FileSystem) (path : Path) (profile : Option String) :
    Except Error Config × List String :=
  match fs.resolve path with
  | .error fault => (.error (.fault fault), [])
  | .ok path =>
    match readTable fs path with
    | .error e => (.error e, [])
    | .ok data => ofTable fs path data profile

end Manifest

end ModulePack
