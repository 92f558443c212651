import ModulePack.Mapping

/-!
# Specifiers

An import names a module by a specifier. `Specifiers.canonical` turns a specifier into the name
that the module is known by: a file of the project is known by its way from the module root,
anything else by the specifier itself.
-/

namespace ModulePack

structure Target where
  file : Path
  external : Bool
  deriving DecidableEq, Repr, Inhabited

def isRelativeSpecifier (s : String) : Bool :=
  s = "." || s = ".." || Text.startsWith "./" s || Text.startsWith "../" s

def splitParts (s : String) : List String := (Path.splitSlash s.toList).map String.ofList

/-- The package that a specifier belongs to; the name of a scoped package has two parts. -/
def packageName (s : String) : String :=
  match splitParts s with
  | scope :: name :: _ => if Text.startsWith "@" s then scope ++ "/" ++ name else scope
  | [name] => name
  | [] => ""

/-- The name of the module in a file: the way to it from the module root, without extension. -/
def moduleName (cwd : List String) (root file : Path) : String :=
  let way := (file.relativeText cwd root).toList.map fun c => if c = '\\' then '/' else c
  "/" ++ stripSourceExtension (String.ofList way)

structure MappingTable where
  base : Path
  mappings : Mappings
  deriving Inhabited

inductive Lookup
  /-- By a table, whatever the importing file. -/
  | listed (targets : Dictionary Target)
  /-- Among the files of a project. -/
  | files (table : MappingTable) (project : Path)
  deriving Inhabited

/-- The file or package that a specifier stands for in an importing file, and warnings. -/
def Lookup.target? (fs : FileSystem) (specifier : String) (importer : Path) :
    Lookup → Except Fault (Option Target × List String)
  | .listed targets => .ok (targets.find? specifier, [])
  | .files table project => do
    if isRelativeSpecifier specifier then
      let file? ← orRefused (fs.seekSource? (← fs.resolve (importer.parent / specifier)))
      return (file?.map fun file => ⟨file, false⟩, [])
    else
      let (mapped?, warnings) ← table.mappings.resolve fs table.base specifier
      let found? ← match mapped? with
        | some file => orRefused (fs.seekSource? file)
        | none => pure none
      match found? with
      | some file => return (some ⟨file, false⟩, warnings)
      | none =>
        let package := project / "node_modules" / packageName specifier
        let installed ← orRefused (fs.ask Node.isDirectory package)
        return (if installed then some ⟨package, true⟩ else none, warnings)

structure Specifiers where
  root : Path
  lookup : Lookup
  ambient : List String
  deriving Inhabited

namespace Specifiers

def moduleName (fs : FileSystem) (s : Specifiers) (file : Path) : String :=
  ModulePack.moduleName fs.cwd s.root file

def canonical (fs : FileSystem) (s : Specifiers) (specifier : String) (importer : Path) :
    Except Fault (String × List String) :=
  if specifier ∈ s.ambient then .ok (specifier, [])
  else do
    match ← s.lookup.target? fs specifier importer with
    | (some ⟨file, false⟩, warnings) => return (s.moduleName fs file, warnings)
    | (_, warnings) => return (specifier, warnings)

end Specifiers

end ModulePack
