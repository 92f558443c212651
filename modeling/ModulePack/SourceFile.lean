import ModulePack.Fault
import ModulePack.FileSystem.Basic

/-!
# Source files

A source file is named with or without its extension. Without it, the known extensions are tried
in their order; a directory stands for its index file. A path is resolved by its text alone, as in a
tree without symbolic links, and so without a look that a host could refuse.
-/

namespace ModulePack

/-- The extensions of source files, longest first, so that a declaration file loses all of its. -/
def sourceExtensions : List String := [".d.ts", ".tsx", ".ts"]

def stripSourceExtension (s : String) : String :=
  (sourceExtensions.findSome? fun ext => Text.dropEnd? ext s).getD s

/-- Whether a configured path has a start of its own, also one that names a drive. -/
def isAbsolutePath (s : String) : Bool :=
  match s.toList with
  | '/' :: _ => true
  | drive :: ':' :: slash :: _ => drive.isAlpha && (slash == '/' || slash == '\\')
  | _ => false

namespace Path

def addExtension (p : Path) (ext : String) : Path := ofString (p.toString ++ ext)

def spellings (p : Path) : List Path := p :: sourceExtensions.map p.addExtension

def stripSource (p : Path) : Path := ofString (stripSourceExtension p.toString)

end Path

def sourceCandidates (p : Path) : List Path :=
  p.spellings ++ sourceExtensions.map fun ext => p / ("index" ++ ext)

namespace FileTree

def sourceExists (tree : FileTree) (p : Path) : Bool := p.spellings.any tree.isFile

def findSource? (tree : FileTree) (p : Path) : Option Path := (sourceCandidates p).find? tree.isFile

/-- The path that `p` names in the current directory, without a look at any file, unless one of its
parts can name nothing. -/
def resolve (tree : FileTree) (p : Path) : Except Fault Path :=
  if p.isValid then .ok (p.resolve tree.cwd) else .error .badValue

end FileTree

namespace FileSystem

/-- The first of the paths that is a file; those after it are not looked at. -/
def firstFile? (fs : FileSystem) : List Path → Except Refusal (Option Path)
  | [] => .ok none
  | p :: rest => do
    if ← fs.ask Node.isFile p then return some p else firstFile? fs rest

def askSource (fs : FileSystem) (p : Path) : Except Refusal Bool :=
  (fs.firstFile? p.spellings).map Option.isSome

def sourcesAmong (fs : FileSystem) : List Path → Except Refusal (List Path)
  | [] => .ok []
  | p :: rest => do
    let there ← fs.askSource p
    let others ← sourcesAmong fs rest
    return if there then p :: others else others

def seekSource? (fs : FileSystem) (p : Path) : Except Refusal (Option Path) :=
  fs.firstFile? (sourceCandidates p)

end FileSystem

/-- An answer of a host as part of what stops with a fault where there is none. -/
def orRefused {α : Type} (answer : Except Refusal α) : Except Fault α := answer.mapError .refused

end ModulePack
