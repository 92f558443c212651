import ModulePack.Dictionary
import ModulePack.SourceFile

/-!
# Path mappings

A rule maps specifiers to files. A rule whose key ends with `*` maps every specifier that begins
with the rest of the key to a list of targets, to which the rest of the specifier is appended; any
other rule maps one specifier to the first of its targets that is there. A specifier that leads to
more than one file, or to none, is not mapped.
-/

namespace ModulePack

/-- The directory that specifiers are mapped from; `base` is taken from the directory of the
configuration. -/
def resolveBase (fs : FileSystem) (base : String) (directory : Path) : Except Fault Path :=
  let base := if base = "" then "." else base
  if isAbsolutePath base then .ok (Path.ofString base) else fs.resolve (directory / base)

/-- The text that the rest of a specifier is appended to: the resolved target, with its slash. -/
def targetText (fs : FileSystem) (base : Path) (stem : String) : Except Fault String := do
  let text := (← fs.resolve (base / stem)).toString
  if stem = "" || stem = "." || Text.endsWith "/" stem || Text.endsWith "\\" stem then
    return text ++ "/"
  else return text

def appendRest (fs : FileSystem) (target rest : String) : Except Fault Path :=
  fs.resolve (Path.ofString (target ++ rest))

structure Mappings where
  fixed : Dictionary Path
  wildcard : Dictionary (List String)
  deriving DecidableEq, Repr, Inhabited

namespace Mappings

def empty : Mappings := ⟨[], []⟩

def isWildcard (s : String) : Bool := Text.endsWith "*" s

def dropStar (s : String) : String := Text.dropEnd "*" s

def inQuotes (texts : List String) : String := Text.join "\", \"" texts

def plainTargetWarning (key : String) (targets : List String) : String :=
  "Path mapping \"" ++ key ++ "\" is a wildcard, but target(s) \"" ++ inQuotes targets ++
    "\" are not. Will treat them as wildcarded."

def wildcardTargetWarning (key : String) (targets : List String) : String :=
  "Path mapping \"" ++ key ++ "\" is not a wildcard, but target(s) \"" ++ inQuotes targets ++
    "\" are. Ignoring these targets."

def missingTargetWarning (key : String) (tried : List Path) : String :=
  "Found none of the targets of path mapping \"" ++ key ++ "\": tried \"" ++
    inQuotes (tried.map Path.toString) ++ "\"."

def ambiguousWarning (specifier : String) (starts : List String) (files : List Path) : String :=
  "Module specifier \"" ++ specifier ++ "\" matches path mapping prefixes \"" ++ inQuotes starts ++
    "\" and multiple files are found within them: \"" ++ inQuotes (files.map Path.toString) ++
    "\". Will pick neither of them."

def fixedCandidates (fs : FileSystem) (base : Path) (targets : List String) :
    Except Fault (List Path) :=
  (targets.filter (!isWildcard ·)).mapM fun target => fs.resolve (base / target)

def addWildcard (fs : FileSystem) (base : Path) (m : Mappings) (key : String)
    (targets : List String) : Except Fault Mappings × List String :=
  let plain := targets.filter (!isWildcard ·)
  let warnings := if plain.isEmpty then [] else [plainTargetWarning key plain]
  let texts := targets.mapM (targetText fs base <| dropStar ·)
  (texts.map fun texts => { m with wildcard := m.wildcard.insert (dropStar key) texts }, warnings)

def addFixed (fs : FileSystem) (base : Path) (m : Mappings) (key : String)
    (targets : List String) : Except Fault Mappings × List String :=
  let starred := targets.filter isWildcard
  let warnings := if starred.isEmpty then [] else [wildcardTargetWarning key starred]
  match fixedCandidates fs base targets with
  | .error fault => (.error fault, warnings)
  | .ok candidates =>
    match fs.sourcesAmong candidates with
    | .error r => (.error (.refused r), warnings)
    | .ok (file :: _) => (.ok { m with fixed := m.fixed.insert key file.stripSource }, warnings)
    | .ok [] => (.ok m, warnings ++ [missingTargetWarning key candidates])

def addRule (fs : FileSystem) (base : Path) (m : Mappings) (key : String) (targets : List String) :
    Except Fault Mappings × List String :=
  if isWildcard key then m.addWildcard fs base key targets else m.addFixed fs base key targets

/-- The table with more rules, and the warnings about them, up to a rule that cannot be used. -/
def addRules (fs : FileSystem) (base : Path) (m : Mappings) :
    List (String × List String) → Except Fault Mappings × List String
  | [] => (.ok m, [])
  | (key, targets) :: rest =>
    match m.addRule fs base key targets with
    | (.error fault, warnings) => (.error fault, warnings)
    | (.ok m, warnings) =>
      let (result, more) := addRules fs base m rest
      (result, warnings ++ more)

def ofRules (fs : FileSystem) (base : Path) (rules : List (String × List String)) :
    Except Fault Mappings × List String := empty.addRules fs base rules

/-- The file that a matching rule contributes: the first of its targets that is there. -/
def contribution? (fs : FileSystem) (rest : String) : List String → Except Fault (Option Path)
  | [] => .ok none
  | target :: targets => do
    let file ← appendRest fs target rest
    if ← orRefused (fs.askSource file) then return some file.stripSource
    else contribution? fs rest targets

/-- The wildcard rules that match a specifier, with what is left of it. -/
def matching (rules : Dictionary (List String)) (specifier : String) :
    List (String × List String × String) :=
  rules.filterMap fun (start, targets) =>
    (Text.dropStart? start specifier).map fun rest => (start, targets, rest)

def fallback (fs : FileSystem) (base : Path) (specifier : String) :
    Except Fault (List (String × List String × String)) := do
  return [("", [← targetText fs base "./"], specifier)]

def searched (fs : FileSystem) (base : Path) (m : Mappings) (specifier : String) :
    Except Fault (List (String × List String × String)) :=
  match matching m.wildcard specifier with
  | [] => fallback fs base specifier
  | rules => .ok rules

/-- The files that the matching rules contribute, each once. -/
def files (fs : FileSystem) (rules : List (String × List String × String)) :
    Except Fault (List Path) := do
  let found ← rules.mapM fun (_, targets, rest) => contribution? fs rest targets
  return (found.filterMap id).foldl
    (fun found file => if file ∈ found then found else found ++ [file]) []

/-- The file that a specifier is mapped to, if it is one, and a warning if there are more. -/
def resolve (fs : FileSystem) (base : Path) (m : Mappings) (specifier : String) :
    Except Fault (Option Path × List String) :=
  match m.fixed.find? specifier with
  | some file => .ok (some file, [])
  | none => do
    let rules ← m.searched fs base specifier
    match ← files fs rules with
    | [] => return (none, [])
    | [file] => return (some file, [])
    | found => return (none, [ambiguousWarning specifier (rules.map (·.1)) found])

end Mappings

end ModulePack
