import ModulePack.CommandLine

/-!
# The program

Reads the files below the current directory and below the manifest's, runs the command on them and
puts what it wrote back in its place.
-/

namespace ModulePack.Program

def placeText (place : List String) : String := (Path.mk .root place).toString

def ancestors (place : List String) : List (List String) :=
  (List.range place.length).map fun n => place.take (n + 1)

/-- The places of a directory and of all below it. A link to a directory is not followed. -/
partial def placesBelow (place : List String) : IO (List (List String × Node)) := do
  let mut found := [(place, Node.directory)]
  for entry in ← (System.mkFilePath [placeText place]).readDir do
    let below := place ++ [entry.fileName]
    match (← entry.path.symlinkMetadata).type with
    | .dir => found := found ++ (← placesBelow below)
    | _ =>
      let bytes? ← (IO.FS.readBinFile entry.path).toBaseIO
      if let .ok bytes := bytes? then found := found ++ [(below, .file bytes)]
  return found

def readFiles (cwd : List String) (places : List (List String)) : IO FileSystem := do
  let mut files := (FileTree.mk cwd []).withNameLimit nameLimit
  for place in places do
    for above in ancestors place do
      files := files.put above .directory
    for (below, node) in ← placesBelow place do
      files := files.put below node
  return files

def writeFiles (before after : FileSystem) : IO Unit := do
  for (place, node) in after.nodes.reverse do
    if before.node? place != some node then
      let target := System.mkFilePath [placeText place]
      match node with
      | .directory => IO.FS.createDirAll target
      | .file bytes => IO.FS.writeBinFile target bytes

/-- The directories whose files a command may use. -/
def sources (cwd : List String) (args : List String) : List (List String) :=
  let manifests := args.filterMap fun arg =>
    if arg.endsWith ".toml" then some ((Path.ofString arg).resolve cwd).parent.parts else none
  (cwd :: manifests).eraseDups

def report : CommandLine.Outcome → IO UInt32
  | .usage => do
    IO.eprintln (Version.programName ++ ": the arguments are not understood")
    return 2
  | .help => return 0
  | .version => do
    IO.println CommandLine.versionText
    return 0
  | .done output => do
    IO.print output
    return 0
  | .failed output => do
    IO.print output
    return 1
  | .crashed output crash => do
    IO.print output
    IO.eprintln (repr crash).pretty
    return 1

end ModulePack.Program

open ModulePack in
def main (args : List String) : IO UInt32 := do
  let cwd := (Path.ofString (← IO.currentDir).toString).parts
  let files ← Program.readFiles cwd (Program.sources cwd args)
  let result := CommandLine.run files args
  for warning in result.warnings do
    IO.eprintln warning
  Program.writeFiles files result.files
  Program.report result.outcome
