import ModulePack.Fault
import ModulePack.Path
import ModulePack.Text.Quoted

/-!
# File systems

Files form a tree: a list of directories and files, each with its place below the root, and a
current directory. A path is looked up part by part, so each part but the last must name a
directory, also before `..`. A tree has no symbolic links, no limits on names and no permissions, so
that it answers whenever it is looked at.

A file system is a tree on a host, which may refuse an access for a reason of its own, such as a
name that is too long or a directory that may not be searched. What it refuses may hang on the
access, on the path and on all that is in the tree at the time; what it does not refuse is done as
the tree has it. Reading leaves a file system as it is; making a directory and writing a file give a
new one, which is the old one when they fail.
-/

namespace ModulePack

inductive Node
  | directory
  | file (bytes : ByteArray)
  deriving Inhabited

instance : DecidableEq Node
  | .directory, .directory => isTrue rfl
  | .directory, .file _ | .file _, .directory => isFalse nofun
  | .file a, .file b =>
    match ByteArray.instDecidableEq a b with
    | isTrue h => isTrue (congrArg Node.file h)
    | isFalse h => isFalse (h <| Node.file.inj ·)

def Node.isFile : Node → Bool
  | .directory => false
  | .file _ => true

def Node.isDirectory : Node → Bool
  | .directory => true
  | .file _ => false

structure FileTree where
  cwd : List String
  nodes : List (List String × Node)
  deriving Inhabited

inductive Access
  | look
  | make
  | write
  deriving DecidableEq, Repr

structure FileSystem extends FileTree where
  refusal : Access → FileTree → Path → Option Refusal := fun _ _ _ => none
  deriving Inhabited

/-- A host that refuses nothing. -/
instance : Coe FileTree FileSystem := ⟨fun tree => { tree with }⟩

inductive FileFault
  | notFound
  | exists
  | notDirectory
  | isDirectory
  | refused (r : Refusal)
  deriving DecidableEq, Repr

structure FileError where
  fault : FileFault
  path : Path
  deriving DecidableEq, Repr

def FileFault.message : FileFault → String
  | .notFound => "[Errno 2] No such file or directory"
  | .exists => "[Errno 17] File exists"
  | .notDirectory => "[Errno 20] Not a directory"
  | .isDirectory => "[Errno 21] Is a directory"
  | .refused r => "[Errno " ++ toString r.number ++ "] " ++ r.reason

def FileError.message (e : FileError) : String :=
  e.fault.message ++ ": " ++ Text.quote e.path.toString

/-- The most bytes that the usual hosts have in a name. -/
def nameLimit : Nat := 255

namespace FileTree

/-- What is at a place below the root; the root itself is a directory. -/
def node? (tree : FileTree) (place : List String) : Option Node :=
  if place.isEmpty then some .directory else tree.nodes.lookup place

/-- The place that parts lead to from another place. -/
def walk (tree : FileTree) : (place : List String) → List String → Except FileFault (List String)
  | place, [] => .ok place
  | place, part :: rest =>
    match tree.node? place with
    | none => .error .notFound
    | some (.file _) => .error .notDirectory
    | some .directory => walk tree (Path.climb place part) rest

def origin (tree : FileTree) (p : Path) : List String := if p.start = .here then tree.cwd else []

def place (tree : FileTree) (p : Path) : Except FileFault (List String) :=
  tree.walk (tree.origin p) p.parts

def find (tree : FileTree) (p : Path) : Except FileFault Node := do
  match tree.node? (← tree.place p) with
  | none => throw .notFound
  | some node => return node

def holds (tree : FileTree) (kind : Node → Bool) (p : Path) : Bool :=
  p.isValid && match tree.find p with
    | .ok node => kind node
    | .error _ => false

def isFile (tree : FileTree) (p : Path) : Bool := tree.holds Node.isFile p

/-- Whether the way of parts from a place comes to a name of more than `limit` bytes. -/
def meetsLongName (tree : FileTree) (limit : Nat) : (place : List String) → List String → Bool
  | _, [] => false
  | place, part :: rest =>
    tree.node? place = some .directory &&
      (limit < part.utf8ByteSize || meetsLongName tree limit (Path.climb place part) rest)

def withNameLimit (tree : FileTree) (limit : Nat) : FileSystem where
  toFileTree := tree
  refusal _ tree p :=
    if tree.meetsLongName limit (tree.origin p) p.parts then some .nameTooLong else none

end FileTree

namespace FileSystem

def put (fs : FileSystem) (place : List String) (node : Node) : FileSystem :=
  { fs with nodes := (place, node) :: fs.nodes.filter (·.1 != place) }

def reach (fs : FileSystem) (access : Access) (p : Path) : Except FileFault (List String) :=
  match fs.refusal access fs.toFileTree p with
  | some r => .error (.refused r)
  | none => fs.place p

def find (fs : FileSystem) (p : Path) : Except FileFault Node := do
  match fs.node? (← fs.reach .look p) with
  | none => throw .notFound
  | some node => return node

/-- Whether the path names something of a kind, unless the host refuses to look. A path that can
name nothing is not looked at. -/
def ask (fs : FileSystem) (kind : Node → Bool) (p : Path) : Except Refusal Bool :=
  if p.isValid then
    match fs.find p with
    | .ok node => .ok (kind node)
    | .error (.refused r) => .error r
    | .error _ => .ok false
  else .ok false

def readBytes (fs : FileSystem) (p : Path) : Except FileError ByteArray :=
  match fs.find p with
  | .error fault => .error ⟨fault, p⟩
  | .ok .directory => .error ⟨.isDirectory, p⟩
  | .ok (.file bytes) => .ok bytes

def makeDirectory (fs : FileSystem) (p : Path) : FileSystem × Except FileFault Unit :=
  match fs.reach .make p with
  | .error fault => (fs, .error fault)
  | .ok target =>
    if (fs.node? target).isSome then (fs, .error .exists) else (fs.put target .directory, .ok ())

/-- What comes of a directory that could not be made: it may be there already. -/
def settleDirectory (fs : FileSystem) (p : Path) (fault : FileFault) : Except FileError Unit :=
  match fs.ask Node.isDirectory p with
  | .ok true => .ok ()
  | .ok false => .error ⟨fault, p⟩
  | .error r => .error ⟨.refused r, p⟩

/-- Makes the directory `p` unless it is there; `above` makes the one above it. -/
def ensureDirectory (fs : FileSystem) (p : Path)
    (above : FileSystem → FileSystem × Except FileError Unit) :
    FileSystem × Except FileError Unit :=
  match fs.makeDirectory p with
  | (fs, .ok ()) => (fs, .ok ())
  | (fs, .error .notFound) =>
    match above fs with
    | (fs, .error e) => (fs, .error e)
    | (fs, .ok ()) =>
      match fs.makeDirectory p with
      | (fs, .ok ()) => (fs, .ok ())
      | (fs, .error .notFound) => (fs, .error ⟨.notFound, p⟩)
      | (fs, .error fault) => (fs, fs.settleDirectory p fault)
  | (fs, .error fault) => (fs, fs.settleDirectory p fault)

/-- Makes the directory of the parts, given last part first, and all those above it. -/
def ensureParts (start : PathStart) :
    (reversed : List String) → FileSystem → FileSystem × Except FileError Unit
  | [], fs =>
    let p : Path := ⟨start, []⟩
    fs.ensureDirectory p fun fs => (fs, .error ⟨.notFound, p⟩)
  | part :: rest, fs =>
    fs.ensureDirectory ⟨start, (part :: rest).reverse⟩ (ensureParts start rest)

def ensureDirectories (fs : FileSystem) (p : Path) : FileSystem × Except FileError Unit :=
  ensureParts p.start p.parts.reverse fs

def writeBytes (fs : FileSystem) (p : Path) (bytes : ByteArray) :
    FileSystem × Except FileError Unit :=
  match fs.reach .write p with
  | .error fault => (fs, .error ⟨fault, p⟩)
  | .ok target =>
    if fs.node? target = some .directory then (fs, .error ⟨.isDirectory, p⟩)
    else (fs.put target (.file bytes), .ok ())

def removePlace (fs : FileSystem) (target : List String) : FileSystem :=
  { fs with nodes := fs.nodes.filter fun node => !target.isPrefixOf node.1 }

def remove (fs : FileSystem) (p : Path) : FileSystem × Except FileError Unit :=
  match fs.find p, fs.place p with
  | .ok _, .ok target => (fs.removePlace target, .ok ())
  | .error fault, _ | _, .error fault => (fs, .error ⟨fault, p⟩)

/-- The relative paths of all below a directory, a slash after each directory. -/
def listing (fs : FileSystem) (target : List String) : List String :=
  fs.nodes.filterMap fun (place, node) =>
    if target.isPrefixOf place && target != place then
      let text := Text.join "/" (place.drop target.length)
      some (match node with
        | .directory => text ++ "/"
        | .file _ => text)
    else none

end FileSystem

end ModulePack
