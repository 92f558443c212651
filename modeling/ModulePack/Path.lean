import ModulePack.Text.Affix

/-!
# Paths

A path is a list of parts behind a start: the current directory, the root, or the second root that
exactly two slashes name. Empty parts and `.` are never kept; `..` is kept until a path is resolved. Paths are resolved by
their parts, as if there were no symbolic links.
-/

namespace ModulePack

inductive PathStart
  | here
  | root
  | secondRoot
  deriving DecidableEq, Repr, Inhabited

structure Path where
  start : PathStart
  parts : List String
  deriving DecidableEq, Repr, Inhabited

namespace Path

def startOf : List Char → PathStart
  | '/' :: '/' :: '/' :: _ => .root
  | '/' :: '/' :: _ => .secondRoot
  | '/' :: _ => .root
  | _ => .here

def splitSlash : List Char → List (List Char)
  | [] => [[]]
  | c :: rest =>
    if c = '/' then [] :: splitSlash rest
    else
      match splitSlash rest with
      | [] => [[c]]
      | part :: parts => (c :: part) :: parts

def isPart (part : String) : Bool := part != "" && part != "."

def partsOf (s : String) : List String :=
  ((splitSlash s.toList).map String.ofList).filter isPart

def ofString (s : String) : Path := ⟨startOf s.toList, partsOf s⟩

def startText : PathStart → String
  | .here => ""
  | .root => "/"
  | .secondRoot => "//"

protected def toString (p : Path) : String :=
  if p.start = .here && p.parts.isEmpty then "." else startText p.start ++ Text.join "/" p.parts

instance : ToString Path := ⟨Path.toString⟩

/-- `q` as seen from `p`: `q` itself if it has a start of its own. -/
def join (p q : Path) : Path := if q.start = .here then ⟨p.start, p.parts ++ q.parts⟩ else q

instance : HDiv Path String Path := ⟨fun p s => p.join (ofString s)⟩

def parent (p : Path) : Path := ⟨p.start, p.parts.dropLast⟩

/-- One step from a directory, where `..` leads up and from the root to the root. -/
def climb (parts : List String) (part : String) : List String :=
  if part = ".." then parts.dropLast else parts ++ [part]

/-- The path from the root that `p` names in the directory `cwd`, without a look at any file. -/
def resolve (cwd : List String) (p : Path) : Path :=
  ⟨.root, p.parts.foldl climb (if p.start = .here then cwd else [])⟩

def dropCommon : List String → List String → List String × List String
  | a :: as, b :: bs => if a = b then dropCommon as bs else (a :: as, b :: bs)
  | as, bs => (as, bs)

/-- The text of the way to `p` from the directory `base`. -/
def relativeText (cwd : List String) (p base : Path) : String :=
  let (down, up) := dropCommon (p.resolve cwd).parts (base.resolve cwd).parts
  (Path.mk .here (up.map (fun _ => "..") ++ down)).toString

/-- Whether the text can name a file: no name holds the character of code zero. -/
def isNameable (s : String) : Bool := !s.toList.contains '\x00'

def isValid (p : Path) : Bool := p.parts.all isNameable

@[simp] theorem climb_up (parts : List String) : climb parts ".." = parts.dropLast := rfl

theorem climb_of_ne {part : String} (h : part ≠ "..") (parts : List String) :
    climb parts part = parts ++ [part] := by simp [climb, h]

@[simp] theorem start_resolve (cwd : List String) (p : Path) : (p.resolve cwd).start = .root := rfl

end Path

end ModulePack
