import ModulePack.FileSystem.Basic
import ModulePack.Text.Lines

/-!
# Text files

Files are read and written as UTF-8 text. Newlines are unified when a text is read and kept as they
are when it is written.
-/

namespace ModulePack

inductive TextFault
  | file (e : FileError)
  | badEncoding
  /-- The path is no name of a file. -/
  | badName
  deriving DecidableEq, Repr

namespace FileSystem

def readText (fs : FileSystem) (p : Path) : Except TextFault String :=
  if p.isValid then
    match fs.readBytes p with
    | .error e => .error (.file e)
    | .ok bytes =>
      match Text.decode? bytes with
      | some s => .ok s
      | none => .error .badEncoding
  else .error .badName

/-- Writes a text, first making the directories above the file as far as they are missing. -/
def writeText (fs : FileSystem) (p : Path) (s : String) : FileSystem × Except TextFault Unit :=
  if p.parent.isValid then
    match fs.ensureDirectories p.parent with
    | (fs, .error e) => (fs, .error (.file e))
    | (fs, .ok ()) =>
      if p.isValid then
        match fs.writeBytes p s.toUTF8 with
        | (fs, .error e) => (fs, .error (.file e))
        | (fs, .ok ()) => (fs, .ok ())
      else (fs, .error .badName)
  else (fs, .error .badName)

end FileSystem

end ModulePack
