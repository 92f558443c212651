import ModulePack.Fault
import ModulePack.FileSystem.Basic
import ModulePack.Issue
import ModulePack.Value.Literal

/-!
# Errors

What can go wrong, by cause, and the message of each cause.
-/

namespace ModulePack

structure Context where
  file : Option Path
  module : Option String
  deriving DecidableEq, Repr

def Context.text (c : Context) : String :=
  match c.file, c.module.filter (· != "") with
  | some file, some module => file.toString ++ " (module " ++ module ++ ")"
  | some file, none => file.toString
  | none, _ => "module " ++ c.module.getD "None"

def inContext (context : Option Context) (message : String) : String :=
  match context with
  | some c => c.text ++ ": " ++ message
  | none => message

def Context.of? (file : Option Path) (module : Option String) : Option Context :=
  if file.isSome || (module.getD "") != "" then some ⟨file, module⟩ else none

/-- What stands for a message whose wording belongs to a reader of some format. -/
def ellipsis : String := "..."

inductive ConfigError
  | notFound (manifest : Path)
  | unreadable (manifest : Path) (e : FileError)
  | invalid (manifest : Path)
  | unknownProfile (manifest : Path) (profile : String) (known : List Value)
  | missingKeys (manifest : Path) (keys : List String)

def ConfigError.message : ConfigError → String
  | .notFound manifest => "Manifest not found: " ++ manifest.toString
  | .unreadable manifest e => "Failed to read manifest " ++ manifest.toString ++ ": " ++ e.message
  | .invalid manifest => "Invalid TOML in " ++ manifest.toString ++ ": " ++ ellipsis
  | .unknownProfile manifest profile known =>
    "Profile '" ++ profile ++ "' is not defined in " ++ manifest.toString ++
      ". Available profiles: " ++ (Value.list known).literal
  | .missingKeys manifest keys =>
    "Required key(s) missing from [project] in " ++ manifest.toString ++ ": " ++
      Text.join ", " keys

inductive StoreError
  | notFound (snapshot : Path)
  | unreadable (snapshot : Path) (e : FileError)
  | invalid (snapshot : Path)
  | unsupported (snapshot : Path)
  | malformedRecord (snapshot : Path) (issues : List Issue)
  | notWritten (snapshot : Path) (e : FileError)

def StoreError.message : StoreError → String
  | .notFound snapshot => "Module snapshot not found: " ++ snapshot.toString
  | .unreadable snapshot e =>
    "Failed to read module snapshot " ++ snapshot.toString ++ ": " ++ e.message
  | .invalid snapshot =>
    "Failed to read module snapshot " ++ snapshot.toString ++ ": " ++ ellipsis
  | .unsupported snapshot => "Unsupported module snapshot format in " ++ snapshot.toString
  | .malformedRecord snapshot _ =>
    "Malformed module record in " ++ snapshot.toString ++ ": " ++ ellipsis
  | .notWritten snapshot e =>
    "Failed to write module snapshot " ++ snapshot.toString ++ ": " ++ e.message

inductive BundleError
  | entryUnknown (file : Path) (module : String)
  | invalidPattern
  | excluded (modules : List String)
  | notIncluded (modules : List String)
  | codeUnreadable (file : Path) (module : String) (e : FileError)
  | codeMissing (module : String)
  | helperNotFound (directory : Path)
  | helperNotDirectory (directory : Path)
  | helperUnreadable (file : Path) (e : FileError)
  | notWritten (file : Path) (e : FileError)

def BundleError.message : BundleError → String
  | .entryUnknown file module =>
    inContext (some ⟨some file, some module⟩)
      "Entry module is not known to the compiler. Was it compiled?"
  | .invalidPattern => "Invalid module filter regexp: " ++ ellipsis
  | .excluded modules =>
    "Blacklisted module(s) included in bundle: " ++ Text.join ", " modules
  | .notIncluded modules =>
    "Module(s) not matching any whitelist regexp included in bundle: " ++ Text.join ", " modules
  | .codeUnreadable file module e =>
    inContext (some ⟨some file, some module⟩) ("Failed to load compiled code: " ++ e.message)
  | .codeMissing module =>
    inContext (Context.of? none (some module))
      ("Code for module " ++ module ++ " is not loaded at bundling time.")
  | .helperNotFound directory =>
    inContext (some ⟨some directory, none⟩) "Failed to find tslib directory"
  | .helperNotDirectory directory =>
    inContext (some ⟨some directory, none⟩)
      "Expected tslib directory, but it's not a directory"
  | .helperUnreadable file e =>
    inContext (some ⟨some file, none⟩) ("Failed to read tslib: " ++ e.message)
  | .notWritten file e =>
    inContext (some ⟨some file, none⟩) ("Failed to write bundle: " ++ e.message)

inductive MinifyError
  | toolNotFound
  | failed (label reason : String)
  /-- A refusal in the words of a minifier that is not the tool. -/
  | refused (message : String)

def MinifyError.message : MinifyError → String
  | .toolNotFound =>
    "Cannot minify: terser CLI not available. Install it with: npm install -g terser"
  | .failed label reason => "Failed to minify " ++ label ++ ": " ++ reason
  | .refused message => message

inductive Error
  | config (e : ConfigError)
  | store (e : StoreError)
  | unknownModule (name : String)
  | bundle (e : BundleError)
  | minify (e : MinifyError)
  | fault (f : Fault)

/-- The message of an error; a fault has none. -/
def Error.message? : Error → Option String
  | .config e => some e.message
  | .store e => some e.message
  | .unknownModule name => some ("Module '" ++ name ++ "' is not known")
  | .bundle e => some e.message
  | .minify e => some e.message
  | .fault _ => none

end ModulePack
