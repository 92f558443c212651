import ModulePack.Error
import ModulePack.Pattern.Parser

/-!
# Filters of modules

A bundle may be refused for the modules in it: no name may match a pattern of the first list, and
if there is a second list, each name must match one of its patterns.
-/

namespace ModulePack

/-- Why a text gives no test on names: it is malformed, or a fault stops whoever reads it. -/
inductive PatternError
  | malformed
  | fault (f : Fault)
  deriving DecidableEq, Repr

/-- What is known of compiling patterns: it fails, or it gives a test on names. -/
abbrev PatternCompiler := String → Except PatternError (String → Bool)

def Pattern.ReadingError.toPatternError : ReadingError → PatternError
  | .malformed => .malformed
  | .countTooLarge => .fault .countTooLarge
  | .nestedTooDeep => .fault .nestedTooDeep
  | .unusable => .fault .badValue

def Pattern.compile : PatternCompiler := fun s =>
  ((parse s).map search).mapError ReadingError.toPatternError

def compilePattern (compile : PatternCompiler) (setting : Value) : Except Error (String → Bool) :=
  match setting with
  | .text s =>
    match compile s with
    | .ok test => .ok test
    | .error .malformed => .error (.bundle .invalidPattern)
    | .error (.fault f) => .error (.fault f)
  | _ => .error (.fault .wrongKind)

def acceptedNames (tests : List (String → Bool)) (names : List String) : List String :=
  names.filter fun name => tests.any (· name)

def rejectedNames (tests : List (String → Bool)) (names : List String) : List String :=
  names.filter fun name => !tests.any (· name)

/-- The verdict on the names of a bundle under tests: those that bar a name, and those of which one
has to admit it. -/
def judgeNames (barring admitting : List (String → Bool)) (names : List String) :
    Except BundleError Unit :=
  let excluded := acceptedNames barring names
  let missed := if admitting.isEmpty then [] else rejectedNames admitting names
  if !excluded.isEmpty then .error (.excluded excluded)
  else if !missed.isEmpty then .error (.notIncluded missed)
  else .ok ()

def checkNames (compile : PatternCompiler) (excludePatterns includePatterns : List Value)
    (names : List String) : Except Error Unit := do
  let barring ← excludePatterns.mapM (compilePattern compile)
  let admitting ← includePatterns.mapM (compilePattern compile)
  (judgeNames barring admitting names).mapError .bundle

end ModulePack
