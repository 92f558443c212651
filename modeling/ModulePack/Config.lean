import ModulePack.Error
import ModulePack.SourceFile

/-!
# Configuration

What a bundle is made of and how. Paths are resolved when a configuration is made; most other
settings are values as they were written, which may be of the wrong kind until they are used.
-/

namespace ModulePack

structure CompilerOptions where
  baseUrl : Path
  rootDir : Path
  outDir : Path
  target : Value
  paths : Dictionary (List Value)
  ambientModules : List Value
  deriving Inhabited

/-- The name of the function that loads external modules, unless another one is configured. -/
def defaultRequireName : String := "require"

structure Config where
  projectDir : Path
  entryModule : Value
  entryFunction : Value
  outFile : Path
  compiler : CompilerOptions
  amdRequireName : Value := .text defaultRequireName
  commonjsRequireName : Value := .text defaultRequireName
  preferCommonjs : Value := .bool false
  minify : Value := .bool false
  embedHelper : Value := .bool true
  noLoaderCode : Value := .bool false
  errorHandlerName : Value := .null
  evalCapability : Value := .text "eval"
  excludePatterns : List Value := []
  includePatterns : List Value := []
  minifyOptions : List (Value × Value) := []
  deriving Inhabited

def Value.orElse (v : Value) (other : Value) : Value := if v.isTruthy then v else other

/-- The directory that a configured text names in a directory. -/
def resolveSetting (fs : FileSystem) (directory : Path) (setting : Value) : Except Fault Path :=
  match setting with
  | .text s => fs.resolve (directory / s)
  | _ => .error .wrongKind

end ModulePack
