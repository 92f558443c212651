import ModulePack.Config
import ModulePack.Entry
import ModulePack.FileSystem.Text
import ModulePack.Loader
import ModulePack.Minify.Basic
import ModulePack.Order.Basic
import ModulePack.Pattern.Filter
import ModulePack.Specifier

/-!
# Assembly

A bundle is assembled from a store: the modules that the entry module needs are put in order, the
code that is missing is loaded, and the entries are written behind the loader and before the launch
parameters. An assembly that fails leaves behind what was loaded before; the file of the bundle is
written last.
-/

namespace ModulePack

structure BuildState where
  files : FileSystem
  store : Store
  /-- The calls of the minifier so far, the last one first. -/
  calls : List MinifyCall
  /-- The loader as it was minified before. -/
  minifiedLoader : Option String
  deriving Inhabited

/-- An assembly or a part of it. What was changed before an error stays changed. -/
abbrev Build (α : Type) := ExceptT Error (StateM BuildState) α

structure Assembler where
  config : Config
  specifiers : Specifiers
  minifier : Minifier
  loaderCode : String := Loader.code
  compile : PatternCompiler := Pattern.compile

/-- Launch parameters that are no part of the configuration; all are code. -/
structure LaunchParameters where
  afterEntryPoint : Option String := none
  entryPointArgs : List String := []
  deriving Inhabited

/-- The module of helpers that compiled code may need. -/
def helperName : String := "tslib"

/-- The label of the loader for the minifier, and what it is minified for. -/
def loaderLabel : String := "<loader>"

def loaderTarget : Value := .text "ES5"

def liftResult {α : Type} (r : Except Error α) : Build α := ExceptT.mk (pure r)

namespace Assembler

def entryName (a : Assembler) (fs : FileSystem) : Except Fault String :=
  (resolveSetting fs a.config.projectDir a.config.entryModule).map (a.specifiers.moduleName fs)

def order (a : Assembler) (fs : FileSystem) (store : Store) : Except Error ModuleOrder := do
  let name ← (a.entryName fs).mapError .fault
  if store.has name then return store.order name
  else throw (.bundle (.entryUnknown (a.config.projectDir / a.config.entryModule.display) name))

def checkModules (a : Assembler) (order : ModuleOrder) : Except Error Unit :=
  checkNames a.compile a.config.excludePatterns a.config.includePatterns order.modules

/-- The entries of ordered modules, which must have their code. -/
def entriesOf (store : Store) (order : ModuleOrder) : Except Error (List Entry) :=
  order.modules.mapM fun name => do
    let r ← store.fetch name
    (r.toEntry (decide (name ∈ order.circular))).mapError .bundle

def codeFile (a : Assembler) (name : String) : Path :=
  a.config.compiler.outDir / (String.ofList (name.toList.dropWhile (· == '/')) ++ ".js")

def minifyExpression (a : Assembler) (code label : String) (target : Value) : Build String := do
  let s ← get
  let call : MinifyCall := ⟨label, target, holdExpression code⟩
  set { s with calls := call :: s.calls }
  match a.minifier s.calls call with
  | .ok answer => return releaseExpression answer
  | .error e => throw (.minify e)

def minifyIfConfigured (a : Assembler) (code label : String) (target : Value) : Build String :=
  if a.config.minify.isTruthy then a.minifyExpression code label target else pure code

/-- The text of a file that is read for a bundle; an error tells that it is unreadable. -/
def fileText (fs : FileSystem) (file : Path) (unreadable : FileError → BundleError) :
    Except Error String :=
  match fs.readText file with
  | .ok text => .ok text
  | .error (.file e) => .error (.bundle (unreadable e))
  | .error .badEncoding => .error (.fault .badEncoding)
  | .error .badName => .error (.fault .badValue)

def loadModule (a : Assembler) (name : String) : Build Unit := do
  let file := a.codeFile name
  let text ← liftResult (fileText (← get).files file (.codeUnreadable file name))
  let code ← a.minifyIfConfigured text name a.config.compiler.target
  modify fun s => { s with store := s.store.setCode name code }

def modulesToLoad (store : Store) (names : List String) : Except Error (List String) := do
  let records ← names.mapM store.fetch
  return (records.filter fun r => !r.hasCode).map Record.name

/-- Loads the code of modules one after the other, up to the first that fails. -/
def loadAll (a : Assembler) (names : List String) : Build Unit := names.forM a.loadModule

def loadMissing (a : Assembler) (names : List String) : Build Unit := do
  a.loadAll (← liftResult (modulesToLoad (← get).store names))

/-- The code of the helpers as a module function: with a definer that does nothing, they are put on
the object that the function is called with. -/
def helperCode (code : String) : String :=
  "function(global)\x7bvar define=function()\x7b\x7d;" ++ code ++ "\x7d"

def helperDirectory (a : Assembler) : Path := a.config.projectDir / "node_modules" / helperName

def helperFile (a : Assembler) : Path := a.helperDirectory / (helperName ++ ".js")

/-- The text of the helpers, whose file must lie in a directory. -/
def helperText (a : Assembler) (fs : FileSystem) : Except Error String := do
  let ask (kind : Node → Bool) := (orRefused (fs.ask kind a.helperDirectory)).mapError Error.fault
  if !(← ask fun _ => true) then throw (.bundle (.helperNotFound a.helperDirectory))
  if !(← ask Node.isDirectory) then throw (.bundle (.helperNotDirectory a.helperDirectory))
  fileText fs a.helperFile (.helperUnreadable a.helperFile)

def helperEntry (a : Assembler) : Build Entry := do
  let text ← liftResult (a.helperText (← get).files)
  let code ← a.minifyIfConfigured (helperCode text) helperName a.config.compiler.target
  return { name := helperName, code }

def needsHelper (a : Assembler) (order : ModuleOrder) : Bool :=
  a.config.embedHelper.isTruthy && decide (helperName ∈ order.absent)

def assembleEntries (a : Assembler) : Build (List Entry) := do
  let s ← get
  let order ← liftResult (a.order s.files s.store)
  liftResult (a.checkModules order)
  a.loadMissing order.modules
  let entries ← liftResult (entriesOf (← get).store order)
  if a.needsHelper order then return entries ++ [← a.helperEntry] else return entries

def assembleArray (a : Assembler) : Build String :=
  serializeEntries <$> a.assembleEntries

/-- The loader, minified if the configuration asks for it; it is minified once. -/
def loader (a : Assembler) : Build String := do
  if a.config.minify.isTruthy then
    match (← get).minifiedLoader with
    | some code => return code
    | none =>
      let code ← a.minifyExpression a.loaderCode loaderLabel loaderTarget
      modify fun s => { s with minifiedLoader := some code }
      return code
  else return a.loaderCode

def opening (a : Assembler) : Build String := do
  return "(" ++ Text.dropTerminator (← a.loader) ++ ")("

def compact (v : Value) : Except Fault String :=
  match Json.fault? v with
  | some fault => .error fault
  | none => .ok (Json.print .compact v)

/-- A setting among the launch parameters, unless it has its default. -/
def unlessDefault (key : String) (setting : Value) : Except Fault (List String) :=
  if setting.text? = some defaultRequireName then .ok []
  else (compact setting).map fun text => ["\"" ++ key ++ "\":" ++ text]

def codeField (key code : String) : List String :=
  if code = "" then [] else ["\"" ++ key ++ "\":" ++ code]

def launchFields (a : Assembler) (entryName : String) (p : LaunchParameters) :
    Except Fault (List String) := do
  let c := a.config
  let entryPoint ←
    compact (.table [("module", .text entryName), ("function", c.entryFunction)])
  let amd ← unlessDefault "amdRequire" c.amdRequireName
  let commonjs ← unlessDefault "commonjsRequire" c.commonjsRequireName
  let errorHandler ← if c.errorHandlerName.isTruthy then c.errorHandlerName.display? else .ok ""
  return ["\"entryPoint\":" ++ entryPoint] ++ amd ++ commonjs ++
    (if c.preferCommonjs.isTruthy then ["\"preferCommonjs\":true"] else []) ++
    codeField "afterEntryPointExecuted" (p.afterEntryPoint.getD "") ++
    (if p.entryPointArgs.isEmpty then []
      else ["\"entryPointArgs\":[" ++ Text.join "," p.entryPointArgs ++ "]"]) ++
    codeField "errorHandler" errorHandler

def closing (a : Assembler) (fs : FileSystem) (p : LaunchParameters) : Except Fault String := do
  let fields ← a.launchFields (← a.entryName fs) p
  match a.config.evalCapability with
  | .text eval => return ",\x7b" ++ Text.join "," fields ++ "\x7d," ++ eval ++ ");"
  | _ => throw .wrongKind

def wrap (a : Assembler) (array : String) (p : LaunchParameters) : Build String := do
  let opening ← a.opening
  let closing ← liftResult ((a.closing (← get).files p).mapError .fault)
  return Text.join "\n" [opening, array, closing]

def assembleCode (a : Assembler) (p : LaunchParameters) : Build String := do
  let array ← a.assembleArray
  if a.config.noLoaderCode.isTruthy then return array else a.wrap array p

def writeBundle (a : Assembler) (code : String) : Build Unit := do
  let s ← get
  let (files, result) := s.files.writeText a.config.outFile code
  set { s with files }
  match result with
  | .ok () => return ()
  | .error (.file e) => throw (.bundle (.notWritten a.config.outFile e))
  | .error _ => throw (.fault .badValue)

def produce (a : Assembler) (p : LaunchParameters) : Build String := do
  let code ← a.assembleCode p
  a.writeBundle code
  return code

end Assembler

end ModulePack
