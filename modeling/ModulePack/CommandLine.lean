import ModulePack.Console.Markup
import ModulePack.Console.Table
import ModulePack.Project
import ModulePack.Version

/-!
# The command line

Two commands: `bundle` writes the bundle of a project, `order` shows the order of its modules. A
command works on a file system and gives the new one together with what it prints.
-/

namespace ModulePack.CommandLine

structure OptionSpec where
  key : String
  short : Option Char
  takesValue : Bool

def manifestOption : OptionSpec := ⟨"manifest", some 'm', true⟩

def profileOption : OptionSpec := ⟨"profile", some 'p', true⟩

def formatOption : OptionSpec := ⟨"format", some 'f', true⟩

def bareOption : OptionSpec := ⟨"bare", none, false⟩

def verboseOption : OptionSpec := ⟨"verbose", none, false⟩

def helpOption : OptionSpec := ⟨"help", none, false⟩

def versionOption : OptionSpec := ⟨"version", some 'v', false⟩

structure Arguments where
  options : List (String × String)
  others : List String

namespace Arguments

def has (a : Arguments) (key : String) : Bool := a.options.any (·.1 == key)

/-- The value of an option; the last one counts. -/
def value? (a : Arguments) (key : String) : Option String :=
  (a.options.filter (·.1 == key)).getLast?.map (·.2)

end Arguments

/-- The options in a group of letters. What follows a letter that takes a value is its value; where
nothing follows, the next argument is. -/
def readShort (specs : List OptionSpec) :
    List Char → List String → Option (List (String × String) × List String)
  | [], rest => some ([], rest)
  | c :: letters, rest =>
    match specs.find? (·.short == some c) with
    | none => none
    | some spec =>
      if spec.takesValue then
        match letters, rest with
        | [], [] => none
        | [], value :: rest => some ([(spec.key, value)], rest)
        | letters, rest => some ([(spec.key, String.ofList letters)], rest)
      else
        (readShort specs letters rest).map fun (options, rest) => ((spec.key, "") :: options, rest)

def readLong (specs : List OptionSpec) (text : List Char) (rest : List String) :
    Option (List (String × String) × List String) :=
  let name := String.ofList (text.takeWhile (· != '='))
  match specs.find? (·.key == name), text.dropWhile (· != '='), rest with
  | none, _, _ => none
  | some spec, _ :: value, rest =>
    if spec.takesValue then some ([(name, String.ofList value)], rest) else none
  | some spec, [], rest =>
    if spec.takesValue then
      match rest with
      | [] => none
      | value :: rest => some ([(name, value)], rest)
    else some ([(name, "")], rest)

/-- The options and other arguments. With `stop`, options end at the first other argument. -/
def readArguments (specs : List OptionSpec) (stop : Bool) :
    (fuel : Nat) → List String → Option Arguments
  | 0, args => some ⟨[], args⟩
  | _, [] => some ⟨[], []⟩
  | fuel + 1, arg :: rest =>
    let goOn (read : Option (List (String × String) × List String)) : Option Arguments := do
      let (options, rest) ← read
      let a ← readArguments specs stop fuel rest
      return { a with options := options ++ a.options }
    match arg.toList with
    | ['-', '-'] => some ⟨[], rest⟩
    | '-' :: '-' :: text => goOn (readLong specs text rest)
    | '-' :: c :: letters => goOn (readShort specs (c :: letters) rest)
    | _ =>
      if stop then some ⟨[], arg :: rest⟩
      else (readArguments specs stop fuel rest).map fun a => { a with others := arg :: a.others }

/-- What stops a command that should have gone on. -/
inductive Crash
  | fault (f : Fault)
  | markup (e : Console.MarkupError)
  deriving DecidableEq, Repr

inductive Outcome
  | usage
  | help
  | version
  | done (output : String)
  | failed (output : String)
  | crashed (output : String) (crash : Crash)
  deriving DecidableEq, Repr

structure Result where
  outcome : Outcome
  files : FileSystem
  warnings : List String

def printLine (finish : String → Outcome) (before line : String) : Outcome :=
  match Console.printed line with
  | .ok text => finish (before ++ text)
  | .error e => .crashed before (.markup e)

def failWith (line : String → String) (e : Error) : Outcome :=
  match e with
  | .fault f => .crashed "" (.fault f)
  | _ => printLine .failed "" (line (e.message?.getD ""))

def manifestPath (fs : FileSystem) (a : Arguments) : Except Fault Path :=
  fs.resolve (Path.ofString ((a.value? "manifest").getD Manifest.fileName))

def loadProject (fs : FileSystem) (a : Arguments) :
    Except Error (Config × Store) × List String :=
  match manifestPath fs a with
  | .error fault => (.error (.fault fault), [])
  | .ok manifest => Project.load fs manifest.parent (some manifest) (a.value? "profile")

def bundle (fs : FileSystem) (a : Arguments) : Result :=
  let stop := failWith fun message => "[red]Bundle was not produced:[/red] " ++ message
  match loadProject fs a with
  | (.error e, warnings) => ⟨stop e, fs, warnings⟩
  | (.ok (config, store), warnings) =>
    let config := if a.has "bare" then { config with noLoaderCode := .bool true } else config
    match Project.produce fs config store .notInstalled {} with
    | (.error e, fs, more, _) => ⟨stop e, fs, warnings ++ more⟩
    | (.ok code, fs, more, _) =>
      ⟨printLine .done "" ("[green]Bundle written:[/green] " ++ config.outFile.toString ++ " (" ++
        toString code.length ++ " chars)"), fs, warnings ++ more⟩

def formats : List String := ["table", "json"]

def orderJson (o : ModuleOrder) : String :=
  let texts (names : List String) : Value := .list (names.map .text)
  Json.print .console (.table [("modules", texts o.modules),
    ("circular_dependent_modules", texts o.circular.names),
    ("absent_modules", texts o.absent.names)]) ++ "\n"

def orderColumns : List Console.Column :=
  [⟨"#".toList, .right⟩, ⟨"Module".toList, .left⟩, ⟨"Circular".toList, .left⟩]

def orderTable (o : ModuleOrder) : Except Console.MarkupError String := do
  let cells ← o.modules.mapM Console.readMarkup
  let plain (s : String) : Console.Styled := ⟨s.toList, []⟩
  let rows := (o.modules.zip cells).zipIdx.map fun ((name, cell), i) =>
    [plain (toString (i + 1)), cell, plain (if name ∈ o.circular then "yes" else "")]
  Console.renderTable Console.consoleWidth "Bundle order".toList orderColumns rows

def printOrder (o : ModuleOrder) : Outcome :=
  match orderTable o with
  | .error e => .crashed "" (.markup e)
  | .ok table =>
    if o.absent.isEmpty then .done table
    else
      printLine .done table
        ("\n[dim]External modules: " ++ Text.join ", " o.absent.names ++ "[/dim]")

def order (fs : FileSystem) (a : Arguments) : Result :=
  let format := (a.value? "format").getD "table"
  if format ∉ formats then
    ⟨printLine .failed "" ("[red]Unknown format '" ++ format ++ "'. Use one of: " ++
      Text.join ", " formats ++ "[/red]"), fs, []⟩
  else
    let stop := failWith fun message => "[red]" ++ message ++ "[/red]"
    match loadProject fs a with
    | (.error e, warnings) => ⟨stop e, fs, warnings⟩
    | (.ok (config, store), warnings) =>
      match Project.assembler fs config .notInstalled with
      | (.error f, more) => ⟨stop (.fault f), fs, warnings ++ more⟩
      | (.ok made, more) =>
        match made.order fs store with
        | .error e => ⟨stop e, fs, warnings ++ more⟩
        | .ok o =>
          ⟨if format = "json" then .done (orderJson o) else printOrder o, fs, warnings ++ more⟩

def commandOptions (name : String) : Option (List OptionSpec) :=
  if name = "bundle" then
    some [manifestOption, profileOption, bareOption, verboseOption, helpOption]
  else if name = "order" then
    some [manifestOption, profileOption, formatOption, verboseOption, helpOption]
  else none

def readAll (specs : List OptionSpec) (stop : Bool) (args : List String) : Option Arguments :=
  readArguments specs stop (args.length + 1) args

def runCommand (fs : FileSystem) (name : String) (args : List String) : Result :=
  match (commandOptions name).bind fun specs => readAll specs false args with
  | none => ⟨.usage, fs, []⟩
  | some a =>
    if a.has "help" then ⟨.help, fs, []⟩
    else if !a.others.isEmpty then ⟨.usage, fs, []⟩
    else if name = "bundle" then bundle fs a
    else order fs a

def run (fs : FileSystem) (args : List String) : Result :=
  match readAll [versionOption, helpOption] true args with
  | none => ⟨.usage, fs, []⟩
  | some a =>
    match a.options with
    | (key, _) :: _ => ⟨if key = "version" then .version else .help, fs, []⟩
    | [] =>
      match a.others with
      | [] => ⟨.usage, fs, []⟩
      | name :: rest => runCommand fs name rest

def versionText : String := Version.programName ++ " version " ++ Version.current

end ModulePack.CommandLine
