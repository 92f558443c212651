import ModulePack.Minify.Basic
import ModulePack.NameSet
import ModulePack.Text.Digit

/-!
# The minifier tool

The tool is a program that reads code and writes smaller code. Its command line says which edition
of the language it may write and how it compresses.
-/

namespace ModulePack.Tool

/-- The characters of a target with the letters of an edition in capitals; the long s is an s. -/
def capitals (target : String) : List Char :=
  target.toList.map fun c =>
    if c = 'e' then 'E' else if c = 's' || c = 'ſ' then 'S' else c

def year? (a b c d : Char) : Option Nat := do
  let a ← Text.digitValue? a
  let b ← Text.digitValue? b
  let c ← Text.digitValue? c
  let d ← Text.digitValue? d
  return ((a * 10 + b) * 10 + c) * 10 + d

/-- The last edition that the tool knows, which is taken for all targets without a number. -/
def latestEdition : Nat := 2020

/-- The edition of the language that a target names. A line feed may end a year. -/
def edition (target : String) : Nat :=
  match capitals target with
  | ['E', 'S', '3'] | ['E', 'S', '5'] => 5
  | ['E', 'S', '6'] => 2015
  | ['E', 'S', a, b, c, d] | ['E', 'S', a, b, c, d, '\n'] =>
    ((year? a b c d).map (min · latestEdition)).getD latestEdition
  | _ => latestEdition

def optionText : Value → String
  | .bool b => if b then "true" else "false"
  | v => v.display

def sortOptions (options : List (String × Value)) : List (String × Value) :=
  options.mergeSort fun a b => decide (a.1 ≤ b.1)

def compressArguments (options : List (String × Value)) : List String :=
  if options.isEmpty then []
  else
    [Text.join "," ((sortOptions options).map fun (name, value) => name ++ "=" ++ optionText value)]

def command (program : String) (options : List (String × Value)) (target : String) : List String :=
  [program, "--compress"] ++ compressArguments options ++
    ["--mangle", "--ecma", toString (edition target)]

inductive Outcome
  | exited (status : Int) (output complaint : String)
  | notStarted (reason : String)
  | timedOut
  deriving Inhabited

def result (label : String) (command : List String) (timeout : Value) :
    Outcome → Except MinifyError String
  | .exited status output complaint =>
    if status = 0 then .ok output else .error (.failed label (Text.trim complaint))
  | .notStarted reason => .error (.failed label reason)
  | .timedOut =>
    .error (.failed label ("Command '" ++ (Value.list (command.map .text)).literal ++
      "' timed out after " ++ timeout.display ++ " seconds"))

end ModulePack.Tool
