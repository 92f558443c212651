import ModulePack.Error
import ModulePack.Text.Blank

/-!
# Minifiers

A minifier is asked to make a code smaller. Its answer may depend on all that it was asked before.
A function expression is no program, so it is sent in the initialiser of a variable and taken out
of the answer again.
-/

namespace ModulePack

/-- One question to a minifier. The label is for messages. -/
structure MinifyCall where
  label : String
  target : Value
  code : String
  deriving Inhabited

/-- What a minifier answers to a call after the calls before it, the last one first. -/
abbrev Minifier := List MinifyCall → MinifyCall → Except MinifyError String

namespace Minifier

def ofFunction (f : MinifyCall → Except MinifyError String) : Minifier := fun _ call => f call

def identity : Minifier := ofFunction fun call => .ok call.code

/-- The minifier of a machine on which the tool is not installed. -/
def notInstalled : Minifier := ofFunction fun _ => .error .toolNotFound

end Minifier

/-- What stands before an expression that is sent to a minifier. -/
def expressionHolder : String := "var __tsbundle_expr="

def holdExpression (code : String) : String :=
  expressionHolder ++ Text.dropTerminator (Text.trim code) ++ ";"

def releaseExpression (answer : String) : String :=
  Text.dropTerminator (Text.trim (Text.dropStart expressionHolder (Text.trim answer)))

end ModulePack
