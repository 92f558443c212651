import ModulePack.Decimal.Text
import ModulePack.Fault
import ModulePack.Text.Quoted
import ModulePack.Value.Basic
import ModulePack.Value.ReadError

/-!
# Writing JSON

A value is written on one line without blanks, or with each item on a line of its own. Control
characters, quotes and backslashes are always escaped; all characters beyond ASCII are escaped as
UTF-16 units when the layout asks for it, else none.
-/

namespace ModulePack.Json

structure Layout where
  /-- The blanks of one level, if items stand on lines of their own. -/
  indent : Option Nat
  asciiOnly : Bool
  deriving DecidableEq, Repr

/-- One line, characters as they are. -/
def Layout.compact : Layout := ⟨none, false⟩

/-- Indented by two, ASCII only. -/
def Layout.snapshot : Layout := ⟨some 2, true⟩

/-- Indented by two, characters as they are. -/
def Layout.console : Layout := ⟨some 2, false⟩

def floatNames : Decimal.Spelling := ⟨"Infinity", "NaN"⟩

def escapeUnit (n : Nat) : List Char := '\\' :: 'u' :: Text.hexDigits 4 n

/-- A character as one UTF-16 unit or two. -/
def escapeUnits (c : Char) : List Char :=
  let n := c.toNat
  if n < 0x10000 then escapeUnit n
  else escapeUnit (0xd800 + (n - 0x10000) / 0x400) ++ escapeUnit (0xdc00 + (n - 0x10000) % 0x400)

def escapeChar (asciiOnly : Bool) (c : Char) : List Char :=
  if c = '\x22' then ['\\', '\x22']
  else if c = '\\' then ['\\', '\\']
  else if c = '\n' then ['\\', 'n']
  else if c = '\r' then ['\\', 'r']
  else if c = '\t' then ['\\', 't']
  else if c = '\x0c' then ['\\', 'f']
  else if c = '\x08' then ['\\', 'b']
  else if c.toNat < 0x20 then escapeUnit c.toNat
  else if asciiOnly && 0x7e < c.toNat then escapeUnits c
  else [c]

def renderText (l : Layout) (s : String) : List Char :=
  '\x22' :: s.toList.flatMap (escapeChar l.asciiOnly) ++ ['\x22']

def lineBreak (l : Layout) (depth : Nat) : List Char :=
  match l.indent with
  | none => []
  | some width => '\n' :: List.replicate (width * depth) ' '

def colon (l : Layout) : List Char := if l.indent.isSome then [':', ' '] else [':']

mutual

def render (l : Layout) (depth : Nat) : Value → List Char
  | .null => "null".toList
  | .bool b => if b then "true".toList else "false".toList
  | .int n => (toString n).toList
  | .float x => (Decimal.text floatNames x).toList
  | .text s => renderText l s
  | .moment m => renderText l m.text
  | .list [] => ['[', ']']
  | .list (v :: rest) =>
    '[' :: lineBreak l (depth + 1) ++ render l (depth + 1) v ++ renderItems l (depth + 1) rest ++
      lineBreak l depth ++ [']']
  | .table [] => ['\x7b', '\x7d']
  | .table ((key, v) :: rest) =>
    '\x7b' :: lineBreak l (depth + 1) ++ renderText l key ++ colon l ++ render l (depth + 1) v ++
      renderFields l (depth + 1) rest ++ lineBreak l depth ++ ['\x7d']

def renderItems (l : Layout) (depth : Nat) : List Value → List Char
  | [] => []
  | v :: rest => ',' :: lineBreak l depth ++ render l depth v ++ renderItems l depth rest

def renderFields (l : Layout) (depth : Nat) : List (String × Value) → List Char
  | [] => []
  | (key, v) :: rest =>
    ',' :: lineBreak l depth ++ renderText l key ++ colon l ++ render l depth v ++
      renderFields l depth rest

end

def print (l : Layout) (v : Value) : String := String.ofList (render l 0 v)

mutual

/-- Why a value cannot be written: a moment has no spelling, a number may be too long. Of several
reasons the first counts. -/
def fault? : Value → Option Fault
  | .moment _ => some .wrongKind
  | .int n => if isLongNumber n then some .badValue else none
  | .list items => itemsFault? items
  | .table fields => fieldsFault? fields
  | _ => none

def itemsFault? : List Value → Option Fault
  | [] => none
  | v :: rest => (fault? v).or (itemsFault? rest)

def fieldsFault? : List (String × Value) → Option Fault
  | [] => none
  | (_, v) :: rest => (fault? v).or (fieldsFault? rest)

end

end ModulePack.Json
