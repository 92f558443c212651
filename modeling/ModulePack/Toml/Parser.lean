import ModulePack.Toml.Document
import ModulePack.Toml.Scalar
import ModulePack.Toml.Text

/-!
# Reading TOML

A document is read statement by statement: a header goes to a table, any other statement sets a
field of it.
-/

namespace ModulePack.Toml

def orMalformed {α : Type} : Option α → Except ReadError α
  | some a => .ok a
  | none => .error .malformed

def readFieldKey (cs : List Char) : Except ReadError (Key × List Char) := do
  let (key, rest) ← orMalformed (readKey (cs.length + 1) cs)
  match rest with
  | '=' :: rest => return (key, skipBlank rest)
  | _ => throw .malformed

def skipLines (cs : List Char) : Except ReadError (List Char) :=
  orMalformed (skipLines? (cs.length + 1) cs)

/-- The levels that a list takes, and those that a table within a line takes. -/
def listLevels : Nat := 2

def tableLevels : Nat := 3

def enter (levels taken : Nat) : Except ReadError Nat :=
  if levels < taken then .error .nestedTooDeep else .ok (levels - taken)

mutual

def readValue : (fuel levels : Nat) → List Char → Except ReadError (Value × List Char)
  | 0, _, _ => .error .malformed
  | fuel + 1, levels, cs =>
    match readText cs with
    | some read => do
      let (s, rest) ← orMalformed read
      return (.text (String.ofList s), rest)
    | none =>
      match Json.word? "true" cs, Json.word? "false" cs with
      | some rest, _ => .ok (.bool true, rest)
      | _, some rest => .ok (.bool false, rest)
      | _, _ =>
        match cs with
        | '[' :: rest => do
          let levels ← enter levels listLevels
          match ← skipLines rest with
          | ']' :: rest => return (.list [], rest)
          | rest =>
            let (items, rest) ← readItems fuel levels rest
            return (.list items, rest)
        | '\x7b' :: rest => do
          let levels ← enter levels tableLevels
          match skipBlank rest with
          | '\x7d' :: rest => return (.table [], rest)
          | rest =>
            let (fields, rest) ← readFields fuel levels [] .empty rest
            return (.table fields, rest)
        | _ => readScalar cs

def readItems : (fuel levels : Nat) → List Char → Except ReadError (List Value × List Char)
  | 0, _, _ => .error .malformed
  | fuel + 1, levels, cs => do
    let (v, rest) ← readValue fuel levels cs
    match ← skipLines rest with
    | ']' :: rest => return ([v], rest)
    | ',' :: rest =>
      match ← skipLines rest with
      | ']' :: rest => return ([v], rest)
      | rest =>
        let (vs, rest) ← readItems fuel levels rest
        return (v :: vs, rest)
    | _ => throw .malformed

/-- The fields up to the closing brace, at least one, added to those before. -/
def readFields : (fuel levels : Nat) → (table : Dictionary Value) → Marks → List Char →
    Except ReadError (Dictionary Value × List Char)
  | 0, _, _, _, _ => .error .malformed
  | fuel + 1, levels, table, marks, cs => do
    let (key, rest) ← readFieldKey cs
    let (v, rest) ← readValue fuel levels rest
    let name ← orMalformed key.getLast?
    let table ←
      if marks.isFrozen key then throw .malformed
      else orMalformed (updateTable false (addField name v) key.dropLast table)
    match skipBlank rest with
    | '\x7d' :: rest => return (table, rest)
    | ',' :: rest =>
      readFields fuel levels table (if isCompound v then marks.freeze key else marks)
        (skipBlank rest)
    | _ => throw .malformed

end

def readHeader (d : Document) (cs : List Char) : Except ReadError (Document × List Char) :=
  match cs with
  | '[' :: '[' :: rest => do
    let (key, rest) ← orMalformed (readKey (rest.length + 1) (skipBlank rest))
    let d ← orMalformed (d.openItem key)
    match rest with
    | ']' :: ']' :: rest => return (d, rest)
    | _ => throw .malformed
  | '[' :: rest => do
    let (key, rest) ← orMalformed (readKey (rest.length + 1) (skipBlank rest))
    let d ← orMalformed (d.openTable key)
    match rest with
    | ']' :: rest => return (d, rest)
    | _ => throw .malformed
  | _ => .error .malformed

def isKeyStart (c : Char) : Bool := isBareKeyChar c || c == '\x22' || c == '\x27'

def readStatement (d : Document) (cs : List Char) : Except ReadError (Document × List Char) :=
  match cs with
  | c :: _ =>
    if isKeyStart c then do
      let (key, rest) ← readFieldKey cs
      let (v, rest) ← readValue (rest.length + 1) depthLimit rest
      let d ← orMalformed (d.setField key v)
      return (d, skipBlank rest)
    else if c = '[' then do
      let (d, rest) ← readHeader d cs
      return (d, skipBlank rest)
    else if c = '#' then return (d, cs)
    else throw .malformed
  | [] => return (d, [])

def readLines : (fuel : Nat) → Document → List Char → Except ReadError Document
  | 0, d, _ => .ok d
  | fuel + 1, d, cs =>
    match skipBlank cs with
    | [] => .ok d
    | '\n' :: rest => readLines fuel d rest
    | cs => do
      let (d, rest) ← readStatement d cs
      match ← orMalformed (skipComment? rest) with
      | [] => return d
      | '\n' :: rest => readLines fuel d rest
      | _ => throw .malformed

def parse (s : String) : Except ReadError (Dictionary Value) := do
  let cs := s.toList
  let d ← readLines (cs.length + 1) .empty cs
  return d.root

end ModulePack.Toml
