import ModulePack.Decimal.Read
import ModulePack.Json.Parser

/-!
# Texts and keys of a TOML document

A text stands between quotes or apostrophes, one of them or three of them. Quotes allow escapes. A
key is a list of names with points between them. Each reader gives what it has read and what is
left after it, or nothing where the document is malformed.
-/

namespace ModulePack.Toml

def isBlank (c : Char) : Bool := c == ' ' || c == '\t'

def skipBlank (cs : List Char) : List Char := cs.dropWhile isBlank

def skipBlankLines (cs : List Char) : List Char := cs.dropWhile fun c => isBlank c || c == '\n'

/-- Control characters, which stand nowhere in a document but for the tab. -/
def isIllegal (c : Char) : Bool := (c.toNat < 32 && c != '\t') || c.toNat == 127

def isIllegalInLines (c : Char) : Bool := isIllegal c && c != '\n'

def skipComment? : List Char → Option (List Char)
  | '#' :: rest =>
    if (rest.takeWhile (· != '\n')).any isIllegal then none else some (rest.dropWhile (· != '\n'))
  | cs => some cs

def skipLines? : (fuel : Nat) → List Char → Option (List Char)
  | 0, cs => some cs
  | fuel + 1, cs =>
    let rest := skipBlankLines cs
    match rest with
    | '#' :: _ => (skipComment? rest).bind (skipLines? fuel)
    | _ => some rest

def isScalarValue (n : Nat) : Bool := n < 0xd800 || (0xe000 ≤ n && n < 0x110000)

def hexChar? (width : Nat) (cs : List Char) : Option (Char × List Char) := do
  let digits ← (cs.take width).mapM Json.hexValue?
  let n := digits.foldl (fun n d => 16 * n + d) 0
  if digits.length = width && isScalarValue n then return (Char.ofNat n, cs.drop width) else none

def escapeValue? (c : Char) : Option Char :=
  if c = '/' then none else Json.escapeValue? c

def readEscape : List Char → Option (Char × List Char)
  | 'u' :: rest => hexChar? 4 rest
  | 'U' :: rest => hexChar? 8 rest
  | c :: rest => (escapeValue? c).map (·, rest)
  | [] => none

/-- What is left after a backslash that ends a line, and after the blank lines that follow. -/
def skipLineEnd? (cs : List Char) : Option (List Char) :=
  match cs with
  | '\n' :: rest => some (skipBlankLines rest)
  | _ =>
    match skipBlank cs with
    | [] => some []
    | '\n' :: rest => some (skipBlankLines rest)
    | _ => none

def readQuoted : (fuel : Nat) → List Char → Option (List Char × List Char)
  | 0, _ => none
  | fuel + 1, cs =>
    match cs with
    | [] => none
    | '\x22' :: rest => some ([], rest)
    | '\\' :: rest => do
      let (c, rest) ← readEscape rest
      let (s, rest) ← readQuoted fuel rest
      return (c :: s, rest)
    | c :: rest =>
      if isIllegal c then none else (readQuoted fuel rest).map fun (s, r) => (c :: s, r)

def readQuotedLines : (fuel : Nat) → List Char → Option (List Char × List Char)
  | 0, _ => none
  | fuel + 1, cs =>
    match cs with
    | [] => none
    | '\x22' :: '\x22' :: '\x22' :: rest => some ([], rest)
    | '\\' :: c :: rest =>
      if isBlank c || c == '\n' then (skipLineEnd? (c :: rest)).bind (readQuotedLines fuel)
      else do
        let (c, rest) ← readEscape (c :: rest)
        let (s, rest) ← readQuotedLines fuel rest
        return (c :: s, rest)
    | ['\\'] => none
    | c :: rest =>
      if isIllegalInLines c then none
      else (readQuotedLines fuel rest).map fun (s, r) => (c :: s, r)

def readApostrophed : List Char → Option (List Char × List Char)
  | [] => none
  | '\x27' :: rest => some ([], rest)
  | c :: rest =>
    if isIllegal c then none else (readApostrophed rest).map fun (s, r) => (c :: s, r)

def readApostrophedLines : List Char → Option (List Char × List Char)
  | [] => none
  | '\x27' :: '\x27' :: '\x27' :: rest => some ([], rest)
  | c :: rest =>
    if isIllegalInLines c then none
    else (readApostrophedLines rest).map fun (s, r) => (c :: s, r)

/-- At most two more delimiters at the end of a text of several lines belong to the text. -/
def takeDelimiters (delimiter : Char) (read : List Char × List Char) : List Char × List Char :=
  let (s, rest) := read
  let more := (rest.take 2).takeWhile (· == delimiter)
  (s ++ more, rest.drop more.length)

/-- The first line of a text of several lines may be empty and is then dropped. -/
def dropFirstBreak : List Char → List Char
  | '\n' :: rest => rest
  | cs => cs

def readText (cs : List Char) : Option (Option (List Char × List Char)) :=
  match cs with
  | '\x22' :: '\x22' :: '\x22' :: rest =>
    some ((readQuotedLines (rest.length + 1) (dropFirstBreak rest)).map (takeDelimiters '\x22'))
  | '\x27' :: '\x27' :: '\x27' :: rest =>
    some ((readApostrophedLines (dropFirstBreak rest)).map (takeDelimiters '\x27'))
  | '\x22' :: rest => some (readQuoted (rest.length + 1) rest)
  | '\x27' :: rest => some (readApostrophed rest)
  | _ => none

def isBareKeyChar (c : Char) : Bool := c.isAlphanum || c == '-' || c == '_'

def readKeyPart (cs : List Char) : Option (String × List Char) :=
  match cs with
  | '\x22' :: rest =>
    (readQuoted (rest.length + 1) rest).map fun (s, r) => (String.ofList s, r)
  | '\x27' :: rest => (readApostrophed rest).map fun (s, r) => (String.ofList s, r)
  | _ =>
    match cs.takeWhile isBareKeyChar with
    | [] => none
    | name => some (String.ofList name, cs.dropWhile isBareKeyChar)

def readKey : (fuel : Nat) → List Char → Option (List String × List Char)
  | 0, _ => none
  | fuel + 1, cs => do
    let (name, rest) ← readKeyPart cs
    match skipBlank rest with
    | '.' :: rest =>
      let (names, rest) ← readKey fuel (skipBlank rest)
      return (name :: names, rest)
    | rest => return ([name], rest)

end ModulePack.Toml
