import ModulePack.Decimal.Read
import ModulePack.Json.Parser
import ModulePack.Text.Affix
import ModulePack.Text.Blank
import ModulePack.Text.Lines
import ModulePack.Text.Word

/-!
# Arguments of actions

A tag may name an action and give it an argument. An argument is a literal: a number, a text, bytes,
one of the words `True`, `False` and `None`, an ellipsis, a tuple, a set or a table. What a literal
stands for is never needed, so here it is only told whether characters are one.
-/

namespace ModulePack.Console.Argument

inductive Token
  | number (imaginary : Bool)
  | text (bytes : Bool)
  | constant
  /-- The word that stands before the brackets of an empty set. -/
  | setWord
  | mark (c : Char)
  deriving DecidableEq, Repr

def isHexDigit (c : Char) : Bool := (Json.hexValue? c).isSome

def isNameChar (c : Char) : Bool := c.isAlphanum || c == '_' || 127 < c.toNat

/-- Digits after the first, of which an underscore may part two, and what is left. -/
def moreDigits (isDigit : Char → Bool) : List Char → List Char × List Char
  | [] => ([], [])
  | '_' :: c :: rest =>
    if isDigit c then
      let (digits, rest) := moreDigits isDigit rest
      (c :: digits, rest)
    else ([], '_' :: c :: rest)
  | c :: rest =>
    if isDigit c then
      let (digits, rest) := moreDigits isDigit rest
      (c :: digits, rest)
    else ([], c :: rest)

def readDigits (isDigit : Char → Bool) (cs : List Char) : List Char × List Char :=
  if cs.head?.any isDigit then moreDigits isDigit cs else ([], cs)

def baseDigit? (c : Char) : Option (Char → Bool) :=
  if c = 'x' || c = 'X' then some isHexDigit
  else if c = 'o' || c = 'O' then some fun c => '0' ≤ c && c ≤ '7'
  else if c = 'b' || c = 'B' then some fun c => c == '0' || c == '1'
  else none

def afterBase? (isDigit : Char → Bool) (cs : List Char) : Option (List Char) :=
  match readDigits isDigit (if cs.head? = some '_' then cs.tail else cs) with
  | ([], _) => none
  | (_, rest) => some rest

def readFraction (cs : List Char) : Option (List Char) × List Char :=
  match cs with
  | '.' :: rest =>
    let (digits, rest) := readDigits Decimal.isAsciiDigit rest
    (some digits, rest)
  | _ => (none, cs)

def afterExponent? (cs : List Char) : Option (List Char) :=
  match cs with
  | c :: rest =>
    if c = 'e' || c = 'E' then
      let unsigned := if rest.head? = some '+' || rest.head? = some '-' then rest.tail else rest
      match readDigits Decimal.isAsciiDigit unsigned with
      | ([], _) => none
      | (_, rest) => some rest
    else none
  | [] => none

def readDecimal? (cs : List Char) : Option (Bool × List Char) :=
  let (whole, rest) := readDigits Decimal.isAsciiDigit cs
  let (fraction?, rest) := readFraction rest
  if whole.isEmpty && (fraction?.getD []).isEmpty then none
  else
    let exponent? := afterExponent? rest
    let rest := exponent?.getD rest
    if rest.head? = some 'j' || rest.head? = some 'J' then some (true, rest.tail)
    else if fraction?.isSome || exponent?.isSome then some (false, rest)
    else if digitLimit < whole.length || (whole.head? = some '0' && whole.any (· ≠ '0')) then none
    else some (false, rest)

/-- Whether a number is imaginary, and what is left after it. No letter follows a number. -/
def readNumber? (cs : List Char) : Option (Bool × List Char) := do
  let (imaginary, rest) ← match cs with
    | '0' :: c :: more =>
      match baseDigit? c with
      | some isDigit => (afterBase? isDigit more).map (false, ·)
      | none => readDecimal? cs
    | _ => readDecimal? cs
  if rest.head?.any isNameChar then none else return (imaginary, rest)

def isCodePoint (digits : List Char) : Bool :=
  digits.foldl (fun n c => 16 * n + (Json.hexValue? c).getD 0) 0 ≤ 0x10ffff

def isEscape (bytes : Bool) (cs : List Char) : Bool :=
  match cs with
  | [] => false
  | c :: rest =>
    let hex (n : Nat) : Bool := n ≤ rest.length && (rest.take n).all isHexDigit
    if c = 'x' then hex 2
    else if bytes then c.toNat < 128
    else if c = 'u' then hex 4
    else if c = 'U' then hex 8 && isCodePoint (rest.take 8)
    else c ≠ 'N'

/-- What is left after the quotes that close a text. A text between single quotes has one line. -/
def afterText? (raw bytes : Bool) (quotes : List Char) : List Char → Option (List Char)
  | [] => none
  | c :: rest =>
    match Text.after? quotes (c :: rest) with
    | some rest => some rest
    | none =>
      if bytes && 127 < c.toNat then none
      else if c = '\\' then
        match rest with
        | [] => none
        | e :: more =>
          if (if raw then !bytes || e.toNat < 128 else isEscape bytes (e :: more)) then
            afterText? raw bytes quotes more
          else none
      else if c = '\n' && quotes.length = 1 then none
      else afterText? raw bytes quotes rest

def isQuote (c : Char) : Bool := c == '\'' || c == '\x22'

def readText? (raw bytes : Bool) (cs : List Char) : Option (List Char) :=
  match cs with
  | [] => none
  | quote :: rest =>
    match Text.after? [quote, quote, quote] cs with
    | some rest => afterText? raw bytes [quote, quote, quote] rest
    | none => afterText? raw bytes [quote] rest

/-- What a word before a quote tells of the text: whether backslashes stand for themselves, and
whether it is bytes. -/
def textKind? (word : List Char) : Option (Bool × Bool) :=
  [("", (false, false)), ("u", (false, false)), ("r", (true, false)), ("b", (false, true)),
    ("br", (true, true)), ("rb", (true, true))].lookup (String.ofList (word.map Char.toLower))

def readWord? (cs : List Char) : Option (Token × List Char) :=
  let word := cs.takeWhile isNameChar
  let rest := cs.dropWhile isNameChar
  if rest.head?.any isQuote && (textKind? word).isSome then
    (textKind? word).bind fun (raw, bytes) => (readText? raw bytes rest).map (.text bytes, ·)
  else if word ∈ ["True".toList, "False".toList, "None".toList] then some (.constant, rest)
  else if word = "set".toList then some (.setWord, rest)
  else none

def isSpace (c : Char) : Bool := c == ' ' || c == '\t' || c == '\x0c'

def isIdle (line : List Char) : Bool :=
  match line.dropWhile isSpace with
  | [] => true
  | c :: _ => c == '#'

def depthLimit : Nat := 200

/-- The tokens of characters that stand in so many brackets. A line ends only inside brackets, or
before nothing but comments. -/
def tokens? : (fuel depth : Nat) → List Char → Option (List Token)
  | 0, _, _ => none
  | _, depth, [] => if depth = 0 then some [] else none
  | fuel + 1, depth, c :: rest =>
    if c = '\n' && depth = 0 then if (rest.splitOn '\n').all isIdle then some [] else none
    else if isSpace c || c = '\n' then tokens? fuel depth rest
    else if c = '#' then tokens? fuel depth (rest.dropWhile (· ≠ '\n'))
    else if c = '\\' then
      match rest with
      | '\n' :: next :: rest => tokens? fuel depth (next :: rest)
      | _ => none
    else if c = '(' || c = '\x7b' then
      if depth < depthLimit then (tokens? fuel (depth + 1) rest).map (.mark c :: ·) else none
    else if c = ')' || c = '\x7d' then
      if 0 < depth then (tokens? fuel (depth - 1) rest).map (.mark c :: ·) else none
    else if c ∈ [',', ':', '+', '-'] then (tokens? fuel depth rest).map (.mark c :: ·)
    else
      match Text.after? ['.', '.', '.'] (c :: rest) with
      | some rest => (tokens? fuel depth rest).map (.constant :: ·)
      | none =>
        if c = '.' || Decimal.isAsciiDigit c then do
          let (imaginary, rest) ← readNumber? (c :: rest)
          return .number imaginary :: (← tokens? fuel depth rest)
        else do
          let (token, rest) ← readWord? (c :: rest)
          return token :: (← tokens? fuel depth rest)

inductive Kind
  | number (imaginary signed : Bool)
  | setWord
  /-- Any other literal. It may be a key where it is fixed. -/
  | value (fixed : Bool)
  deriving DecidableEq, Repr

namespace Kind

def isValue : Kind → Bool
  | .setWord => false
  | _ => true

def isFixed : Kind → Bool
  | .number _ _ => true
  | .setWord => false
  | .value fixed => fixed

end Kind

def closeSet : Kind → List Token → Kind × List Token
  | .setWord, .mark '(' :: .mark ')' :: rest => (.value false, rest)
  | kind, rest => (kind, rest)

def isText : Token → Bool
  | .text _ => true
  | _ => false

mutual

def atom? : (fuel : Nat) → List Token → Option (Kind × List Token)
  | 0, _ => none
  | fuel + 1, ts =>
    match ts with
    | .number imaginary :: rest => some (.number imaginary false, rest)
    | .constant :: rest => some (.value true, rest)
    | .setWord :: rest => some (closeSet .setWord rest)
    | .text bytes :: rest =>
      if (rest.takeWhile isText).all (· = .text bytes) then
        some (.value true, rest.dropWhile isText)
      else none
    | .mark '(' :: .mark ')' :: rest => some (.value true, rest)
    | .mark '(' :: rest => do
      let (kind, rest) ← sum? fuel rest
      match rest with
      | .mark ')' :: rest => some (closeSet kind rest)
      | .mark ',' :: rest =>
        let (fixed, rest) ← items? fuel ')' rest
        if kind.isValue then some (.value (kind.isFixed && fixed), rest) else none
      | _ => none
    | .mark '\x7b' :: .mark '\x7d' :: rest => some (.value false, rest)
    | .mark '\x7b' :: rest => do
      let (kind, rest) ← sum? fuel rest
      let (fixed, rest) ← match rest with
        | .mark '\x7d' :: rest => some (true, rest)
        | .mark ',' :: rest => items? fuel '\x7d' rest
        | .mark ':' :: rest => fields? fuel rest
        | _ => none
      if kind.isFixed && fixed then some (.value false, rest) else none
    | _ => none

def signed? : (fuel : Nat) → List Token → Option (Kind × List Token)
  | 0, _ => none
  | fuel + 1, ts =>
    match ts with
    | .mark '+' :: rest | .mark '-' :: rest =>
      match atom? fuel rest with
      | some (.number imaginary false, rest) => some (.number imaginary true, rest)
      | _ => none
    | _ => atom? fuel ts

def sum? : (fuel : Nat) → List Token → Option (Kind × List Token)
  | 0, _ => none
  | fuel + 1, ts => do
    let (left, rest) ← signed? fuel ts
    match rest with
    | .mark '+' :: rest | .mark '-' :: rest =>
      match left, atom? fuel rest with
      | .number false _, some (.number true false, rest) => some (.value true, rest)
      | _, _ => none
    | _ => some (left, rest)

def items? : (fuel : Nat) → (close : Char) → List Token → Option (Bool × List Token)
  | 0, _, _ => none
  | fuel + 1, close, ts =>
    if ts.head? = some (.mark close) then some (true, ts.tail)
    else do
      let (kind, rest) ← sum? fuel ts
      let (fixed, rest) ← match rest with
        | .mark ',' :: rest => items? fuel close rest
        | _ => if rest.head? = some (.mark close) then some (true, rest.tail) else none
      if kind.isValue then some (kind.isFixed && fixed, rest) else none

def fields? : (fuel : Nat) → List Token → Option (Bool × List Token)
  | 0, _ => none
  | fuel + 1, ts => do
    let (kind, rest) ← sum? fuel ts
    if !kind.isValue then none
    else
      match rest with
      | .mark '\x7d' :: rest | .mark ',' :: .mark '\x7d' :: rest => some (true, rest)
      | .mark ',' :: rest => do
        let (key, rest) ← sum? fuel rest
        match rest with
        | .mark ':' :: rest =>
          let (fixed, rest) ← fields? fuel rest
          some (key.isFixed && fixed, rest)
        | _ => none
      | _ => none

end

/-- The lines without the comments before the first of them, if that is not indented. A form feed
takes an indentation back. -/
def dropIdle? (cs : List Char) : Option (List Char) :=
  match (cs.splitOn '\n').dropWhile isIdle with
  | [] => none
  | line :: rest =>
    if (line.takeWhile isSpace).getLast?.all (· = '\x0c') then
      some (['\n'].intercalate (line :: rest))
    else none

/-- Whether the characters are a literal. The outermost tuple needs no brackets. -/
def isLiteral (cs : List Char) : Bool :=
  if '\x00' ∈ cs then false
  else
    match (dropIdle? (Text.unifyNewlines cs)).bind fun cs => tokens? (cs.length + 1) 0 cs with
    | none | some [] => false
    | some ts =>
      match atom? (4 * ts.length + 8) (.mark '(' :: ts ++ [.mark ')']) with
      | some (kind, []) => kind.isValue
      | _ => false

/-- Whether the characters are the name of a function, with or without an argument in brackets,
or an argument alone. -/
def isArgument (cs : List Char) : Bool :=
  let cs := Text.dropBlankEnd (cs.dropWhile Text.isBlank)
  match cs.dropWhile fun c => Text.isWord c || c == '.' with
  | [] => true
  | '(' :: rest =>
    if rest.getLast? = some ')' && !rest.contains '\n' then isLiteral ('(' :: rest)
    else isLiteral cs
  | _ => isLiteral cs

end ModulePack.Console.Argument
