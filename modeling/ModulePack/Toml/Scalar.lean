import ModulePack.Json.Parser

/-!
# Numbers and moments of a TOML document

Whole numbers are written to the base ten, sixteen, eight or two, with underscores between digits.
A moment is a date, a time of day or both, with or without the distance from universal time.
-/

namespace ModulePack.Toml

/-- Digits with single underscores between them, and what is left after them. -/
def readDigits (isDigit : Char → Bool) : List Char → List Char × List Char
  | [] => ([], [])
  | [c] => if isDigit c then ([c], []) else ([], [c])
  | c :: '_' :: d :: rest =>
    if isDigit c then
      if isDigit d then
        let (digits, rest) := readDigits isDigit (d :: rest)
        (c :: digits, rest)
      else ([c], '_' :: d :: rest)
    else ([], c :: '_' :: d :: rest)
  | c :: rest =>
    if isDigit c then
      let (digits, rest) := readDigits isDigit rest
      (c :: digits, rest)
    else ([], c :: rest)

def isHexDigit (c : Char) : Bool := (Json.hexValue? c).isSome

def natOfHexDigits (base : Nat) (digits : List Char) : Nat :=
  digits.foldl (fun n c => base * n + (Json.hexValue? c).getD 0) 0

def readBased? (cs : List Char) : Option (Value × List Char) :=
  let read (base : Nat) (isDigit : Char → Bool) (rest : List Char) : Option (Value × List Char) :=
    match readDigits isDigit rest with
    | ([], _) => none
    | (digits, rest) => some (.int (natOfHexDigits base digits), rest)
  match cs with
  | '0' :: 'x' :: rest => read 16 isHexDigit rest
  | '0' :: 'o' :: rest => read 8 (fun c => '0' ≤ c && c ≤ '7') rest
  | '0' :: 'b' :: rest => read 2 (fun c => c == '0' || c == '1') rest
  | _ => none

def readFraction (cs : List Char) : List Char × List Char :=
  match cs with
  | '.' :: rest =>
    match readDigits Decimal.isAsciiDigit rest with
    | ([], _) => ([], cs)
    | read => read
  | _ => ([], cs)

def readExponent (cs : List Char) : Option Int × List Char :=
  let read (negative : Bool) (rest : List Char) : Option Int × List Char :=
    match readDigits Decimal.isAsciiDigit rest with
    | ([], _) => (none, cs)
    | (digits, rest) =>
      let n : Int := Decimal.natOfDigits digits
      (some (if negative then -n else n), rest)
  match cs with
  | c :: rest =>
    if c = 'e' || c = 'E' then
      match rest with
      | '-' :: rest => read true rest
      | '+' :: rest => read false rest
      | _ => read false rest
    else (none, cs)
  | [] => (none, [])

def readWhole : List Char → List Char × List Char
  | '0' :: rest => (['0'], rest)
  | cs => readDigits Decimal.isAsciiDigit cs

def readDecimal? (cs : List Char) : Option (Except ReadError (Value × List Char)) :=
  let read (negative : Bool) (cs : List Char) : Option (Except ReadError (Value × List Char)) :=
    match readWhole cs with
    | ([], _) => none
    | (whole, rest) =>
      let (fraction, rest) := readFraction rest
      let (exponent, rest) := readExponent rest
      if fraction.isEmpty && exponent.isNone then
        if digitLimit < whole.length then some (.error .numberTooLong)
        else
          let n : Int := Decimal.natOfDigits whole
          some (.ok (.int (if negative then -n else n), rest))
      else
        some (.ok (.float (Decimal.floatOf negative (whole ++ fraction)
          (exponent.getD 0 - fraction.length)), rest))
  match cs with
  | '-' :: rest => read true rest
  | '+' :: rest => read false rest
  | _ => read false cs

def readNamedNumber? (cs : List Char) : Option (Value × List Char) :=
  [("inf", 1.0 / 0.0), ("+inf", 1.0 / 0.0), ("-inf", -1.0 / 0.0), ("nan", 0.0 / 0.0),
    ("+nan", 0.0 / 0.0), ("-nan", 0.0 / 0.0)].findSome?
  fun (name, x) => (Json.word? name cs).map (Value.float x, ·)

def twoDigits? (low high : Nat) : List Char → Option (Nat × List Char)
  | a :: b :: rest =>
    let n := Decimal.natOfDigits [a, b]
    if Decimal.isAsciiDigit a && Decimal.isAsciiDigit b && low ≤ n && n ≤ high then some (n, rest)
    else none
  | _ => none

def sign? (c : Char) : List Char → Option (List Char)
  | d :: rest => if c = d then some rest else none
  | [] => none

/-- The microseconds of a fraction of a second; further digits do not count. -/
def microseconds (digits : List Char) : Nat :=
  Decimal.natOfDigits ((digits ++ List.replicate 6 '0').take 6)

def readTime? (cs : List Char) : Option (TimeOfDay × List Char) := do
  let (hour, rest) ← twoDigits? 0 23 cs
  let (minute, rest) ← twoDigits? 0 59 (← sign? ':' rest)
  let (second, rest) ← twoDigits? 0 59 (← sign? ':' rest)
  match rest with
  | '.' :: more =>
    match more.takeWhile Decimal.isAsciiDigit with
    | [] => return (⟨hour, minute, second, 0⟩, rest)
    | digits =>
      return (⟨hour, minute, second, microseconds digits⟩, more.dropWhile Decimal.isAsciiDigit)
  | _ => return (⟨hour, minute, second, 0⟩, rest)

def readAhead (cs : List Char) : Option Int × List Char :=
  match cs with
  | c :: rest =>
    if c = 'Z' || c = 'z' then (some 0, rest)
    else if c = '+' || c = '-' then
      match (do
        let (hour, rest) ← twoDigits? 0 23 rest
        let (minute, rest) ← twoDigits? 0 59 (← sign? ':' rest)
        return (hour * 60 + minute, rest) : Option (Nat × List Char)) with
      | some (minutes, rest) => (some (if c = '-' then -(minutes : Int) else minutes), rest)
      | none => (none, cs)
    else (none, cs)
  | [] => (none, [])

/-- A date with or without a time; none where no date begins. -/
def readDate? (cs : List Char) : Option (Except ReadError (Value × List Char)) := do
  let year := cs.take 4
  guard (year.length == 4 && year.all Decimal.isAsciiDigit)
  let (month, rest) ← twoDigits? 1 12 (← sign? '-' (cs.drop 4))
  let (day, rest) ← twoDigits? 1 31 (← sign? '-' rest)
  let d : Day := ⟨Decimal.natOfDigits year, month, day⟩
  let (moment, rest) : Moment × List Char := match rest with
    | c :: more =>
      if c = 'T' || c = 't' || c = ' ' then
        match readTime? more with
        | some (t, rest) =>
          let (ahead, rest) := readAhead rest
          (.dayTime d t ahead, rest)
        | none => (.day d, rest)
      else (.day d, rest)
    | [] => (.day d, rest)
  return if d.isValid then .ok (.moment moment, rest) else .error .malformed

def readScalar (cs : List Char) : Except ReadError (Value × List Char) :=
  match readDate? cs with
  | some read => read
  | none =>
    match readTime? cs with
    | some (t, rest) => .ok (.moment (.time t), rest)
    | none =>
      match readBased? cs with
      | some read => .ok read
      | none =>
        match readDecimal? cs with
        | some read => read
        | none =>
          match readNamedNumber? cs with
          | some read => .ok read
          | none => .error .malformed

end ModulePack.Toml
