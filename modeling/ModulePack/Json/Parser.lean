import ModulePack.Decimal.Read
import ModulePack.Value.Basic
import ModulePack.Value.ReadError

/-!
# Reading JSON

A text is read from left to right. Besides JSON the numbers `NaN`, `Infinity` and `-Infinity` are
read. Of several fields with one key the last one counts. An escaped half of a pair of UTF-16 units
that stands alone is JSON, but no character: where one is met nothing is read.
-/

namespace ModulePack.Json

def isSpace (c : Char) : Bool := c == ' ' || c == '\t' || c == '\n' || c == '\r'

def skipSpace (cs : List Char) : List Char := cs.dropWhile isSpace

def hexValue? (c : Char) : Option Nat :=
  if '0' ≤ c ∧ c ≤ '9' then some (c.toNat - 48)
  else if 'a' ≤ c ∧ c ≤ 'f' then some (c.toNat - 87)
  else if 'A' ≤ c ∧ c ≤ 'F' then some (c.toNat - 55)
  else none

def unitValue? (a b c d : Char) : Option Nat := do
  let a ← hexValue? a
  let b ← hexValue? b
  let c ← hexValue? c
  let d ← hexValue? d
  return ((a * 16 + b) * 16 + c) * 16 + d

def isHighUnit (n : Nat) : Bool := 0xd800 ≤ n && n < 0xdc00

def isLowUnit (n : Nat) : Bool := 0xdc00 ≤ n && n < 0xe000

/-- The character of a code point or UTF-16 unit, unless it is half of a pair. -/
def unitChar? (n : Nat) : Option Char :=
  if isHighUnit n || isLowUnit n then none else some (Char.ofNat n)

def pairChar (high low : Nat) : Char :=
  Char.ofNat (0x10000 + (high - 0xd800) * 0x400 + (low - 0xdc00))

def escapeValue? (c : Char) : Option Char :=
  if c = '\x22' || c = '\\' || c = '/' then some c
  else if c = 'b' then some '\x08'
  else if c = 'f' then some '\x0c'
  else if c = 'n' then some '\n'
  else if c = 'r' then some '\r'
  else if c = 't' then some '\t'
  else none

/-- The characters of a list of code points in which two UTF-16 units may stand for one. -/
def joinUnits? : List Nat → Option (List Char)
  | [] => some []
  | [n] => do return [← unitChar? n]
  | high :: low :: rest =>
    if isHighUnit high && isLowUnit low then do return pairChar high low :: (← joinUnits? rest)
    else do return (← unitChar? high) :: (← joinUnits? (low :: rest))

/-- The code points and units up to the closing quote, and what is left after it. -/
def readCodes : List Char → Option (List Nat × List Char)
  | [] => none
  | '\x22' :: rest => some ([], rest)
  | '\\' :: 'u' :: a :: b :: c :: d :: rest =>
    match unitValue? a b c d with
    | none => none
    | some n => (readCodes rest).map fun (ns, r) => (n :: ns, r)
  | '\\' :: e :: rest =>
    match escapeValue? e with
    | none => none
    | some x => (readCodes rest).map fun (ns, r) => (x.toNat :: ns, r)
  | c :: rest =>
    if c = '\\' || c.toNat < 0x20 then none
    else (readCodes rest).map fun (ns, r) => (c.toNat :: ns, r)

def readText (cs : List Char) : Except ReadError (String × List Char) :=
  match readCodes cs with
  | none => .error .malformed
  | some (ns, rest) =>
    match joinUnits? ns with
    | none => .error .halfPair
    | some cs => .ok (String.ofList cs, rest)

def digits? (cs : List Char) : Option (List Char × List Char) :=
  match cs.takeWhile Decimal.isAsciiDigit with
  | [] => none
  | ds => some (ds, cs.dropWhile Decimal.isAsciiDigit)

def fraction (cs : List Char) : Option (List Char) × List Char :=
  match cs with
  | '.' :: rest =>
    match digits? rest with
    | some (ds, rest) => (some ds, rest)
    | none => (none, cs)
  | _ => (none, cs)

def signedDigits? : List Char → Option (Int × List Char)
  | '-' :: rest => (digits? rest).map fun (ds, r) => (-(Decimal.natOfDigits ds : Int), r)
  | '+' :: rest => (digits? rest).map fun (ds, r) => ((Decimal.natOfDigits ds : Int), r)
  | cs => (digits? cs).map fun (ds, r) => ((Decimal.natOfDigits ds : Int), r)

def exponent (cs : List Char) : Option Int × List Char :=
  match cs with
  | c :: rest =>
    if c = 'e' || c = 'E' then
      match signedDigits? rest with
      | some (e, rest) => (some e, rest)
      | none => (none, cs)
    else (none, cs)
  | [] => (none, [])

/-- The digits before the point: a zero alone, or digits of which the first is not zero. -/
def wholePart? : List Char → Option (List Char × List Char)
  | '0' :: rest => some (['0'], rest)
  | cs => digits? cs

def readUnsigned (negative : Bool) (cs : List Char) : Except ReadError (Value × List Char) :=
  match wholePart? cs with
  | none => .error .malformed
  | some (whole, rest) =>
    let (tail?, rest) := fraction rest
    let (exponent?, rest) := exponent rest
    if tail?.isNone && exponent?.isNone then
      if digitLimit < whole.length then .error .numberTooLong
      else
        let n : Int := Decimal.natOfDigits whole
        .ok (.int (if negative then -n else n), rest)
    else
      let tail := tail?.getD []
      .ok (.float (Decimal.floatOf negative (whole ++ tail) (exponent?.getD 0 - tail.length)), rest)

def word? (word : String) (cs : List Char) : Option (List Char) :=
  if word.toList.isPrefixOf cs then some (cs.drop word.length) else none

def readScalar (cs : List Char) : Except ReadError (Value × List Char) :=
  match word? "null" cs, word? "true" cs, word? "false" cs, word? "NaN" cs,
      word? "Infinity" cs, word? "-Infinity" cs with
  | some r, _, _, _, _, _ => .ok (.null, r)
  | _, some r, _, _, _, _ => .ok (.bool true, r)
  | _, _, some r, _, _, _ => .ok (.bool false, r)
  | _, _, _, some r, _, _ => .ok (.float (0.0 / 0.0), r)
  | _, _, _, _, some r, _ => .ok (.float (1.0 / 0.0), r)
  | _, _, _, _, _, some r => .ok (.float (-1.0 / 0.0), r)
  | _, _, _, _, _, _ =>
    match cs with
    | '-' :: rest => readUnsigned true rest
    | _ => readUnsigned false cs

def readKey (cs : List Char) : Except ReadError (String × List Char) :=
  match cs with
  | '\x22' :: rest => do
    let (key, rest) ← readText rest
    match skipSpace rest with
    | ':' :: rest => return (key, rest)
    | _ => throw .malformed
  | _ => .error .malformed

mutual

/-- A value at the start of the characters, of at most so many levels, and what is left after it. -/
def readValue : (fuel levels : Nat) → List Char → Except ReadError (Value × List Char)
  | 0, _, _ => .error .malformed
  | fuel + 1, levels, cs =>
    match cs, levels with
    | '\x22' :: rest, _ => do
      let (s, rest) ← readText rest
      return (.text s, rest)
    | '[' :: _, 0 | '\x7b' :: _, 0 => .error .nestedTooDeep
    | '[' :: rest, levels + 1 =>
      match skipSpace rest with
      | ']' :: rest => .ok (.list [], rest)
      | rest => do
        let (v, rest) ← readValue fuel levels rest
        let (vs, rest) ← readItems fuel levels (skipSpace rest)
        return (.list (v :: vs), rest)
    | '\x7b' :: rest, levels + 1 =>
      match skipSpace rest with
      | '\x7d' :: rest => .ok (.table [], rest)
      | rest => do
        let (key, rest) ← readKey rest
        let (v, rest) ← readValue fuel levels (skipSpace rest)
        let (fields, rest) ← readFields fuel levels (skipSpace rest)
        return (.table (Dictionary.ofPairs ((key, v) :: fields)), rest)
    | _, _ => readScalar cs

def readItems : (fuel levels : Nat) → List Char → Except ReadError (List Value × List Char)
  | 0, _, _ => .error .malformed
  | fuel + 1, levels, cs =>
    match cs with
    | ']' :: rest => .ok ([], rest)
    | ',' :: rest => do
      let (v, rest) ← readValue fuel levels (skipSpace rest)
      let (vs, rest) ← readItems fuel levels (skipSpace rest)
      return (v :: vs, rest)
    | _ => .error .malformed

def readFields : (fuel levels : Nat) → List Char →
    Except ReadError (List (String × Value) × List Char)
  | 0, _, _ => .error .malformed
  | fuel + 1, levels, cs =>
    match cs with
    | '\x7d' :: rest => .ok ([], rest)
    | ',' :: rest => do
      let (key, rest) ← readKey (skipSpace rest)
      let (v, rest) ← readValue fuel levels (skipSpace rest)
      let (fields, rest) ← readFields fuel levels (skipSpace rest)
      return ((key, v) :: fields, rest)
    | _ => .error .malformed

end

def parse (s : String) : Except ReadError Value := do
  let cs := s.toList
  let (v, rest) ← readValue (cs.length + 1) depthLimit (skipSpace cs)
  if (skipSpace rest).isEmpty then return v else throw .malformed

end ModulePack.Json
