import ModulePack.Json.Parser
import ModulePack.Pattern.Match
import ModulePack.Text.Identifier

/-!
# Reading search patterns

A pattern is alternatives of sequences of items, each of which may be repeated. Flags for the whole
pattern stand at its start. A reader goes through the text from left to right and stops at the first
mistake; what must be known of the whole pattern is checked at its end. Characters are not known by
their names here, so that a pattern with the name of a character is refused.
-/

namespace ModulePack.Pattern

inductive ReadingError
  | malformed
  /-- A count is beyond all that can be counted to. -/
  | countTooLarge
  | nestedTooDeep
  /-- The text would be a pattern, but for its numbers or for flags that exclude each other. -/
  | unusable
  deriving DecidableEq, Repr

abbrev Width := Nat × Option Nat

namespace Width

def add (v w : Width) : Width := (v.1 + w.1, v.2.bind fun b => w.2.map (b + ·))

def either (v w : Width) : Width := (min v.1 w.1, v.2.bind fun b => w.2.map (max b))

def times (w : Width) (least : Nat) (most : Option Nat) : Width :=
  (w.1 * least, if w.2 = some 0 then some 0 else w.2.bind fun b => most.map (b * ·))

end Width

def width (groups : Nat → Width) : Pattern → Width
  | .empty | .anchor _ | .ahead _ _ | .behind _ _ _ => (0, some 0)
  | .oneOf _ => (1, some 1)
  | .seq p q => (p.width groups).add (q.width groups)
  | .alt p q | .choice _ p q => (p.width groups).either (q.width groups)
  | .group p | .keep _ p | .first p => p.width groups
  | .same number _ => groups number
  | .repeated p least most _ => (p.width groups).times least most

structure Reader where
  rest : List Char
  /-- The widths of the groups in the order of their brackets; none while a group is open. -/
  groups : List (Option Width) := []
  names : List (String × Nat) := []
  /-- In a look behind: how many groups there were before it. -/
  outside : Option Nat := none
  /-- Groups that conditions refer to by their numbers. -/
  conditions : List Nat := []
  /-- Flags that were set for the whole pattern. -/
  letters : List Char := []
  /-- How many groups may still stand in one another. -/
  levels : Nat := depthLimit / 2

abbrev Reading := StateT Reader (Except ReadingError)

namespace Reading

def fail {α : Type} : Reading α := throw .malformed

def rest : Reading (List Char) := return (← get).rest

def setRest (cs : List Char) : Reading Unit := modify fun r => { r with rest := cs }

def ofOption {α : Type} : Option (α × List Char) → Reading α
  | some (a, rest) => do
    setRest rest
    return a
  | none => fail

def deeper {α : Type} (read : Reading α) : Reading α := do
  let levels := (← get).levels
  if levels = 0 then throw .nestedTooDeep
  modify fun r => { r with levels := levels - 1 }
  let a ← read
  modify fun r => { r with levels }
  return a

def accept (c : Char) : Reading Bool := do
  match ← rest with
  | d :: cs =>
    if c = d then
      setRest cs
      return true
    else return false
  | [] => return false

def expect (c : Char) : Reading Unit := do
  if !(← accept c) then fail

end Reading

def codeClass (flags : PatternFlags) (n : Nat) : CharClass := ⟨[.char n], false, flags⟩

def charPattern (flags : PatternFlags) (n : Nat) : Pattern := .oneOf (codeClass flags n)

def namedItem? (c : Char) : Option ClassItem :=
  match c with
  | 'd' => some (.named .digit false)
  | 'D' => some (.named .digit true)
  | 's' => some (.named .blank false)
  | 'S' => some (.named .blank true)
  | 'w' => some (.named .word false)
  | 'W' => some (.named .word true)
  | _ => none

def isOctal (c : Char) : Bool := '0' ≤ c && c ≤ '7'

def natOfOctal (cs : List Char) : Nat := cs.foldl (fun n c => 8 * n + (c.toNat - 48)) 0

def readHex (width : Nat) (cs : List Char) : Option (Nat × List Char) := do
  let digits ← (cs.take width).mapM Json.hexValue?
  let n := digits.foldl (fun n d => 16 * n + d) 0
  if digits.length = width && n < 0x110000 then return (n, cs.drop width) else none

/-- What a letter stands for after a backslash, inside and outside of a class. -/
def controlCode? (c : Char) : Option Nat :=
  match c with
  | 'a' => some 7
  | 'f' => some 12
  | 'n' => some 10
  | 'r' => some 13
  | 't' => some 9
  | 'v' => some 11
  | _ => none

def readCode (c : Char) (rest : List Char) : Option (Nat × List Char) :=
  match c with
  | 'x' => readHex 2 rest
  | 'u' => readHex 4 rest
  | 'U' => readHex 8 rest
  | _ => none

/-- The octal digits at the start of the characters, at most two. -/
def readOctal (first : Char) (rest : List Char) : Option (Nat × List Char) :=
  let more := (rest.take 2).takeWhile isOctal
  let n := natOfOctal (first :: more)
  if n ≤ 255 then some (n, rest.drop more.length) else none

def readClassEscape (cs : List Char) : Option (ClassItem × List Char) := do
  let c :: rest := cs | none
  match namedItem? c, controlCode? c with
  | some item, _ => return (item, rest)
  | none, some n => return (.char n, rest)
  | none, none =>
    if c = 'b' then return (.char 8, rest)
    else if c = 'x' || c = 'u' || c = 'U' then
      let (n, rest) ← readCode c rest
      return (.char n, rest)
    else if isOctal c then
      let (n, rest) ← readOctal c rest
      return (.char n, rest)
    else if c.isAlphanum then none
    else return (.char c.toNat, rest)

def readClassItem (cs : List Char) : Option (ClassItem × List Char) :=
  match cs with
  | [] => none
  | '\\' :: rest => readClassEscape rest
  | c :: rest => some (.char c.toNat, rest)

/-- The items of a class up to its bracket, after those before. -/
def readClassItems : (fuel : Nat) → List ClassItem → List Char → Option (List ClassItem × List Char)
  | 0, _, _ => none
  | fuel + 1, items, cs =>
    match cs with
    | [] => none
    | c :: more =>
      if c = ']' && !items.isEmpty then some (items.eraseDups, more)
      else do
        let (item, rest) ← readClassItem cs
        match rest with
        | '-' :: ']' :: rest => return ((items ++ [item, .char 45]).eraseDups, rest)
        | '-' :: rest =>
          let (last, rest) ← readClassItem rest
          match item, last with
          | .char low, .char high =>
            if high < low then none else readClassItems fuel (items ++ [.range low high]) rest
          | _, _ => none
        | rest => readClassItems fuel (items ++ [item]) rest

def readClass (flags : PatternFlags) (cs : List Char) : Option (Pattern × List Char) :=
  match cs with
  | '^' :: rest => (readClassItems (rest.length + 1) [] rest).map fun (items, rest) =>
    (.oneOf ⟨items, true, flags⟩, rest)
  | _ => (readClassItems (cs.length + 1) [] cs).map fun (items, rest) =>
    (.oneOf ⟨items, false, flags⟩, rest)

/-- The width of a group that can be referred to, which is closed and not part of the look behind
that refers to it. -/
def groupWidth? (r : Reader) (number : Nat) : Option Width := do
  let width ← ← r.groups[number - 1]?
  guard (number ≠ 0 && r.outside.all (number ≤ ·))
  return width

def readReference (flags : PatternFlags) (number : Nat) : Reading Pattern := do
  if (groupWidth? (← get) number).isSome then return .same number flags else Reading.fail

/-- An item that begins with a digit other than zero after a backslash: three octal digits spell a
character, one or two digits the number of a group. -/
def readNumbered (flags : PatternFlags) (c : Char) : Reading Pattern := do
  match ← Reading.rest with
  | d :: rest =>
    if d.isDigit then
      match rest with
      | e :: more =>
        if isOctal c && isOctal d && isOctal e then
          let n := natOfOctal [c, d, e]
          if n ≤ 255 then
            Reading.setRest more
            return charPattern flags n
          else Reading.fail
        else
          Reading.setRest rest
          readReference flags (Decimal.natOfDigits [c, d])
      | [] =>
        Reading.setRest rest
        readReference flags (Decimal.natOfDigits [c, d])
    else readReference flags (Decimal.natOfDigits [c])
  | [] => readReference flags (Decimal.natOfDigits [c])

def readEscape (flags : PatternFlags) : Reading Pattern := do
  let c :: rest ← Reading.rest | Reading.fail
  Reading.setRest rest
  match c with
  | 'A' => return .anchor .textStart
  | 'Z' => return .anchor .textEnd
  | 'b' => return .anchor (.boundary false flags.ascii)
  | 'B' => return .anchor (.boundary true flags.ascii)
  | _ =>
    match namedItem? c, controlCode? c with
    | some item, _ => return .oneOf ⟨[item], false, flags⟩
    | none, some n => return charPattern flags n
    | none, none =>
      if c = 'x' || c = 'u' || c = 'U' then
        return charPattern flags (← Reading.ofOption (readCode c rest))
      else if c = '0' then return charPattern flags (← Reading.ofOption (readOctal c rest))
      else if c.isDigit then readNumbered flags c
      else if c.isAlpha then Reading.fail
      else return charPattern flags c.toNat

structure Count where
  least : Nat
  most : Option Nat

def splitDigits (cs : List Char) : List Char × List Char :=
  (cs.takeWhile Decimal.isAsciiDigit, cs.dropWhile Decimal.isAsciiDigit)

/-- The digits of the two counts between braces, and what is left after the braces. -/
def splitBraces? (cs : List Char) : Option (List Char × List Char × List Char) :=
  let (least, rest) := splitDigits cs
  match rest with
  | ',' :: rest =>
    match splitDigits rest with
    | (most, '\x7d' :: rest) => some (least, most, rest)
    | _ => none
  | '\x7d' :: rest => if least.isEmpty then none else some (least, least, rest)
  | _ => none

/-- No count reaches this number. -/
def countBound : Nat := 4294967295

def countOf (digits : List Char) : Except ReadingError Nat :=
  if digitLimit < digits.length then .error .unusable
  else if countBound ≤ Decimal.natOfDigits digits then .error .countTooLarge
  else .ok (Decimal.natOfDigits digits)

/-- The count that the digits between braces spell; nothing that is broken may follow it. -/
def countOfBraces (least most rest : List Char) : Except ReadingError Count := do
  if rest = ['\\'] then throw .malformed
  let least ← if least.isEmpty then pure 0 else countOf least
  if most.isEmpty then return ⟨least, none⟩
  let most ← countOf most
  if most < least then throw .malformed
  return ⟨least, some most⟩

def readCount? : Reading (Option Count) := do
  match ← Reading.rest with
  | '?' :: rest =>
    Reading.setRest rest
    return some ⟨0, some 1⟩
  | '*' :: rest =>
    Reading.setRest rest
    return some ⟨0, none⟩
  | '+' :: rest =>
    Reading.setRest rest
    return some ⟨1, none⟩
  | '\x7b' :: rest =>
    match splitBraces? rest with
    | none => return none
    | some (least, most, rest) =>
      Reading.setRest rest
      return some (← countOfBraces least most rest)
  | _ => return none

def readGreed : Reading Greed := do
  if ← Reading.accept '?' then return .least
  else if ← Reading.accept '+' then return .all
  else return .most

def Count.apply (count : Count) (greed : Greed) : Pattern → Option Pattern
  | .anchor _ => none
  | .repeated _ _ _ _ => none
  | p => some (.repeated p count.least count.most greed)

/-- Sets or clears the flag of a letter. The letter `t` changes nothing here. -/
def setFlag (on : Bool) (flags : PatternFlags) (c : Char) : Option PatternFlags :=
  match c with
  | 'i' => some { flags with ignoreCase := on }
  | 'm' => some { flags with multiline := on }
  | 's' => some { flags with dotAll := on }
  | 'x' => some { flags with verbose := on }
  | 'a' => some { flags with ascii := on }
  | 'u' => some { flags with ascii := !on }
  | 't' => some flags
  | _ => none

def isFlagEnd (c : Char) : Bool := c == ')' || c == ':' || c == '-'

/-- The flags for the rest of the pattern, with their letters, or those of the group that
follows. -/
inductive FlagScope
  | whole (flags : PatternFlags) (letters : List Char)
  | group (flags : PatternFlags)

def readFlags (flags : PatternFlags) (cs : List Char) : Option (FlagScope × List Char) := do
  let on := cs.takeWhile fun c => !isFlagEnd c
  guard !(on.contains 'a' && on.contains 'u')
  let set ← on.foldlM (setFlag true) flags
  match cs.dropWhile fun c => !isFlagEnd c with
  | ')' :: rest => if on.isEmpty then none else return (.whole set on, rest)
  | ':' :: rest => if on.contains 't' then none else return (.group set, rest)
  | '-' :: rest =>
    let off := rest.takeWhile fun c => !isFlagEnd c
    guard (!off.isEmpty && !off.any on.contains && !on.contains 't')
    guard (!off.any ['a', 'u', 't'].contains)
    let set ← off.foldlM (setFlag false) set
    match rest.dropWhile fun c => !isFlagEnd c with
    | ':' :: rest => return (.group set, rest)
    | _ => none
  | _ => none

inductive GroupStart
  | plain
  | named (name : String)
  | flags (flags : PatternFlags)
  | wholeFlags (flags : PatternFlags) (letters : List Char)
  | comment
  | first
  | ahead (negated : Bool)
  | behind (negated : Bool)
  | same (name : List Char)
  | condition (name : List Char)

def afterComment : List Char → Option (List Char)
  | '\\' :: _ :: rest => afterComment rest
  | ')' :: rest => some rest
  | _ :: rest => afterComment rest
  | [] => none

def splitAt? (c : Char) (cs : List Char) : Option (List Char × List Char) :=
  match cs.dropWhile (· != c) with
  | _ :: rest => some (cs.takeWhile (· != c), rest)
  | [] => none

def readGroupStart (flags : PatternFlags) (cs : List Char) : Option (GroupStart × List Char) :=
  match cs with
  | '?' :: ':' :: rest => some (.flags flags, rest)
  | '?' :: '>' :: rest => some (.first, rest)
  | '?' :: '=' :: rest => some (.ahead false, rest)
  | '?' :: '!' :: rest => some (.ahead true, rest)
  | '?' :: '<' :: '=' :: rest => some (.behind false, rest)
  | '?' :: '<' :: '!' :: rest => some (.behind true, rest)
  | '?' :: 'P' :: '<' :: rest => do
    let (name, rest) ← splitAt? '>' rest
    if Text.isIdentifier name then some (.named (String.ofList name), rest) else none
  | '?' :: 'P' :: '=' :: rest => (splitAt? ')' rest).map fun (name, rest) => (.same name, rest)
  | '?' :: '(' :: rest => (splitAt? ')' rest).map fun (name, rest) => (.condition name, rest)
  | '?' :: '#' :: rest => (afterComment rest).map (.comment, ·)
  | '?' :: rest => (readFlags flags rest).map fun (scope, rest) =>
    match scope with
    | .whole flags letters => (.wholeFlags flags letters, rest)
    | .group flags => (.flags flags, rest)
  | _ => some (.plain, cs)

def openGroup (name : Option String) : Reading Nat := do
  let r ← get
  let number := r.groups.length + 1
  let names ← match name with
    | none => pure r.names
    | some name =>
      if (r.names.lookup name).isSome then Reading.fail else pure ((name, number) :: r.names)
  set { r with groups := r.groups ++ [none], names }
  return number

def closedWidth (r : Reader) (number : Nat) : Width :=
  ((r.groups[number - 1]?).bind id).getD (0, some 0)

def closeGroup (number : Nat) (p : Pattern) : Reading Unit :=
  modify fun r =>
    { r with groups := r.groups.set (number - 1) (some (p.width (closedWidth r))) }

/-- The digits that characters stand for; a single underscore may stand between two of them. -/
def spelledDigits? : List Char → Option (List Nat)
  | [] => none
  | [c] => do return [← Text.digitValue? c]
  | c :: '_' :: rest | c :: rest => do return (← Text.digitValue? c) :: (← spelledDigits? rest)

/-- The number that characters spell, with blanks around it and a sign in front of it or not. -/
def spelledNumber? (cs : List Char) : Option Nat := do
  let cs := ((cs.dropWhile Text.isBlank).reverse.dropWhile Text.isBlank).reverse
  let digits ← spelledDigits? (if cs.head? = some '+' then cs.tail else cs)
  return digits.foldl (10 * · + ·) 0

def readCondition (name : List Char) : Reading Nat := do
  let r ← get
  let found? := if Text.isIdentifier name then r.names.lookup (String.ofList name)
    else (spelledNumber? name).filter (· ≠ 0)
  match found? with
  | none => Reading.fail
  | some number =>
    if r.outside.isSome && (groupWidth? r number).isNone then Reading.fail
    set { r with conditions := number :: r.conditions }
    return number

/-- The items of a sequence as one pattern, the last one first. -/
def ofReversed (items : List Pattern) : Pattern :=
  match items with
  | [] => .empty
  | p :: rest => rest.foldl (fun tail item => .seq item tail) p

def anyChar (flags : PatternFlags) : CharClass :=
  if flags.dotAll then ⟨[], true, {}⟩ else ⟨[.char 10], true, {}⟩

def isVerboseBlank (c : Char) : Bool := c == ' ' || (9 ≤ c.toNat && c.toNat ≤ 13)

/-- What is left after a remark at the end of a line. Nothing may be broken in a remark either. -/
def afterRemark : List Char → Option (List Char)
  | ['\\'] => none
  | '\\' :: _ :: rest => afterRemark rest
  | '\n' :: rest => some rest
  | _ :: rest => afterRemark rest
  | [] => some []

mutual

/-- Alternatives up to a closing bracket or the end; `top` where nothing stands before them. -/
def readAlternatives : (fuel : Nat) → (top : Bool) → PatternFlags → Reading Pattern
  | 0, _, _ => Reading.fail
  | fuel + 1, top, flags => do
    let (p, flags) ← readSequence fuel top flags []
    if ← Reading.accept '|' then return .alt p (← readAlternatives fuel false flags)
    else return p

def readGroup : (fuel : Nat) → PatternFlags → GroupStart → Reading Pattern
  | 0, _, _ => Reading.fail
  | fuel + 1, flags, start => do
    match start with
    | .flags inner =>
      let p ← readAlternatives fuel false inner
      Reading.expect ')'
      return .group p
    | .first =>
      let p ← readAlternatives fuel false flags
      Reading.expect ')'
      return .first p
    | .ahead negated =>
      let p ← readAlternatives fuel false flags
      Reading.expect ')'
      return .ahead p negated
    | .behind negated =>
      let before := (← get).outside
      modify fun r => { r with outside := before.or (some r.groups.length) }
      let p ← readAlternatives fuel false flags
      modify fun r => { r with outside := before }
      Reading.expect ')'
      return .behind p 0 negated
    | .same name =>
      match (← get).names.lookup (String.ofList name) with
      | some number => readReference flags number
      | none => Reading.fail
    | .condition name =>
      let number ← readCondition name
      let (p, _) ← readSequence fuel false flags []
      let q ← if ← Reading.accept '|' then (·.1) <$> readSequence fuel false flags []
        else pure .empty
      Reading.expect ')'
      return .choice number p q
    | .named name =>
      let number ← openGroup (some name)
      let p ← readAlternatives fuel false flags
      Reading.expect ')'
      closeGroup number p
      return .keep number p
    | _ =>
      let number ← openGroup none
      let p ← readAlternatives fuel false flags
      Reading.expect ')'
      closeGroup number p
      return .keep number p

/-- A sequence after the items before it, the last one first, and the flags that hold after it. -/
def readSequence : (fuel : Nat) → (top : Bool) → PatternFlags → List Pattern →
    Reading (Pattern × PatternFlags)
  | 0, _, _, _ => Reading.fail
  | fuel + 1, top, flags, items => do
    let goOn (p : Pattern) : Reading (Pattern × PatternFlags) :=
      readSequence fuel top flags (p :: items)
    match ← Reading.rest with
    | [] => return (ofReversed items, flags)
    | '|' :: _ | ')' :: _ => return (ofReversed items, flags)
    | '\\' :: rest =>
      Reading.setRest rest
      goOn (← readEscape flags)
    | '[' :: rest => goOn (← Reading.ofOption (readClass flags rest))
    | '.' :: rest =>
      Reading.setRest rest
      goOn (.oneOf (anyChar flags))
    | '^' :: rest =>
      Reading.setRest rest
      goOn (.anchor (if flags.multiline then .lineStart else .textStart))
    | '$' :: rest =>
      Reading.setRest rest
      goOn (.anchor (if flags.multiline then .lineEnd else .lastLineEnd))
    | '(' :: rest =>
      match ← Reading.ofOption (readGroupStart flags rest) with
      | .comment => readSequence fuel top flags items
      | .wholeFlags flags letters =>
        if top && items.isEmpty then
          modify fun r => { r with letters := letters ++ r.letters }
          readSequence fuel top flags items
        else Reading.fail
      | start => goOn (← Reading.deeper (readGroup fuel flags start))
    | c :: rest =>
      if flags.verbose && isVerboseBlank c then
        Reading.setRest rest
        readSequence fuel top flags items
      else if flags.verbose && c = '#' then
        match afterRemark rest with
        | none => Reading.fail
        | some rest =>
          Reading.setRest rest
          readSequence fuel top flags items
      else
        match ← readCount? with
        | none =>
          Reading.setRest rest
          goOn (charPattern flags c.toNat)
        | some count =>
          match items with
          | [] => Reading.fail
          | item :: before =>
            match count.apply (← readGreed) item with
            | some p => readSequence fuel top flags (p :: before)
            | none => Reading.fail

end

/-- No look behind reaches so far back. -/
def reachBound : Nat := 4294967296

/-- The pattern with the width of each look behind, if all ways to match it have one width. -/
def settle? (groups : Nat → Width) : Pattern → Option Pattern
  | .seq p q => return .seq (← p.settle? groups) (← q.settle? groups)
  | .alt p q => return .alt (← p.settle? groups) (← q.settle? groups)
  | .group p => return .group (← p.settle? groups)
  | .keep number p => return .keep number (← p.settle? groups)
  | .choice number p q => return .choice number (← p.settle? groups) (← q.settle? groups)
  | .first p => return .first (← p.settle? groups)
  | .repeated p least most greed => return .repeated (← p.settle? groups) least most greed
  | .ahead p negated => return .ahead (← p.settle? groups) negated
  | .behind p _ negated => do
    let (least, most) := p.width groups
    guard (most = some least && least < reachBound)
    return .behind (← p.settle? groups) least negated
  | p => some p

def hasRepetition : Pattern → Bool
  | .repeated _ _ _ _ => true
  | .seq p q | .alt p q | .choice _ p q => p.hasRepetition || q.hasRepetition
  | .group p | .keep _ p | .first p | .ahead p _ | .behind p _ _ => p.hasRepetition
  | _ => false

def parse (s : String) : Except ReadingError Pattern := do
  let fuel := 3 * s.length + 3
  let (p, r) ← (readAlternatives fuel true {}).run { rest := s.toList }
  if r.letters.contains 'a' && r.letters.contains 'u' then throw .unusable
  if !r.rest.isEmpty then throw .malformed
  if r.conditions.any (r.groups.length < ·) then throw .malformed
  if r.letters.contains 't' && p.hasRepetition then throw .malformed
  match p.settle? (closedWidth r) with
  | some p => return p.trim
  | none => throw .malformed

end ModulePack.Pattern
