import ModulePack.Text.Blank
import ModulePack.Text.Case
import ModulePack.Text.Digit
import ModulePack.Text.Word

/-!
# Classes of characters

A class holds characters, ranges of them and classes that have a letter of their own. When case is
ignored, a character is in a class if its small letter is equal, up to case, to one of the class.
-/

namespace ModulePack

structure PatternFlags where
  ignoreCase : Bool := false
  multiline : Bool := false
  dotAll : Bool := false
  ascii : Bool := false
  verbose : Bool := false
  deriving DecidableEq, Repr, Inhabited

/-- The code of the small letter of a character; without `unicode`, only ASCII has capitals. -/
def PatternFlags.lowerCode (flags : PatternFlags) (n : Nat) : Nat :=
  if flags.ascii then (if 65 ≤ n && n ≤ 90 then n + 32 else n) else Text.lowerCode n

/-- The codes whose small letter is `small` or equal to it up to case. -/
def PatternFlags.codesOf (flags : PatternFlags) (small : Nat) : List Nat :=
  if flags.ascii then
    if 97 ≤ small && small ≤ 122 then [small, small - 32]
    else if 65 ≤ small && small ≤ 90 then []
    else [small]
  else
    (small :: Text.companions small).flatMap fun n =>
      (if Text.lowerCode n = n then [n] else []) ++ Text.capitals n

inductive NamedClass
  | digit
  | blank
  | word
  deriving DecidableEq, Repr

inductive ClassItem
  | char (n : Nat)
  | range (first last : Nat)
  | named (c : NamedClass) (negated : Bool)
  deriving DecidableEq, Repr

structure CharClass where
  items : List ClassItem
  negated : Bool
  flags : PatternFlags
  deriving DecidableEq, Repr

def isAsciiWord (c : Char) : Bool := c.isAlphanum || c == '_'

def NamedClass.contains (ascii : Bool) (c : Char) : NamedClass → Bool
  | .digit => if ascii then '0' ≤ c && c ≤ '9' else Text.isDigit c
  | .blank => if ascii then (9 ≤ c.toNat && c.toNat ≤ 13) || c == ' ' else Text.isBlank c
  | .word => if ascii then isAsciiWord c else Text.isWord c

namespace ClassItem

/-- The last code point of the basic plane; the case of characters beyond it is not looked up. -/
def lastBasic : Nat := 0xffff

def contains (ascii : Bool) (c : Char) : ClassItem → Bool
  | .char n => c.toNat == n
  | .range first last => first ≤ c.toNat && c.toNat ≤ last
  | .named cls negated => cls.contains ascii c != negated

def isCased (flags : PatternFlags) : ClassItem → Bool
  | .char n => lastBasic < n || isCasedRange n n
  | .range first last => lastBasic < last || isCasedRange first last
  | .named _ _ => false
where
  isCasedRange (first last : Nat) : Bool :=
    if flags.ascii then Text.meetsRanges [(65, 90), (97, 122)] first last
    else Text.meetsRanges Text.casedRanges first last

/-- Whether an item holds a small letter or one that is equal to it up to case. A single character
beyond the basic plane stands for itself only. -/
def containsFolded (flags : PatternFlags) (small : Char) : ClassItem → Bool
  | .char n =>
    if lastBasic < n then small.toNat == n else (flags.codesOf small.toNat).contains n
  | .range first last =>
    (flags.codesOf small.toNat).any (fun n => first ≤ n && n ≤ last && n ≤ lastBasic) ||
      (lastBasic < last &&
        (small.toNat :: Text.capitals small.toNat).any fun n => first ≤ n && n ≤ last)
  | item => item.contains flags.ascii small

end ClassItem

namespace CharClass

def holdsFolded (cls : CharClass) (c : Char) : Bool :=
  let small := cls.flags.lowerCode c.toNat
  match cls.items with
  | [.char n] =>
    if (ClassItem.char n).isCased cls.flags then
      small == cls.flags.lowerCode n ||
        (!cls.flags.ascii && (Text.companions small).contains (cls.flags.lowerCode n))
    else c.toNat == n
  | items =>
    if items.any (·.isCased cls.flags) then
      items.any (·.containsFolded cls.flags (Char.ofNat small))
    else items.any (·.contains cls.flags.ascii c)

def contains (cls : CharClass) (c : Char) : Bool :=
  (if cls.flags.ignoreCase then cls.holdsFolded c
    else cls.items.any (·.contains cls.flags.ascii c)) != cls.negated

end CharClass

end ModulePack
