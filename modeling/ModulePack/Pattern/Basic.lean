import ModulePack.Pattern.Class

/-!
# Search patterns

A pattern says which parts of a text it matches and in which order the ways to match are tried. A
group may keep the part that it has matched, to which a later part of the pattern can refer.
-/

namespace ModulePack

inductive Anchor
  | textStart
  | textEnd
  /-- The end of the text, or before the line feed that ends it. -/
  | lastLineEnd
  | lineStart
  | lineEnd
  | boundary (negated ascii : Bool)
  deriving DecidableEq, Repr

inductive Greed
  | most
  | least
  /-- As often as it goes, and not otherwise. -/
  | all
  deriving DecidableEq, Repr

inductive Pattern
  | empty
  | oneOf (c : CharClass)
  | anchor (a : Anchor)
  | seq (p q : Pattern)
  | alt (p q : Pattern)
  /-- A group that has flags of its own. -/
  | group (p : Pattern)
  | keep (number : Nat) (p : Pattern)
  /-- What a group has matched before. -/
  | same (number : Nat) (flags : PatternFlags)
  /-- One pattern if a group has matched before, else another. -/
  | choice (number : Nat) (p q : Pattern)
  /-- The first way to match, and no other. -/
  | first (p : Pattern)
  /-- At least `least` times `p`, and at most `most` times if that is given. -/
  | repeated (p : Pattern) (least : Nat) (most : Option Nat) (greed : Greed)
  | ahead (p : Pattern) (negated : Bool)
  /-- What comes before is `width` characters that `p` matches. -/
  | behind (p : Pattern) (width : Nat) (negated : Bool)
  deriving Inhabited

namespace Anchor

def isWordAt (ascii : Bool) (text : Array Char) (i : Nat) : Bool :=
  (text[i]?).any fun c => if ascii then isAsciiWord c else Text.isWord c

/-- Whether the place is before the character `i`. -/
def holds (text : Array Char) (i : Nat) : Anchor → Bool
  | .textStart => i == 0
  | .textEnd => i == text.size
  | .lastLineEnd => i == text.size || (i + 1 == text.size && text[i]? == some '\n')
  | .lineStart => i == 0 || text[i - 1]? == some '\n'
  | .lineEnd => i == text.size || text[i]? == some '\n'
  | .boundary negated ascii =>
    let before := i != 0 && isWordAt ascii text (i - 1)
    text.size != 0 && (before != isWordAt ascii text i) != negated

end Anchor

end ModulePack
