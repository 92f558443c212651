import ModulePack.Text.Blank
import ModulePack.Text.Cluster

/-!
# Lines of the console

Text is broken into lines of at most so many columns, where possible before a word. Tabs lead to
columns that are multiples of eight.
-/

namespace ModulePack.Console

inductive Overflow
  /-- It goes on in the next line. -/
  | fold
  /-- It is cut and gets an ellipsis. -/
  | ellipsis
  deriving DecidableEq, Repr

inductive Alignment
  | none
  | left
  | right
  | center
  deriving DecidableEq, Repr

def tabWidth : Nat := 8

/-- The characters with each tab as blanks, from a column on. A tab is one blank and as many more as
lead to the next column for tabs. -/
def expandParts : (column : Nat) → List (List Char) → List Char
  | _, [] => []
  | _, [last] => last
  | column, part :: rest =>
    let part := part ++ [' ']
    let reached := column + Text.columns part
    let column := (reached + tabWidth - 1) / tabWidth * tabWidth
    part ++ Text.blanks (column - reached) ++ expandParts column rest

def expandTabs (cs : List Char) : List Char := expandParts 0 (cs.splitOn '\t')

/-- The words of a line, each with the white space after it, after one that has begun. White space
at the start belongs to the first word. -/
def gatherWords : (word : List Char) → List Char → List (List Char)
  | word, [] => if word.all Text.isBlank then [] else [word.reverse]
  | word, c :: rest =>
    if !Text.isBlank c && word.any (!Text.isBlank ·) && word.head?.any Text.isBlank then
      word.reverse :: gatherWords [c] rest
    else gatherWords (c :: word) rest

def words (cs : List Char) : List (List Char) := gatherWords [] cs

def pieceStarts : (start : Nat) → List (List Char) → List Nat
  | _, [] => []
  | start, piece :: rest => start :: pieceStarts (start + piece.length) rest

/-- The places before which a line is broken, given the place of the next word and the columns that
the words before it take. No line is broken at its start. -/
def breaks (width : Nat) (overflow : Overflow) :
    (start used : Nat) → List (List Char) → List Nat
  | _, _, [] => []
  | start, used, word :: rest =>
    let next := start + word.length
    let columns := Text.columns (Text.dropBlankEnd word)
    let break? : List Nat := if start = 0 then [] else [start]
    if used + columns ≤ width then
      breaks width overflow next (used + Text.columns word) rest
    else if columns ≤ width then
      if used = 0 then breaks width overflow next used rest
      else break? ++ breaks width overflow next (Text.columns word) rest
    else
      match overflow with
      | .fold =>
        let pieces := Text.chop width word
        (pieceStarts start pieces).filter (· ≠ 0) ++
          breaks width overflow next (Text.columns (pieces.getLast?.getD [])) rest
      | .ellipsis => break? ++ breaks width overflow next (Text.columns word) rest

def splitPlaces : (done : Nat) → List Nat → List Char → List (List Char)
  | _, [], cs => [cs]
  | done, place :: rest, cs =>
    cs.take (place - done) :: splitPlaces place rest (cs.drop (place - done))

/-- The line without white space at its end, as far as it has more characters than columns. -/
def dropExcess (width : Nat) (cs : List Char) : List Char :=
  let ending := cs.length - (Text.dropBlankEnd cs).length
  cs.take (cs.length - min ending (cs.length - width))

def cut (width : Nat) (overflow : Overflow) (cs : List Char) : List Char :=
  if Text.columns cs ≤ width then cs
  else
    match overflow with
    | .fold => Text.fit width cs
    | .ellipsis => Text.fit (width - 1) cs ++ ['…']

def align (width : Nat) (overflow : Overflow) (alignment : Alignment) (cs : List Char) :
    List Char :=
  let cs := match alignment with
    | .none | .left => cut width overflow cs
    | .right | .center => cut width overflow (Text.dropBlankEnd cs)
  let free := width - Text.columns cs
  match alignment with
  | .none => cs
  | .left => cs ++ Text.blanks free
  | .right => Text.blanks free ++ cs
  | .center => Text.blanks (free / 2) ++ cs ++ Text.blanks (free - free / 2)

def wrapLine (width : Nat) (overflow : Overflow) (alignment : Alignment) (cs : List Char) :
    List (List Char) :=
  let cs := expandTabs cs
  (splitPlaces 0 (breaks width overflow 0 0 (words cs)) cs).map fun line =>
    align width overflow alignment (dropExcess width line)

def wrap (width : Nat) (overflow : Overflow) (alignment : Alignment) (cs : List Char) :
    List (List Char) :=
  (cs.splitOn '\n').flatMap (wrapLine width overflow alignment)

end ModulePack.Console
