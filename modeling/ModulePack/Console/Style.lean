import ModulePack.Console.Color
import ModulePack.Text.Affix
import ModulePack.Text.Blank

/-!
# Styles

A style is a list of words: looks that are on, looks that are off after `not`, a colour, a colour of
the background after `on`, and the target of a link. Two descriptions of one style have one text.
-/

namespace ModulePack.Console

structure Style where
  looks : Dictionary Bool := []
  color : Option String := none
  background : Option String := none
  link : Option String := none
  deriving DecidableEq, Repr, Inhabited

namespace Style

/-- The looks in the order in which a style names them. -/
def lookNames : List String :=
  ["bold", "dim", "italic", "underline", "blink", "blink2", "reverse", "conceal", "strike",
    "underline2", "frame", "encircle", "overline"]

def shortNames : List (String × String) :=
  [("b", "bold"), ("d", "dim"), ("i", "italic"), ("u", "underline"), ("r", "reverse"),
    ("c", "conceal"), ("s", "strike"), ("uu", "underline2"), ("o", "overline")]

def look? (word : String) : Option String :=
  if word ∈ lookNames then some word else shortNames.lookup word

def addWords : Style → List (List Char) → Except ColorError Style
  | s, [] => .ok s
  | s, written :: rest => do
    let word := String.ofList (Text.lowerChars written)
    if word = "on" then
      match rest with
      | [] => throw .unknown
      | color :: rest => addWords { s with background := some (← Color.name color) } rest
    else if word = "not" then
      match rest with
      | [] => throw .unknown
      | next :: rest =>
        match look? (String.ofList next) with
        | some look => addWords { s with looks := s.looks.insert look false } rest
        | none => throw .unknown
    else if word = "link" then
      match rest with
      | [] => throw .unknown
      | target :: rest => addWords { s with link := some (String.ofList target) } rest
    else
      match look? word with
      | some look => addWords { s with looks := s.looks.insert look true } rest
      | none => addWords { s with color := some (← Color.name word.toList) } rest

def splitWords (cs : List Char) : List (List Char) :=
  (cs.splitOnP Text.isBlank).filter (!·.isEmpty)

def parse (s : String) : Except ColorError Style :=
  if Text.trim s = "none" then .ok {} else addWords {} (splitWords s.toList)

def text (s : Style) : String :=
  let looks := lookNames.filterMap fun name =>
    (s.looks.find? name).map fun on => if on then name else "not " ++ name
  let words := looks ++ s.color.toList ++ (s.background.map ("on " ++ ·)).toList ++
    (s.link.map ("link " ++ ·)).toList
  if words.isEmpty then "none" else Text.join " " words

/-- The one text of all descriptions of a style; a text that describes none is only put into small
letters. -/
def normalize (s : String) : Except ColorError String :=
  match parse s with
  | .ok style => .ok style.text
  | .error .unknown => .ok (Text.lowerText (Text.trim s))
  | .error .notANumber => .error .notANumber

end Style

end ModulePack.Console
