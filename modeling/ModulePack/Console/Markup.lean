import ModulePack.Console.Argument
import ModulePack.Console.Emoji
import ModulePack.Console.Style
import ModulePack.Console.Wrap

/-!
# Console markup

Text for the console may hold tags between brackets, which change how the text after them looks. A
tag begins with a small letter or with one of `#`, `/` and `@`, and may have parameters after an
equals sign. A slash closes the last tag of a style, or the last tag of any style, and all tags that
are left open end with the text. An odd number of backslashes before a bracket keeps a tag as text.
-/

namespace ModulePack.Console

inductive MarkupError
  /-- A closing tag has nothing to close, or the argument of an action is no literal. -/
  | malformed
  /-- A part of a mixed colour is no number. -/
  | badColor
  deriving DecidableEq, Repr

inductive Token
  | text (cs : List Char)
  | tag (name : List Char) (parameters : Option (List Char))
  deriving DecidableEq, Repr

def isTagStart (c : Char) : Bool :=
  ('a' ≤ c && c ≤ 'z') || c == '#' || c == '/' || c == '@'

def tagBody? (cs : List Char) : Option (List Char × List Char) :=
  match cs with
  | [] => none
  | c :: _ =>
    if isTagStart c then
      let body := cs.takeWhile fun c => c != '[' && c != ']'
      match cs.dropWhile fun c => c != '[' && c != ']' with
      | ']' :: rest => some (body, rest)
      | _ => none
    else none

def tagToken (body : List Char) : Token :=
  match body.dropWhile (· != '=') with
  | [] => .tag body none
  | _ :: parameters => .tag (body.takeWhile (· != '=')) (some parameters)

def textToken (cs : List Char) : List Token := if cs.isEmpty then [] else [.text cs]

/-- The text before a tag, last character first, without the backslashes that end it. -/
def dropSlashes (before : List Char) : List Char := before.dropWhile (· == '\\')

/-- The tokens of a text after the characters before it, the last one first. -/
def tokens : (fuel : Nat) → (before : List Char) → List Char → List Token
  | 0, before, cs => textToken (before.reverse ++ cs)
  | fuel + 1, before, cs =>
    match cs with
    | [] => textToken before.reverse
    | c :: rest =>
      if c = '[' then
        match tagBody? rest with
        | none => tokens fuel (c :: before) rest
        | some (body, rest) =>
          let slashes := (before.takeWhile (· == '\\')).length
          textToken (dropSlashes before).reverse ++
            textToken (List.replicate (slashes / 2) '\\') ++
            (if slashes % 2 = 1 then [.text ('[' :: body ++ [']'])] else [tagToken body]) ++
            tokens fuel [] rest
      else tokens fuel (c :: before) rest

/-- A bracket after a backslash that is no tag stands for itself. -/
def unescapeBrackets : List Char → List Char
  | '\\' :: '[' :: rest => '[' :: unescapeBrackets rest
  | c :: rest => c :: unescapeBrackets rest
  | [] => []

def isControl (c : Char) : Bool := c.toNat ∈ [7, 8, 11, 12, 13]

def shown (cs : List Char) : List Char :=
  (Emoji.replace (unescapeBrackets cs)).filter (!isControl ·)

structure OpenTag where
  name : String
  parameters : Option (List Char)
  start : Nat

namespace OpenTag

def isAction (t : OpenTag) : Bool := Text.startsWith "@" t.name

def style (t : OpenTag) : String :=
  match t.parameters with
  | none => t.name
  | some parameters => t.name ++ " " ++ String.ofList parameters

end OpenTag

structure Span where
  start : Nat
  stop : Nat
  style : String
  deriving DecidableEq, Repr

structure Styled where
  chars : List Char := []
  spans : List Span := []
  deriving DecidableEq, Repr

/-- A text that is being put together. The last character, tag and span stand first. -/
structure Draft where
  chars : List Char := []
  length : Nat := 0
  opened : List OpenTag := []
  spans : List Span := []

namespace Draft

def append (d : Draft) (cs : List Char) : Draft :=
  { d with chars := cs.reverse ++ d.chars, length := d.length + cs.length }

def normalize (name : List Char) : Except MarkupError String :=
  match Style.normalize (String.ofList name) with
  | .ok name => .ok name
  | .error _ => .error .badColor

def openTag (d : Draft) (name : List Char) (parameters : Option (List Char)) :
    Except MarkupError Draft := do
  return { d with opened := ⟨← normalize name, parameters, d.length⟩ :: d.opened }

/-- Ends a tag here. The argument of an action has to be one. -/
def finishTag (d : Draft) (tag : OpenTag) : Except MarkupError Draft :=
  if tag.isAction then
    if (tag.parameters.getD []).isEmpty || Argument.isArgument (tag.parameters.getD []) then .ok d
    else .error .malformed
  else .ok { d with spans := ⟨tag.start, d.length, tag.style⟩ :: d.spans }

/-- Ends the last tag of a style, or the last tag if no style is named. -/
def closeTag (d : Draft) (name : List Char) : Except MarkupError Draft :=
  match Text.dropBlankEnd (name.dropWhile Text.isBlank) with
  | [] =>
    match d.opened with
    | [] => .error .malformed
    | tag :: rest => finishTag { d with opened := rest } tag
  | name => do
    let style ← normalize name
    match d.opened.find? (·.name == style) with
    | none => throw .malformed
    | some tag => finishTag { d with opened := d.opened.eraseP (·.name == style) } tag

def add (d : Draft) : Token → Except MarkupError Draft
  | .text cs => .ok (d.append (shown cs))
  | .tag ('/' :: name) _ => d.closeTag name
  | .tag name parameters => d.openTag name parameters

def finish (d : Draft) : Styled :=
  ⟨d.chars.reverse, d.spans ++ d.opened.map fun tag => ⟨tag.start, d.length, tag.style⟩⟩

end Draft

def readMarkup (s : String) : Except MarkupError Styled := do
  let draft ← (tokens (s.length + 1) [] s.toList).foldlM Draft.add {}
  return draft.finish

namespace Styled

/-- Whether a part of the text is shown in its style on lines of so many columns. An empty part is
lost where the text is broken into lines, gets blanks for tabs or is cut before it. -/
def isLive (t : Styled) (width : Nat) (overflow : Overflow) (s : Span) : Bool :=
  ((t.chars.drop s.start).take (s.stop - s.start)).any (· != '\n') ||
    (t.chars.all (fun c => c != '\n' && c != '\t') &&
      (breaks width overflow 0 0 (words t.chars)).isEmpty &&
      (Text.columns t.chars ≤ width || s.start < (cut width overflow t.chars).length))

def checked (t : Styled) (width : Nat) (overflow : Overflow) : Except MarkupError Styled :=
  if t.spans.any fun s =>
      Style.parse s.style matches .error .notANumber && t.isLive width overflow s then
    .error .badColor
  else .ok t

/-- The places in a stretch of the text, from its start on, at which a style begins or ends, in
ascending order. -/
def cuts (t : Styled) (start length : Nat) : List Nat :=
  (t.spans.flatMap fun s =>
    let first := max s.start start
    let last := min s.stop (start + length)
    if first < last || (s.start = s.stop && length = t.chars.length) then
      [first - start, last - start]
    else []).mergeSort

end Styled

def consoleWidth : Nat := 10000

def printed (s : String) : Except MarkupError String := do
  let text ← (← readMarkup s).checked consoleWidth .fold
  return String.join ((wrap consoleWidth .fold .none text.chars).map fun line =>
    String.ofList line ++ "\n")

end ModulePack.Console
