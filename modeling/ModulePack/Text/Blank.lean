/-!
# White space

White space is that of Unicode text together with the four information separators. A text is
trimmed at its start, at its end or at both; `dropTerminator` cuts the end of a statement.
-/

namespace ModulePack.Text

def isBlank (c : Char) : Bool :=
  let n := c.toNat
  (9 ≤ n && n ≤ 13) || (28 ≤ n && n ≤ 32) || n == 0x85 || n == 0xa0 || n == 0x1680 ||
    (0x2000 ≤ n && n ≤ 0x200a) || n == 0x2028 || n == 0x2029 || n == 0x202f || n == 0x205f ||
    n == 0x3000

def dropBlankEnd (cs : List Char) : List Char := (cs.reverse.dropWhile isBlank).reverse

def dropSemicolon (cs : List Char) : List Char :=
  match cs.reverse with
  | ';' :: rest => rest.reverse
  | _ => cs

def trimStart (s : String) : String := String.ofList (s.toList.dropWhile isBlank)

def trimEnd (s : String) : String := String.ofList (dropBlankEnd s.toList)

def trim (s : String) : String := trimEnd (trimStart s)

/-- Cuts the white space that ends a text and then the semicolon before it, if there is one. -/
def dropTerminator (s : String) : String := String.ofList (dropSemicolon (dropBlankEnd s.toList))

@[simp] theorem toList_trimStart (s : String) :
    (trimStart s).toList = s.toList.dropWhile isBlank := String.toList_ofList

@[simp] theorem toList_trimEnd (s : String) : (trimEnd s).toList = dropBlankEnd s.toList :=
  String.toList_ofList

@[simp] theorem toList_dropTerminator (s : String) :
    (dropTerminator s).toList = dropSemicolon (dropBlankEnd s.toList) := String.toList_ofList

@[simp] theorem dropBlankEnd_nil : dropBlankEnd [] = [] := rfl

theorem dropSemicolon_append_semicolon (cs : List Char) : dropSemicolon (cs ++ [';']) = cs := by
  simp [dropSemicolon]

end ModulePack.Text
