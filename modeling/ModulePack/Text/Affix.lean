/-!
# Starts and ends of texts

What is left of a text when a given start or end is taken away, and texts joined with a separator.
-/

namespace ModulePack.Text

def after? : (start : List Char) → List Char → Option (List Char)
  | [], cs => some cs
  | _ :: _, [] => none
  | p :: ps, c :: cs => if p = c then after? ps cs else none

theorem after?_eq_some_iff {start cs rest : List Char} :
    after? start cs = some rest ↔ cs = start ++ rest := by
  induction start generalizing cs with
  | nil => simp [after?]
  | cons p ps ih =>
    cases cs with
    | nil => simp [after?]
    | cons c cs =>
      by_cases h : p = c
      · subst h
        simp [after?, ih]
      · simp [after?, h, Ne.symm h]

def dropStart? (start s : String) : Option String :=
  (after? start.toList s.toList).map String.ofList

def dropEnd? (tail s : String) : Option String :=
  (after? tail.toList.reverse s.toList.reverse).map fun cs => String.ofList cs.reverse

def startsWith (start s : String) : Bool := (dropStart? start s).isSome

def endsWith (tail s : String) : Bool := (dropEnd? tail s).isSome

def dropStart (start s : String) : String := (dropStart? start s).getD s

def dropEnd (tail s : String) : String := (dropEnd? tail s).getD s

theorem dropStart?_eq_some_iff {start s rest : String} :
    dropStart? start s = some rest ↔ s = start ++ rest := by
  simp only [dropStart?, Option.map_eq_some_iff, after?_eq_some_iff]
  constructor
  · rintro ⟨cs, h, rfl⟩
    exact String.toList_inj.1 (by simp [h])
  · rintro rfl
    exact ⟨rest.toList, by simp, by simp⟩

theorem dropEnd?_eq_some_iff {tail s rest : String} :
    dropEnd? tail s = some rest ↔ s = rest ++ tail := by
  simp only [dropEnd?, Option.map_eq_some_iff, after?_eq_some_iff]
  constructor
  · rintro ⟨cs, h, rfl⟩
    have h' := congrArg List.reverse h
    simp only [List.reverse_reverse, List.reverse_append] at h'
    exact String.toList_inj.1 (by simp [h'])
  · rintro rfl
    exact ⟨rest.toList.reverse, by simp, by simp⟩

theorem endsWith_iff {tail s : String} : endsWith tail s ↔ ∃ rest, s = rest ++ tail := by
  simp only [endsWith, Option.isSome_iff_exists, dropEnd?_eq_some_iff]

theorem endsWith_append_self (s tail : String) : endsWith tail (s ++ tail) :=
  endsWith_iff.2 ⟨s, rfl⟩

def join (separator : String) : List String → String
  | [] => ""
  | [s] => s
  | s :: t :: rest => s ++ separator ++ join separator (t :: rest)

end ModulePack.Text
