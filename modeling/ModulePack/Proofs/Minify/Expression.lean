import Mathlib.Data.List.DropRight
import ModulePack.Loader
import ModulePack.Minify.Basic

/-!
# Expressions that are held and released

An expression is sent to a minifier in the initialiser of a variable. What is released from a
program that was not changed is the expression without the white space around it and without one
semicolon behind it, whatever the expression is: empty, with more semicolons or with white space
before them.
-/

namespace ModulePack

namespace Text

variable {cs ds : List Char} {s : String}

def SolidStart (cs : List Char) : Prop := ∀ c, cs.head? = some c → isBlank c = false

def SolidEnd (cs : List Char) : Prop := ∀ c, cs.getLast? = some c → isBlank c = false

theorem solidEnd_iff_reverse : SolidEnd cs ↔ SolidStart cs.reverse := by
  rw [SolidEnd, SolidStart, List.head?_reverse]

theorem SolidStart.of_isPrefix (h : SolidStart ds) (hcs : cs <+: ds) : SolidStart cs := by
  obtain ⟨rest, rfl⟩ := hcs
  intro c hc
  refine h c ?_
  rw [List.head?_append, hc, Option.some_or]

theorem SolidStart.append (h : SolidStart cs) (h' : SolidStart ds) : SolidStart (cs ++ ds) := by
  intro c hc
  rw [List.head?_append] at hc
  cases hcs : cs.head? with
  | none =>
    rw [hcs, Option.none_or] at hc
    exact h' c hc
  | some d =>
    rw [hcs, Option.some_or] at hc
    exact h c (hcs.trans hc)

theorem solidStart_cons {c : Char} (h : isBlank c = false) (cs : List Char) :
    SolidStart (c :: cs) := by
  intro d hd
  rwa [← Option.some.inj hd]

theorem solidEnd_concat {c : Char} (h : isBlank c = false) (cs : List Char) :
    SolidEnd (cs ++ [c]) := by
  intro d hd
  rw [List.getLast?_concat] at hd
  rwa [← Option.some.inj hd]

theorem SolidStart.dropWhile_eq (h : SolidStart cs) : cs.dropWhile isBlank = cs := by
  cases cs with
  | nil => rfl
  | cons c cs =>
    have hc : isBlank c = false := h c rfl
    exact List.dropWhile_cons_of_neg (by simp [hc])

theorem solidStart_dropWhile (cs : List Char) : SolidStart (cs.dropWhile isBlank) := by
  intro c hc
  have hnot := List.head?_dropWhile_not isBlank cs
  rwa [hc] at hnot

theorem SolidEnd.dropBlankEnd_eq (h : SolidEnd cs) : dropBlankEnd cs = cs := by
  rw [dropBlankEnd, (solidEnd_iff_reverse.1 h).dropWhile_eq, List.reverse_reverse]

theorem solidEnd_dropBlankEnd (cs : List Char) : SolidEnd (dropBlankEnd cs) := by
  rw [solidEnd_iff_reverse, dropBlankEnd, List.reverse_reverse]
  exact solidStart_dropWhile cs.reverse

theorem dropBlankEnd_concat_of_blank {c : Char} (h : isBlank c) (cs : List Char) :
    dropBlankEnd (cs ++ [c]) = dropBlankEnd cs :=
  List.rdropWhile_concat_pos isBlank cs c h

theorem dropBlankEnd_isPrefix (cs : List Char) : dropBlankEnd cs <+: cs :=
  cs.rdropWhile_prefix isBlank

theorem toList_trim (s : String) : (trim s).toList = dropBlankEnd (s.toList.dropWhile isBlank) := by
  rw [trim, toList_trimEnd, toList_trimStart]

theorem solidStart_trim (s : String) : SolidStart (trim s).toList := by
  rw [toList_trim]
  exact (solidStart_dropWhile s.toList).of_isPrefix (dropBlankEnd_isPrefix _)

theorem solidEnd_trim (s : String) : SolidEnd (trim s).toList := by
  rw [toList_trim]
  exact solidEnd_dropBlankEnd _

theorem trim_eq_self_iff : trim s = s ↔ SolidStart s.toList ∧ SolidEnd s.toList := by
  constructor
  · intro h
    rw [← h]
    exact ⟨solidStart_trim s, solidEnd_trim s⟩
  · rintro ⟨hstart, hend⟩
    rw [← String.toList_inj, toList_trim, hstart.dropWhile_eq, hend.dropBlankEnd_eq]

theorem dropSemicolon_concat_of_ne {c : Char} (h : c ≠ ';') (cs : List Char) :
    dropSemicolon (cs ++ [c]) = cs ++ [c] := by
  rw [dropSemicolon, List.reverse_append, List.reverse_singleton, List.singleton_append]
  split
  · next hsemicolon => exact absurd (List.cons.inj hsemicolon).1 h
  · rfl

/-- A text ends with a semicolon that is dropped, or nothing is dropped. -/
theorem dropSemicolon_cases (cs : List Char) :
    cs = dropSemicolon cs ++ [';'] ∨ cs.getLast? ≠ some ';' ∧ dropSemicolon cs = cs := by
  rcases List.eq_nil_or_concat' cs with rfl | ⟨first, last, rfl⟩
  · exact .inr ⟨by simp, rfl⟩
  · by_cases h : last = ';'
    · subst h
      rw [dropSemicolon_append_semicolon]
      exact .inl rfl
    · exact .inr ⟨by simpa using h, dropSemicolon_concat_of_ne h first⟩

theorem dropSemicolon_isPrefix (cs : List Char) : dropSemicolon cs <+: cs := by
  rcases dropSemicolon_cases cs with h | ⟨-, h⟩
  · exact ⟨[';'], h.symm⟩
  · exact ⟨[], by rw [List.append_nil, h]⟩

theorem toList_dropEnd_semicolon (s : String) :
    (dropEnd ";" s).toList = dropSemicolon s.toList := by
  have hends (rest : String) : dropEnd? ";" s = some rest ↔ s.toList = rest.toList ++ [';'] := by
    rw [dropEnd?_eq_some_iff, ← String.toList_inj, String.toList_append]
    rfl
  rcases dropSemicolon_cases s.toList with h | ⟨hlast, h⟩
  · have hrest := (hends (String.ofList (dropSemicolon s.toList))).2 (by simpa using h)
    rw [dropEnd, hrest, Option.getD_some, String.toList_ofList]
  · have hnone : dropEnd? ";" s = none := by
      refine Option.eq_none_iff_forall_ne_some.2 fun rest hrest => hlast ?_
      rw [(hends rest).1 hrest, List.getLast?_concat]
    rw [dropEnd, hnone, Option.getD_none, h]

end Text

/-- A code without the white space around it and, if it then ends with a semicolon, without that
one. -/
def bareExpression (code : String) : String := Text.dropEnd ";" (Text.trim code)

open Text

theorem toList_bareExpression (code : String) :
    (bareExpression code).toList = dropSemicolon (trim code).toList :=
  toList_dropEnd_semicolon _

theorem solidStart_bareExpression (code : String) : SolidStart (bareExpression code).toList := by
  rw [toList_bareExpression]
  exact (solidStart_trim code).of_isPrefix (dropSemicolon_isPrefix _)

theorem holdExpression_eq (code : String) :
    holdExpression code = expressionHolder ++ (bareExpression code ++ ";") := by
  have hbare : dropTerminator (trim code) = bareExpression code := by
    rw [← String.toList_inj, toList_dropTerminator, (solidEnd_trim code).dropBlankEnd_eq,
      toList_bareExpression]
  rw [holdExpression, hbare, String.append_assoc]

/-- What is held is released again, whatever the code is. -/
theorem releaseExpression_holdExpression (code : String) :
    releaseExpression (holdExpression code) = bareExpression code := by
  have hsemicolon : SolidStart ";".toList := solidStart_cons rfl []
  have hholder : SolidStart expressionHolder.toList := solidStart_cons rfl _
  have hstart : SolidStart (bareExpression code ++ ";").toList := by
    rw [String.toList_append]
    exact (solidStart_bareExpression code).append hsemicolon
  -- The semicolon of the program keeps white space that stands before it.
  have hend (s : String) : SolidEnd (s ++ ";").toList := by
    rw [String.toList_append]
    exact solidEnd_concat rfl s.toList
  have htrim : trim (holdExpression code) = holdExpression code := by
    rw [trim_eq_self_iff, holdExpression_eq]
    refine ⟨?_, ?_⟩
    · rw [String.toList_append]
      exact hholder.append hstart
    · rw [← String.append_assoc]
      exact hend _
  have hdrop : dropStart expressionHolder (holdExpression code) = bareExpression code ++ ";" := by
    rw [holdExpression_eq, dropStart, dropStart?_eq_some_iff.2 rfl, Option.getD_some]
  rw [releaseExpression, htrim, hdrop, trim_eq_self_iff.2 ⟨hstart, hend _⟩, ← String.toList_inj,
    toList_dropTerminator, (hend _).dropBlankEnd_eq, String.toList_append]
  exact dropSemicolon_append_semicolon _

theorem bareExpression_eq_self_of_trim_eq {code : String} (htrim : trim code = code)
    (hend : endsWith ";" code = false) : bareExpression code = code := by
  rw [endsWith, Option.isSome_eq_false_iff, Option.isNone_iff_eq_none] at hend
  rw [bareExpression, htrim, dropEnd, hend, Option.getD_none]

theorem bareExpression_eq_self {code : String} (hstart : SolidStart code.toList)
    (hend : SolidEnd code.toList) (hlast : code.toList.getLast? ≠ some ';') :
    bareExpression code = code := by
  rw [← String.toList_inj, toList_bareExpression, trim_eq_self_iff.2 ⟨hstart, hend⟩]
  rcases dropSemicolon_cases code.toList with h | ⟨-, h⟩
  · rw [h, List.getLast?_concat] at hlast
    exact absurd rfl hlast
  · exact h

/-- A code without white space before it and semicolon behind it ends the same way when it is
released from a program. -/
theorem dropTerminator_bareExpression {code : String} (hstart : SolidStart code.toList)
    (hlast : (dropBlankEnd code.toList).getLast? ≠ some ';') :
    dropTerminator (bareExpression code) = dropTerminator code := by
  have htrim : (trim code).toList = dropBlankEnd code.toList := by
    rw [toList_trim, hstart.dropWhile_eq]
  have hkept : dropSemicolon (dropBlankEnd code.toList) = dropBlankEnd code.toList := by
    rcases dropSemicolon_cases (dropBlankEnd code.toList) with h | ⟨-, h⟩
    · rw [h, List.getLast?_concat] at hlast
      exact absurd rfl hlast
    · exact h
  have hend := (solidEnd_dropBlankEnd code.toList).dropBlankEnd_eq
  rw [← String.toList_inj, toList_dropTerminator, toList_dropTerminator, toList_bareExpression,
    htrim, hkept, hend, hkept]

theorem join_concat (separator line last : String) (lines : List String) :
    join separator (line :: lines ++ [last]) =
      join separator (line :: lines) ++ separator ++ last := by
  induction lines generalizing line with
  | nil => rfl
  | cons next lines ih =>
    have hrest := ih next
    rw [List.cons_append] at hrest
    rw [List.cons_append, List.cons_append, join, hrest, join]
    simp only [String.append_assoc]

theorem exists_join_eq (separator line : String) (lines : List String) :
    ∃ rest, join separator (line :: lines) = line ++ rest := by
  cases lines with
  | nil => exact ⟨"", by rw [join, String.append_empty]⟩
  | cons next lines => exact ⟨_, by rw [join, String.append_assoc]⟩

/-- The loader is a function, and a line end stands behind it. -/
theorem exists_loader_eq :
    ∃ inner, Loader.code = "function(defs, params, evalCode)\x7b" ++ inner ++ "\x7d" ++ "\n" := by
  obtain ⟨first, middle, hfirst, hlines⟩ : ∃ first middle,
      first = "function(defs, params, evalCode)\x7b" ∧
        Loader.lines = first :: middle ++ ["\x7d"] ++ [""] :=
    ⟨_, Loader.lines.tail.dropLast.dropLast, rfl, rfl⟩
  obtain ⟨inner, hinner⟩ := exists_join_eq "\n" first middle
  refine ⟨inner ++ "\n", ?_⟩
  rw [Loader.code, hlines, List.cons_append, join_concat, ← List.cons_append, join_concat, hinner,
    hfirst]
  simp only [String.append_assoc, String.append_empty]

theorem dropTerminator_bareExpression_loader :
    dropTerminator (bareExpression Loader.code) = dropTerminator Loader.code := by
  obtain ⟨inner, hcode⟩ := exists_loader_eq
  have hstart : SolidStart Loader.code.toList := by
    rw [hcode, String.append_assoc, String.append_assoc, String.toList_append]
    exact solidStart_cons rfl _
  have hbrace (s : String) : (s ++ "\x7d").toList = s.toList ++ ['\x7d'] := String.toList_append
  have hline (s : String) : (s ++ "\n").toList = s.toList ++ ['\n'] := String.toList_append
  have hlast : (dropBlankEnd Loader.code.toList).getLast? = some '\x7d' := by
    rw [hcode, hline, dropBlankEnd_concat_of_blank rfl, hbrace,
      (solidEnd_concat rfl _).dropBlankEnd_eq, List.getLast?_concat]
  refine dropTerminator_bareExpression hstart ?_
  rw [hlast]
  decide

end ModulePack
