import Mathlib.Logic.Function.Iterate
import ModulePack.Proofs.Minify.Expression

/-!
# Ends of statements

An end of a statement is white space, or a semicolon with white space behind it. One such end is cut
off a text at a time, so a text that goes on with more semicolons than are cut keeps some of them,
and one with white space before its last semicolon keeps that. An answer of a minifier is cut once
when the expression in it is released, which gives back every expression that does not itself end
like a statement.
-/

namespace ModulePack

namespace Text

variable {s t u v w e : String} {cs ds : List Char}

def AllBlank (s : String) : Prop := ∀ c ∈ s.toList, isBlank c

def Solid (s : String) : Prop := SolidStart s.toList ∧ SolidEnd s.toList

def Closed (s : String) : Prop := ∀ c, s.toList.getLast? = some c → isBlank c = false ∧ c ≠ ';'

/-- Whether a text ends a statement: white space, or a semicolon with white space behind it. -/
def IsTerminator (t : String) : Prop := ∃ w, AllBlank w ∧ (t = w ∨ t = ";" ++ w)

instance (s : String) : Decidable (AllBlank s) := List.decidableBAll _ s.toList

instance (s : String) : Decidable (Closed s) := Option.decidableForallMem s.toList.getLast?

theorem Closed.solidEnd (h : Closed s) : SolidEnd s.toList := fun c hc => (h c hc).1

theorem dropBlankEnd_append_of_blank (h : ∀ c ∈ ds, isBlank c) (cs : List Char) :
    dropBlankEnd (cs ++ ds) = dropBlankEnd cs := by
  induction ds using List.reverseRecOn with
  | nil => rw [List.append_nil]
  | append_singleton ds c ih =>
    rw [List.forall_mem_append, List.forall_mem_singleton] at h
    rw [← List.append_assoc, dropBlankEnd_concat_of_blank h.2, ih h.1]

theorem dropWhile_append_of_blank (h : ∀ c ∈ cs, isBlank c) (ds : List Char) :
    (cs ++ ds).dropWhile isBlank = ds.dropWhile isBlank :=
  List.dropWhile_append_of_pos h

/-- White space around a text that has none at its start and end is what is trimmed. -/
theorem trim_append (hu : AllBlank u) (hs : Solid s) (hw : AllBlank w) :
    trim (u ++ s ++ w) = s := by
  rw [← String.toList_inj, toList_trim, String.toList_append, String.toList_append,
    List.append_assoc, dropWhile_append_of_blank hu]
  rcases hcs : s.toList with _ | ⟨c, cs⟩
  · have hblank : w.toList.dropWhile isBlank = [] := List.dropWhile_eq_nil_iff.2 hw
    rw [List.nil_append, hblank, dropBlankEnd_nil]
  · have hc : isBlank c = false := hs.1 c (by rw [hcs]; rfl)
    have hend : dropBlankEnd (c :: cs) = c :: cs := by
      rw [← hcs]
      exact hs.2.dropBlankEnd_eq
    rw [List.cons_append, List.dropWhile_cons_of_neg (by simp [hc]), ← List.cons_append,
      dropBlankEnd_append_of_blank hw, hend]

theorem exists_dropBlankEnd_append (cs : List Char) :
    ∃ ds, (∀ c ∈ ds, isBlank c) ∧ cs = dropBlankEnd cs ++ ds :=
  ⟨cs.rtakeWhile isBlank, fun _ => List.mem_rtakeWhile_imp,
    List.rdropWhile_append_rtakeWhile.symm⟩

theorem exists_trim_append (s : String) :
    ∃ u w, AllBlank u ∧ AllBlank w ∧ s = u ++ trim s ++ w := by
  obtain ⟨ds, hds, hrest⟩ := exists_dropBlankEnd_append (s.toList.dropWhile isBlank)
  refine ⟨String.ofList (s.toList.takeWhile isBlank), String.ofList ds, ?_, ?_, ?_⟩
  · intro c hc
    rw [String.toList_ofList] at hc
    exact List.mem_takeWhile_imp hc
  · intro c hc
    rw [String.toList_ofList] at hc
    exact hds c hc
  · rw [← String.toList_inj, String.toList_append, String.toList_append, toList_trim,
      String.toList_ofList, String.toList_ofList, List.append_assoc, ← hrest,
      List.takeWhile_append_dropWhile]

theorem solid_trim (s : String) : Solid (trim s) := ⟨solidStart_trim s, solidEnd_trim s⟩

theorem dropTerminator_append_of_blank (h : AllBlank w) (s : String) :
    dropTerminator (s ++ w) = dropTerminator s := by
  rw [← String.toList_inj, toList_dropTerminator, toList_dropTerminator, String.toList_append,
    dropBlankEnd_append_of_blank h]

theorem dropTerminator_append_semicolon (h : AllBlank w) (e : String) :
    dropTerminator (e ++ ";" ++ w) = e := by
  have hsemicolon : (e ++ ";").toList = e.toList ++ [';'] := String.toList_append
  rw [dropTerminator_append_of_blank h, ← String.toList_inj, toList_dropTerminator, hsemicolon,
    (solidEnd_concat rfl e.toList).dropBlankEnd_eq, dropSemicolon_append_semicolon]

theorem dropTerminator_of_closed (h : Closed s) : dropTerminator s = s := by
  rw [← String.toList_inj, toList_dropTerminator, h.solidEnd.dropBlankEnd_eq]
  rcases dropSemicolon_cases s.toList with hsemicolon | ⟨-, hsame⟩
  · have hlast : s.toList.getLast? = some ';' := by rw [hsemicolon, List.getLast?_concat]
    exact absurd rfl (h ';' hlast).2
  · exact hsame

/-- What is cut off a text: a semicolon and the white space behind it, or the white space at its end
if no semicolon stands before that. -/
theorem dropTerminator_cases (s : String) :
    ∃ w, AllBlank w ∧ (s = dropTerminator s ++ ";" ++ w ∨
      s = dropTerminator s ++ w ∧ Closed (dropTerminator s)) := by
  obtain ⟨ds, hds, hs⟩ := exists_dropBlankEnd_append s.toList
  refine ⟨String.ofList ds, fun c hc => hds c (by rwa [String.toList_ofList] at hc), ?_⟩
  rcases dropSemicolon_cases (dropBlankEnd s.toList) with hcut | ⟨hlast, hkept⟩
  · left
    have hsemicolon : (dropTerminator s ++ ";").toList = dropBlankEnd s.toList := by
      rw [hcut, String.toList_append, toList_dropTerminator]
      rfl
    rw [← String.toList_inj, String.toList_append, hsemicolon, String.toList_ofList, ← hs]
  · right
    refine ⟨?_, fun c hc => ?_⟩
    · rw [← String.toList_inj, String.toList_append, toList_dropTerminator, String.toList_ofList,
        hkept, ← hs]
    · rw [toList_dropTerminator, hkept] at hc
      refine ⟨solidEnd_dropBlankEnd s.toList c hc, ?_⟩
      rintro rfl
      exact hlast hc

/-- Whether a text is a closed one with some number of ends of statements behind it. -/
inductive ClosedBut : Nat → String → Prop
  | closed {s : String} (h : Closed s) : ClosedBut 0 s
  | append {n : Nat} {s t : String} (h : ClosedBut n s) (ht : IsTerminator t) :
      ClosedBut (n + 1) (s ++ t)

/-- As many ends of statements are cut off as there are cuts, each of them one piece. -/
theorem closed_iterate_dropTerminator_iff {n : Nat} :
    Closed (dropTerminator^[n] s) ↔ ClosedBut n s := by
  induction n generalizing s with
  | zero =>
    constructor
    · exact .closed
    · intro hs
      cases hs with
      | closed h => exact h
  | succ n ih =>
    constructor
    · intro h
      rw [Function.iterate_succ_apply, ih] at h
      obtain ⟨w, hw, hs | ⟨hs, -⟩⟩ := dropTerminator_cases s
      · rw [hs, String.append_assoc]
        exact h.append ⟨w, hw, .inr rfl⟩
      · rw [hs]
        exact h.append ⟨w, hw, .inl rfl⟩
    · intro hs
      cases hs with
      | append h ht =>
        have hclosed := ih.2 h
        rw [Function.iterate_succ_apply]
        obtain ⟨w, hw, rfl | rfl⟩ := ht
        · -- White space alone is cut together with what stands before it.
          rw [dropTerminator_append_of_blank hw, ← Function.iterate_succ_apply,
            Function.iterate_succ_apply', dropTerminator_of_closed hclosed]
          exact hclosed
        · rw [← String.append_assoc, dropTerminator_append_semicolon hw]
          exact hclosed

end Text

open Text

/-- What a program holds, or the program itself if it is none that holds an expression. -/
def heldIn (answer : String) : String := trim (dropStart expressionHolder (trim answer))

theorem releaseExpression_eq (answer : String) :
    releaseExpression answer = dropTerminator (heldIn answer) := rfl

variable {u v w e : String}

theorem heldIn_append {held : String} (hu : AllBlank u) (hv : AllBlank v) (hw : AllBlank w)
    (hheld : Solid held) (hne : held ≠ "") :
    heldIn (u ++ expressionHolder ++ v ++ held ++ w) = held := by
  have hcs : held.toList ≠ [] := fun h => hne (String.toList_inj.1 h)
  have hprogram : Solid (expressionHolder ++ (v ++ held)) := by
    refine ⟨?_, ?_⟩
    · have hholder : expressionHolder.toList = 'v' :: "ar __tsbundle_expr=".toList := rfl
      rw [String.toList_append, hholder, List.cons_append]
      exact solidStart_cons rfl _
    · intro c hc
      rw [String.toList_append, String.toList_append, ← List.append_assoc,
        List.getLast?_append_of_ne_nil _ hcs] at hc
      exact hheld.2 c hc
  have htrim :
      trim (u ++ expressionHolder ++ v ++ held ++ w) = expressionHolder ++ (v ++ held) := by
    rw [← trim_append hu hprogram hw]
    simp only [String.append_assoc]
  have hblank : AllBlank "" := fun _ hc => absurd hc List.not_mem_nil
  rw [heldIn, htrim, dropStart, dropStart?_eq_some_iff.2 rfl, Option.getD_some]
  have h := trim_append hv hheld hblank
  rwa [String.append_empty] at h

/-- Every expression that is closed and does not start with white space is released from a program
that holds it, with a semicolon behind it or without, and with any white space in between. -/
theorem releaseExpression_append (hu : AllBlank u) (hv : AllBlank v) (hw : AllBlank w)
    (hstart : SolidStart e.toList) (hend : Closed e) (hne : e ≠ "") :
    releaseExpression (u ++ expressionHolder ++ v ++ e ++ w) = e ∧
      releaseExpression (u ++ expressionHolder ++ v ++ (e ++ ";") ++ w) = e := by
  have hblank : AllBlank "" := fun _ hc => absurd hc List.not_mem_nil
  have hsemicolon : (e ++ ";").toList = e.toList ++ [';'] := String.toList_append
  refine ⟨?_, ?_⟩
  · rw [releaseExpression_eq, heldIn_append hu hv hw ⟨hstart, hend.solidEnd⟩ hne,
      dropTerminator_of_closed hend]
  · have hheld : Solid (e ++ ";") := by
      rw [Solid, hsemicolon]
      exact ⟨hstart.append (solidStart_cons rfl []), solidEnd_concat rfl _⟩
    have hheldne : e ++ ";" ≠ "" := by
      intro h
      rw [← String.toList_inj, hsemicolon] at h
      exact List.concat_ne_nil _ _ h
    rw [releaseExpression_eq, heldIn_append hu hv hw hheld hheldne]
    have h := dropTerminator_append_semicolon hblank e
    rwa [String.append_empty] at h

end ModulePack
