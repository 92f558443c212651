import ModulePack.Proofs.Assembly.Emitted
import ModulePack.Proofs.Minify.Terminator

/-!
# Expressions that are minified, and what stands before the array

A code is sent to the minifier bare, without the white space around it and without one semicolon at
its end, and it is sent once. What the answer holds is taken out of it whole, whatever is in it, as
long as it does not itself end like a statement. The loader is one of these codes: it stands in
brackets before the array without the end of its statement. One end is cut off the loader as it is
given and two off a minified one, so the text of a loader with more of them is not closed.
-/

namespace ModulePack

open Text

/-- Whether something is what is sent of a code: the code without the white space around it and, if
a semicolon then ends it, without that one. -/
def IsBareOf (core code : String) : Prop :=
  ∃ u trimmed w, code = u ++ trimmed ++ w ∧ AllBlank u ∧ AllBlank w ∧ Solid trimmed ∧
    (trimmed = core ++ ";" ∨ trimmed = core ∧ endsWith ";" core = false)

theorem isBareOf_bareExpression (code : String) : IsBareOf (bareExpression code) code := by
  obtain ⟨u, w, hu, hw, hcode⟩ := exists_trim_append code
  refine ⟨u, trim code, w, hcode, hu, hw, solid_trim code, ?_⟩
  rw [bareExpression, dropEnd]
  cases hrest : dropEnd? ";" (trim code) with
  | some rest => exact .inl (dropEnd?_eq_some_iff.1 hrest)
  | none => exact .inr ⟨rfl, by rw [Option.getD_none, endsWith, hrest, Option.isSome_none]⟩

/-- Behind the loader stands a line end only. -/
theorem closedBut_loader : ClosedBut 1 Loader.code := by
  obtain ⟨inner, hcode⟩ := exists_loader_eq
  rw [hcode]
  refine .append (.closed fun c hc => ?_) ⟨"\n", by decide, .inl rfl⟩
  have hbrace (s : String) : (s ++ "\x7d").toList = s.toList ++ ['\x7d'] := String.toList_append
  rw [hbrace, List.getLast?_concat] at hc
  cases hc
  decide

namespace Assembler

open Build

/-- A code is sent to the minifier once, bare and in its holder. An expression that is not empty,
does not start with white space and is closed comes out of each program that holds it, with
semicolon or without and with any white space between the parts. -/
theorem minifyExpression_releases (a : Assembler) (s : BuildState) (code label : String)
    (target : Value) :
    ∃ core, IsBareOf core code ∧
      ((a.minifyExpression code label target).outcome s).2 =
        { s with calls := ⟨label, target, expressionHolder ++ core ++ ";"⟩ :: s.calls } ∧
      (∀ e, a.minifier s.calls ⟨label, target, expressionHolder ++ core ++ ";"⟩ = .error e →
        ((a.minifyExpression code label target).outcome s).1 = .error (.minify e)) ∧
      ∀ u v w e, AllBlank u → AllBlank v → AllBlank w → e ≠ "" → SolidStart e.toList → Closed e →
        ∀ held ∈ [e, e ++ ";"],
          a.minifier s.calls ⟨label, target, expressionHolder ++ core ++ ";"⟩ =
            .ok (u ++ expressionHolder ++ v ++ held ++ w) →
          ((a.minifyExpression code label target).outcome s).1 = .ok e := by
  refine ⟨bareExpression code, isBareOf_bareExpression code, ?_⟩
  rw [outcome_minifyExpression, holdExpression_eq, ← String.append_assoc]
  refine ⟨rfl, ?_, ?_⟩
  · intro e he
    rw [he]
    rfl
  · intro u v w e hu hv hw hne hstart hend held hheld hanswer
    have hreleased : releaseExpression (u ++ expressionHolder ++ v ++ held ++ w) = e := by
      obtain ⟨hplain, hended⟩ := releaseExpression_append hu hv hw hstart hend hne
      rcases List.mem_cons.1 hheld with rfl | hheld
      · exact hplain
      · rwa [List.mem_singleton.1 hheld]
    rw [hanswer, Except.map, Except.mapError, hreleased]

/-- A minifier that answers with the same program each time, in which the holder occurs twice. -/
def spreading : Assembler :=
  { circleAssembler with
    minifier := .ofFunction fun _ =>
      .ok ("\n" ++ expressionHolder ++ " " ++ "f;\nvar __tsbundle_expr=g(;)" ++ ";" ++ "\t") }

theorem minifyExpression_releases_spreading :
    (spreading.minifyExpression " \tx ;\n" "/a" .null).outcome circleState =
      (.ok "f;\nvar __tsbundle_expr=g(;)",
        { circleState with calls := [⟨"/a", .null, "var __tsbundle_expr=x ;"⟩] }) := by
  obtain ⟨core, -, -, -, hreleases⟩ :=
    minifyExpression_releases spreading circleState " \tx ;\n" "/a" .null
  have hresult := hreleases "\n" " " "\t" "f;\nvar __tsbundle_expr=g(;)" (by decide) (by decide)
    (by decide) (by decide) (solidStart_cons rfl _) (by decide) _
    (List.mem_cons_of_mem _ (List.mem_singleton_self _)) rfl
  exact Prod.ext hresult rfl

/-- How the text before the array ends hangs on how many ends of statements stand behind the loader.
One of them is cut off the loader as it is given and off one that is kept, and two off the answer
about it; with more of them, a semicolon or white space is left before the bracket. -/
theorem opening_closed_iff (a : Assembler) (s : BuildState) :
    (a.config.minify.isTruthy = false →
      ∃ e w, a.opening.outcome s = (.ok ("(" ++ e ++ ")("), s) ∧ AllBlank w ∧
        (a.loaderCode = e ++ ";" ++ w ∨ a.loaderCode = e ++ w ∧ Closed e) ∧
        (Closed e ↔ ClosedBut 1 a.loaderCode)) ∧
    (a.config.minify.isTruthy → ∀ code, s.minifiedLoader = some code →
      ∃ e, a.opening.outcome s = (.ok ("(" ++ e ++ ")("), s) ∧ (Closed e ↔ ClosedBut 1 code)) ∧
    (a.config.minify.isTruthy → s.minifiedLoader = none →
      ∀ answer, a.minifier s.calls a.loaderCall = .ok answer →
        ∃ e, a.opening.outcome s =
            (.ok ("(" ++ e ++ ")("),
              { s with
                calls := a.loaderCall :: s.calls
                minifiedLoader := some (releaseExpression answer) }) ∧
          (Closed e ↔ ClosedBut 2 (heldIn answer))) ∧
    ClosedBut 1 Loader.code := by
  have hcut (code : String) : Closed (dropTerminator code) ↔ ClosedBut 1 code :=
    closed_iterate_dropTerminator_iff (n := 1)
  refine ⟨?_, ?_, ?_, ?_⟩
  · intro hoff
    obtain ⟨w, hw, hcode⟩ := dropTerminator_cases a.loaderCode
    exact ⟨dropTerminator a.loaderCode, w, outcome_opening_off hoff s, hw, hcode,
      hcut a.loaderCode⟩
  · intro hon code hkept
    refine ⟨dropTerminator code, ?_, hcut code⟩
    rw [outcome_opening, outcome_loader_of_some hon hkept]
    rfl
  · intro hon hnone answer hanswer
    refine ⟨dropTerminator (releaseExpression answer), ?_, ?_⟩
    · rw [outcome_opening, outcome_loader_of_answer hon hnone hanswer]
      rfl
    · rw [releaseExpression_eq]
      exact closed_iterate_dropTerminator_iff (n := 2)
  · exact closedBut_loader

/-- With one semicolon too many behind the loader, one of them is left inside the brackets. -/
theorem opening_twoSemicolons :
    ({ circleAssembler with loaderCode := "f;;" }.opening.outcome circleState).1 = .ok "(f;)(" ∧
      ∀ e, "(" ++ e ++ ")(" = "(f;)(" → ¬ Closed e := by
  refine ⟨by rfl, fun e he => ?_⟩
  have hsame : "(" ++ e ++ ")(" = "(" ++ "f;" ++ ")(" := he
  rw [String.append_left_inj, String.append_right_inj] at hsame
  rw [hsame]
  decide

end Assembler

end ModulePack
