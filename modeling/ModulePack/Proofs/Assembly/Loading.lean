import Mathlib.Data.List.Induction
import ModulePack.Proofs.Assembly.Outcome
import ModulePack.Proofs.Store.Filling

/-!
# Loads that run at once

The loads of modules run at once and complete in any order, each of them in one step. A load reads
one file and changes nothing but the code of its module, so with a minifier that answers by the call
alone what it produces hangs on its module only. What loads have left in the store at any time is
what those that have completed produce, whatever their order and whichever of them failed.
-/

namespace ModulePack

namespace Assembler

def minified (a : Assembler) (f : MinifyCall → Except MinifyError String) (code label : String) :
    Except Error String :=
  if a.config.minify.isTruthy then
    ((f ⟨label, a.config.compiler.target, holdExpression code⟩).map releaseExpression).mapError
      .minify
  else .ok code

def produced (a : Assembler) (f : MinifyCall → Except MinifyError String) (fs : FileSystem)
    (name : String) : Except Error String := do
  let code ← fileText fs (a.codeFile name) (.codeUnreadable (a.codeFile name) name)
  a.minified f code name

end Assembler

open Build

/-- What loads that run at once have made: the state that they share, and the errors of those that
have failed. -/
structure Loading where
  state : BuildState
  errors : List Error

namespace Loading

def complete (a : Assembler) (l : Loading) (name : String) : Loading :=
  match (a.loadModule name).outcome l.state with
  | (.ok (), s) => ⟨s, l.errors⟩
  | (.error e, s) => ⟨s, l.errors ++ [e]⟩

def after (a : Assembler) (s : BuildState) (order : List String) : Loading :=
  order.foldl (complete a) ⟨s, []⟩

@[simp] theorem after_nil (a : Assembler) (s : BuildState) : after a s [] = ⟨s, []⟩ := rfl

theorem after_concat (a : Assembler) (s : BuildState) (order : List String) (name : String) :
    after a s (order ++ [name]) = (after a s order).complete a name := by
  rw [after, List.foldl_append, List.foldl_cons, List.foldl_nil, after]

end Loading

namespace Assembler

variable {a : Assembler} {f : MinifyCall → Except MinifyError String} {s : BuildState}

theorem outcome_minifyIfConfigured (hf : a.minifier = .ofFunction f) (s : BuildState)
    (code label : String) :
    ∃ calls, (a.minifyIfConfigured code label a.config.compiler.target).outcome s =
      (a.minified f code label, { s with calls }) := by
  by_cases hminify : a.config.minify.isTruthy
  · refine ⟨⟨label, a.config.compiler.target, holdExpression code⟩ :: s.calls, ?_⟩
    rw [minifyIfConfigured, minified, if_pos hminify, if_pos hminify, outcome_minifyExpression, hf]
    rfl
  · refine ⟨s.calls, ?_⟩
    simp only [minifyIfConfigured, minified, if_neg hminify]
    rfl

/-- A load fills in what it produces, and nothing where it fails. -/
theorem outcome_loadModule (hf : a.minifier = .ofFunction f) (s : BuildState) (name : String) :
    ∃ calls, (a.loadModule name).outcome s =
      ((a.produced f s.files name).map fun _ => (),
        { s with
          store := s.store.fill fun other =>
            if other = name then (a.produced f s.files name).toOption else none
          calls }) := by
  have hfailed {e : Error} (h : a.produced f s.files name = .error e) :
      ((.error e, s) : Except Error Unit × BuildState) =
        ((a.produced f s.files name).map fun _ => (),
          { s with
            store := s.store.fill fun other =>
              if other = name then (a.produced f s.files name).toOption else none }) := by
    simp [h, Except.map, Except.toOption]
  simp only [loadModule, outcome_bind, outcome_get, outcome_liftResult]
  cases htext : fileText s.files (a.codeFile name) (.codeUnreadable (a.codeFile name) name) with
  | error e => exact ⟨s.calls, hfailed (by rw [produced, htext]; rfl)⟩
  | ok code =>
    obtain ⟨calls, hcalls⟩ := outcome_minifyIfConfigured hf s code name
    have hproduced : a.produced f s.files name = a.minified f code name := by
      rw [produced, htext]
      rfl
    refine ⟨calls, ?_⟩
    simp only [hcalls, hproduced]
    cases a.minified f code name with
    | error e => simp [Except.map, Except.toOption]
    | ok loaded =>
      simp only [outcome_modify, Store.setCode_eq_fill]
      rfl

def lacksCode (store : Store) (name : String) : Bool := (store.get? name).any fun r => !r.hasCode

/-- The modules to load are those that have no code, in the order in which they are given. -/
theorem modulesToLoad_eq_ok_iff {store : Store} {names pending : List String} :
    modulesToLoad store names = .ok pending ↔
      (∀ name ∈ names, store.has name) ∧ pending = names.filter (lacksCode store) := by
  have hpending {records : List Record}
      (h : List.Forall₂ (fun name r => store.fetch name = .ok r) names records) :
      (records.filter fun r => !r.hasCode).map Record.name = names.filter (lacksCode store) := by
    induction h with
    | nil => rfl
    | @cons name r names records hr _ ih =>
      have hr := Store.fetch_eq_ok_iff.1 hr
      have hlacks : lacksCode store name = !r.hasCode := by rw [lacksCode, hr, Option.any_some]
      rw [List.filter_cons, List.filter_cons, hlacks]
      split
      · rw [List.map_cons, ih, Store.name_of_get? hr]
      · exact ih
  have hstored : (∀ name ∈ names, store.has name) ↔
      ∃ records, List.Forall₂ (fun name r => store.fetch name = .ok r) names records := by
    simp only [exists_forall₂_iff, Store.fetch_eq_ok_iff, Store.has, Option.isSome_iff_exists]
  rw [modulesToLoad, bind_eq_ok_iff, hstored]
  simp only [mapM_eq_ok_iff]
  constructor
  · rintro ⟨records, hrecords, h⟩
    exact ⟨⟨records, hrecords⟩, (Except.ok.inj h).symm.trans (hpending hrecords)⟩
  · rintro ⟨⟨records, hrecords⟩, rfl⟩
    exact ⟨records, hrecords, congrArg Except.ok (hpending hrecords)⟩

/-- What is known of the code of modules when the loads of some of them have completed. -/
def producedBy (a : Assembler) (f : MinifyCall → Except MinifyError String) (fs : FileSystem)
    (done : List String) (name : String) : Option String :=
  if name ∈ done then (a.produced f fs name).toOption else none

@[simp] theorem producedBy_nil (fs : FileSystem) : a.producedBy f fs [] = fun _ => none := by
  funext name
  simp [producedBy]

theorem producedBy_concat (done : List String) (last name : String) (fs : FileSystem) :
    (if name = last then (a.produced f fs last).toOption else none).or
        (a.producedBy f fs done name) = a.producedBy f fs (done ++ [last]) name := by
  by_cases hlast : name = last
  · subst hlast
    by_cases hdone : name ∈ done <;> simp [producedBy, hdone]
  · simp [producedBy, hlast]

end Assembler

namespace Loading

variable {a : Assembler} {f : MinifyCall → Except MinifyError String} {s : BuildState}
  {done order order' names pending : List String} {name : String}

theorem errors_complete (a : Assembler) (l : Loading) (name : String) :
    l.errors <+: (l.complete a name).errors := by
  rw [complete]
  split
  · exact List.prefix_refl _
  · exact List.prefix_append _ _

theorem errors_after_of_prefix (a : Assembler) (s : BuildState) (h : done <+: order) :
    (after a s done).errors <+: (after a s order).errors := by
  obtain ⟨rest, rfl⟩ := h
  induction rest using List.reverseRecOn with
  | nil => simp
  | append_singleton rest name ih =>
    rw [← List.append_assoc, after_concat]
    exact ih.trans (errors_complete _ _ _)

theorem complete_eq (hf : a.minifier = .ofFunction f) (l : Loading) (name : String) :
    ∃ calls, (l.complete a name).state =
      { l.state with
        store := l.state.store.fill fun other =>
          if other = name then (a.produced f l.state.files name).toOption else none
        calls } ∧
      ((l.complete a name).errors = [] ↔
        l.errors = [] ∧ (a.produced f l.state.files name).toOption.isSome) := by
  obtain ⟨calls, hcalls⟩ := a.outcome_loadModule hf l.state name
  refine ⟨calls, ?_⟩
  rw [complete, hcalls]
  cases a.produced f l.state.files name <;> simp [Except.map, Except.toOption]

/-- Whatever the order in which loads complete, they leave what they produce in the store. -/
theorem after_eq (hf : a.minifier = .ofFunction f) (s : BuildState) (done : List String) :
    ∃ calls, (after a s done).state =
      { s with store := s.store.fill (a.producedBy f s.files done), calls } ∧
      ((after a s done).errors = [] ↔
        ∀ name ∈ done, (a.produced f s.files name).toOption.isSome) := by
  induction done using List.reverseRecOn with
  | nil => exact ⟨s.calls, by simp⟩
  | append_singleton done last ih =>
    obtain ⟨_, hstate, herrors⟩ := ih
    obtain ⟨calls, hlast, hfails⟩ := complete_eq hf (after a s done) last
    refine ⟨calls, ?_, ?_⟩
    · rw [after_concat, hlast, hstate]
      simp only [Store.fill_fill, Assembler.producedBy_concat]
    · rw [after_concat, hfails, hstate, herrors]
      simp [or_imp, forall_and]

/-- Modules that are loaded one after the other are loaded up to the first that fails. -/
theorem outcome_loadAll (a : Assembler) (s : BuildState) (order : List String) :
    ((a.loadAll order).outcome s = (.ok (), (after a s order).state) ∧
        (after a s order).errors = []) ∨
      ∃ done e, done <+: order ∧ (a.loadAll order).outcome s = (.error e, (after a s done).state) ∧
        (after a s done).errors = [e] := by
  induction order using List.reverseRecOn with
  | nil => exact .inl ⟨rfl, rfl⟩
  | append_singleton order name ih =>
    have hconcat :
        a.loadAll (order ++ [name]) = a.loadAll order >>= fun _ => a.loadModule name := by
      rw [Assembler.loadAll, List.forM_eq_forM, List.forM_append, List.forM_cons]
      simp [Assembler.loadAll]
    rw [hconcat, outcome_bind]
    rcases ih with ⟨hout, herrors⟩ | ⟨done, e, hdone, hout, herrors⟩
    · rw [hout]
      simp only [after_concat, complete, herrors]
      rcases hload : (a.loadModule name).outcome (after a s order).state with ⟨e | ⟨⟩, s'⟩
      · refine .inr ⟨order ++ [name], e, List.prefix_refl _, ?_, ?_⟩
        · rw [after_concat, complete, hload]
        · rw [after_concat, complete, hload, herrors]
          rfl
      · exact .inl ⟨rfl, rfl⟩
    · rw [hout]
      exact .inr ⟨done, e, hdone.trans (List.prefix_append _ _), rfl, herrors⟩

end Loading

end ModulePack
