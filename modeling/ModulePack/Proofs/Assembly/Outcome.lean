import ModulePack.Assembly
import ModulePack.Proofs.Except
import ModulePack.Proofs.Store.Agreement

/-!
# Outcomes of assemblies

An assembly is run in a state and leaves one behind, also when it fails. What each part keeps,
whether it succeeds or fails, the whole keeps: until its file is written an assembly leaves all
files as they are and changes nothing but code in the store.
-/

namespace ModulePack

namespace Build

variable {α β : Type} {b : Build α} {f : α → Build β} {s s' : BuildState} {x : α} {y : β}

def outcome (b : Build α) (s : BuildState) : Except Error α × BuildState :=
  Id.run (StateT.run (ExceptT.run b) s)

@[simp] theorem outcome_pure (x : α) : (pure x : Build α).outcome s = (.ok x, s) := rfl

@[simp] theorem outcome_throw (e : Error) : (throw e : Build α).outcome s = (.error e, s) := rfl

@[simp] theorem outcome_get : (get : Build BuildState).outcome s = (.ok s, s) := rfl

@[simp] theorem outcome_set : (set s' : Build PUnit).outcome s = (.ok ⟨⟩, s') := rfl

@[simp] theorem outcome_modify (g : BuildState → BuildState) :
    (modify g : Build PUnit).outcome s = (.ok ⟨⟩, g s) := rfl

@[simp] theorem outcome_liftResult (r : Except Error α) : (liftResult r).outcome s = (r, s) := rfl

theorem outcome_bind :
    (b >>= f).outcome s =
      match b.outcome s with
      | (.ok x, s') => (f x).outcome s'
      | (.error e, s') => (.error e, s') := by
  simp only [outcome, ExceptT.run_bind, StateT.run_bind, Id.run_bind]
  rcases Id.run (StateT.run (ExceptT.run b) s) with ⟨e | x, t⟩ <;> rfl

theorem outcome_bind_eq_ok_iff :
    (b >>= f).outcome s = (.ok y, s') ↔
      ∃ x t, b.outcome s = (.ok x, t) ∧ (f x).outcome t = (.ok y, s') := by
  rw [outcome_bind]
  rcases b.outcome s with ⟨e | x, t⟩ <;> simp

theorem outcome_bind_eq_error_iff {e : Error} :
    (b >>= f).outcome s = (.error e, s') ↔
      b.outcome s = (.error e, s') ∨
        ∃ x t, b.outcome s = (.ok x, t) ∧ (f x).outcome t = (.error e, s') := by
  rw [outcome_bind]
  rcases b.outcome s with ⟨e | x, t⟩ <;> simp

theorem outcome_map_eq_ok_iff {g : α → β} :
    (g <$> b).outcome s = (.ok y, s') ↔ ∃ x, b.outcome s = (.ok x, s') ∧ g x = y := by
  rw [← bind_pure_comp, outcome_bind_eq_ok_iff]
  simp

end Build

/-- Whether a relation of states can be followed from state to state and leaves open what the
minifier was asked under some labels. -/
structure BuildState.Allows (asks : String → Prop) (R : BuildState → BuildState → Prop) :
    Prop where
  refl : ∀ s, R s s
  trans : ∀ {s t u}, R s t → R t u → R s u
  asked : ∀ s call, asks call.label → R s { s with calls := call :: s.calls }

structure BuildState.LoadsInto (s s' : BuildState) : Prop where
  files : s'.files = s.files
  store : s.store.AgreesButCode s'.store

theorem BuildState.Allows.loadsInto :
    BuildState.Allows (fun _ => True) BuildState.LoadsInto where
  refl _ := ⟨rfl, .refl _⟩
  trans h h' := ⟨h'.files.trans h.files, h.store.trans h'.store⟩
  asked _ _ _ := ⟨rfl, .refl _⟩

namespace Build

variable {α β : Type} {b : Build α} {f : α → Build β} {asks : String → Prop}
  {R : BuildState → BuildState → Prop}

def Within (R : BuildState → BuildState → Prop) (b : Build α) : Prop := ∀ s, R s (b.outcome s).2

namespace Within

variable (hR : BuildState.Allows asks R)

include hR

theorem pure (x : α) : (pure x : Build α).Within R := hR.refl

theorem throw (e : Error) : (throw e : Build α).Within R := hR.refl

theorem get : (get : Build BuildState).Within R := hR.refl

theorem liftResult (r : Except Error α) : (liftResult r).Within R := hR.refl

theorem bind (hb : b.Within R) (hf : ∀ x, (f x).Within R) : (b >>= f).Within R := by
  intro s
  have hs := hb s
  rw [outcome_bind]
  rcases hout : b.outcome s with ⟨e | x, t⟩
  · rwa [hout] at hs
  · rw [hout] at hs
    exact hR.trans hs (hf x t)

theorem map {g : α → β} (hb : b.Within R) : (g <$> b).Within R := by
  rw [← bind_pure_comp]
  exact bind hR hb fun x => .pure hR (g x)

theorem forM {names : List String} {load : String → Build Unit}
    (h : ∀ name ∈ names, (load name).Within R) : (names.forM load).Within R := by
  induction names with
  | nil => exact .pure hR _
  | cons name names ih =>
    rw [List.forall_mem_cons] at h
    rw [List.forM_eq_forM, List.forM_cons]
    exact .bind hR h.1 fun _ => ih h.2

end Within

def OnlyLoads (b : Build α) : Prop :=
  ∀ s : BuildState, s.LoadsInto (b.outcome s).2

theorem OnlyLoads.loadsInto {r : Except Error α} {s s' : BuildState} (h : b.OnlyLoads)
    (hout : b.outcome s = (r, s')) : s.LoadsInto s' := by
  have hs := h s
  rwa [hout] at hs

end Build

namespace Assembler

open Build

variable (a : Assembler)

/-- What is done when the modules are loaded: their entries are made, and that of the helpers. -/
def gather (order : ModuleOrder) : Build (List Entry) := do
  let entries ← liftResult (entriesOf (← get).store order)
  if a.needsHelper order then return entries ++ [← a.helperEntry] else return entries

/-- The steps of an assembly, of which the last one comes when the modules are loaded. -/
theorem assembleEntries_eq : a.assembleEntries = (do
    let s ← get
    let order ← liftResult (a.order s.files s.store)
    liftResult (a.checkModules order)
    a.loadMissing order.modules
    a.gather order) := rfl

theorem outcome_assembleArray (s : BuildState) :
    a.assembleArray.outcome s =
      ((a.assembleEntries.outcome s).1.map serializeEntries, (a.assembleEntries.outcome s).2) := by
  rw [assembleArray, ← bind_pure_comp, outcome_bind]
  rcases a.assembleEntries.outcome s with ⟨e | entries, t⟩ <;> rfl

structure Alike (a b : Assembler) : Prop where
  projectDir : b.config.projectDir = a.config.projectDir
  compiler : b.config.compiler = a.config.compiler
  embedHelper : b.config.embedHelper = a.config.embedHelper
  minify : b.config.minify = a.config.minify
  minifier : b.minifier = a.minifier

section Alike

variable {a b : Assembler} (h : Alike a b)

include h

theorem Alike.minifyIfConfigured_eq : b.minifyIfConfigured = a.minifyIfConfigured := by
  funext code label target
  simp only [minifyIfConfigured, minifyExpression, h.minify, h.minifier]

theorem Alike.loadMissing_eq : b.loadMissing = a.loadMissing := by
  have hload : b.loadModule = a.loadModule := by
    funext name
    simp only [loadModule, codeFile, h.minifyIfConfigured_eq, h.compiler]
  funext names
  simp only [loadMissing, loadAll, hload]

theorem Alike.gather_eq : b.gather = a.gather := by
  have hneeds : b.needsHelper = a.needsHelper := by
    funext order
    rw [needsHelper, needsHelper, h.embedHelper]
  have hhelper : b.helperEntry = a.helperEntry := by
    simp only [helperEntry, helperText, helperFile, helperDirectory, h.minifyIfConfigured_eq,
      h.compiler, h.projectDir]
  funext order
  simp only [gather, hneeds, hhelper]

end Alike

/-- An expression is sent to the minifier once and nothing else is done, whatever the answer is. -/
theorem outcome_minifyExpression (s : BuildState) (code label : String) (target : Value) :
    (a.minifyExpression code label target).outcome s =
      (((a.minifier s.calls ⟨label, target, holdExpression code⟩).map releaseExpression).mapError
          .minify,
        { s with calls := ⟨label, target, holdExpression code⟩ :: s.calls }) := by
  simp only [minifyExpression, outcome_bind, outcome_get, outcome_set]
  cases a.minifier s.calls ⟨label, target, holdExpression code⟩ <;> rfl

section Loader

variable {a : Assembler} {s : BuildState} {code answer : String} {e : MinifyError}

def loaderCall (a : Assembler) : MinifyCall :=
  ⟨loaderLabel, loaderTarget, holdExpression a.loaderCode⟩

theorem outcome_loader_off (hoff : a.config.minify.isTruthy = false) (s : BuildState) :
    a.loader.outcome s = (.ok a.loaderCode, s) := by
  simp only [loader, hoff, Bool.false_eq_true, if_false, outcome_pure]

theorem outcome_loader_of_some (hon : a.config.minify.isTruthy)
    (hkept : s.minifiedLoader = some code) : a.loader.outcome s = (.ok code, s) := by
  simp only [loader, if_pos hon, outcome_bind, outcome_get, hkept, outcome_pure]

theorem outcome_loader_of_answer (hon : a.config.minify.isTruthy) (hnone : s.minifiedLoader = none)
    (hanswer : a.minifier s.calls a.loaderCall = .ok answer) :
    a.loader.outcome s =
      (.ok (releaseExpression answer),
        { s with
          calls := a.loaderCall :: s.calls
          minifiedLoader := some (releaseExpression answer) }) := by
  rw [loaderCall] at hanswer
  simp only [loader, if_pos hon, outcome_bind, outcome_get, hnone, outcome_minifyExpression,
    hanswer]
  rfl

/-- A loader that could not be minified is not kept. -/
theorem outcome_loader_of_error (hon : a.config.minify.isTruthy) (hnone : s.minifiedLoader = none)
    (hfails : a.minifier s.calls a.loaderCall = .error e) :
    a.loader.outcome s = (.error (.minify e), { s with calls := a.loaderCall :: s.calls }) := by
  rw [loaderCall] at hfails
  simp only [loader, if_pos hon, outcome_bind, outcome_get, hnone, outcome_minifyExpression,
    hfails]
  rfl

/-- The loader is taken as it is, or as it is kept, or it is sent to the minifier. -/
theorem outcome_loader_cases (a : Assembler) (s : BuildState) :
    (a.config.minify.isTruthy = false ∧ a.loader.outcome s = (.ok a.loaderCode, s)) ∨
    (∃ code, a.config.minify.isTruthy ∧ s.minifiedLoader = some code ∧
      a.loader.outcome s = (.ok code, s)) ∨
    (∃ e, a.config.minify.isTruthy ∧ s.minifiedLoader = none ∧
      a.minifier s.calls a.loaderCall = .error e ∧
      a.loader.outcome s = (.error (.minify e), { s with calls := a.loaderCall :: s.calls })) ∨
    ∃ answer, a.config.minify.isTruthy ∧ s.minifiedLoader = none ∧
      a.minifier s.calls a.loaderCall = .ok answer ∧
      a.loader.outcome s =
        (.ok (releaseExpression answer),
          { s with
            calls := a.loaderCall :: s.calls
            minifiedLoader := some (releaseExpression answer) }) := by
  by_cases hon : a.config.minify.isTruthy
  · obtain hnone | ⟨code, hkept⟩ := Option.eq_none_or_eq_some s.minifiedLoader
    · cases hanswer : a.minifier s.calls a.loaderCall with
      | error e =>
        have hout := outcome_loader_of_error hon hnone hanswer
        exact .inr (.inr (.inl ⟨e, hon, hnone, rfl, hout⟩))
      | ok answer =>
        have hout := outcome_loader_of_answer hon hnone hanswer
        exact .inr (.inr (.inr ⟨answer, hon, hnone, rfl, hout⟩))
    · exact .inr (.inl ⟨code, hon, hkept, outcome_loader_of_some hon hkept⟩)
  · have hoff : a.config.minify.isTruthy = false := Bool.not_eq_true _ ▸ hon
    exact .inl ⟨hoff, outcome_loader_off hoff s⟩

theorem outcome_opening (a : Assembler) (s : BuildState) :
    a.opening.outcome s =
      ((a.loader.outcome s).1.map fun code => "(" ++ Text.dropTerminator code ++ ")(",
        (a.loader.outcome s).2) := by
  rw [opening, outcome_bind]
  rcases a.loader.outcome s with ⟨e | code, t⟩ <;> rfl

theorem outcome_opening_off (hoff : a.config.minify.isTruthy = false) (s : BuildState) :
    a.opening.outcome s = (.ok ("(" ++ Text.dropTerminator a.loaderCode ++ ")("), s) := by
  rw [outcome_opening, outcome_loader_off hoff]
  rfl

end Loader

section Parts

variable {asks : String → Prop} {R : BuildState → BuildState → Prop}
  (hR : BuildState.Allows asks R)

include hR

theorem within_minifyExpression {label : String} (hlabel : asks label) (code : String)
    (target : Value) : (a.minifyExpression code label target).Within R := by
  intro s
  rw [outcome_minifyExpression]
  exact hR.asked s _ hlabel

theorem within_minifyIfConfigured {label : String} (hlabel : asks label) (code : String)
    (target : Value) : (a.minifyIfConfigured code label target).Within R := by
  rw [minifyIfConfigured]
  split
  · exact a.within_minifyExpression hR hlabel code target
  · exact .pure hR code

theorem within_loadModule {name : String} (hlabel : asks name)
    (hset : ∀ s code, R s { s with store := s.store.setCode name code }) :
    (a.loadModule name).Within R := by
  refine .bind hR (.get hR) fun s => .bind hR (.liftResult hR _) fun text => ?_
  exact .bind hR (a.within_minifyIfConfigured hR hlabel _ _) fun code t => hset t code

theorem within_loadMissing (hload : ∀ name, (a.loadModule name).Within R) (names : List String) :
    (a.loadMissing names).Within R :=
  .bind hR (.get hR) fun _ => .bind hR (.liftResult hR _) fun _ =>
    .forM hR fun name _ => hload name

theorem within_helperEntry (hlabel : asks helperName) : a.helperEntry.Within R := by
  refine .bind hR (.get hR) fun s => .bind hR (.liftResult hR _) fun text => ?_
  exact .bind hR (a.within_minifyIfConfigured hR hlabel _ _) fun code => .pure hR _

theorem within_gather (hlabel : asks helperName) (order : ModuleOrder) :
    (a.gather order).Within R := by
  refine .bind hR (.get hR) fun s => .bind hR (.liftResult hR _) fun entries => ?_
  split
  · exact .bind hR (a.within_helperEntry hR hlabel) fun _ => .pure hR _
  · exact .pure hR _

theorem within_assembleEntries (hlabel : asks helperName)
    (hload : ∀ name, (a.loadModule name).Within R) : a.assembleEntries.Within R := by
  refine .bind hR (.get hR) fun s => .bind hR (.liftResult hR _) fun order => ?_
  refine .bind hR (.liftResult hR _) fun _ => ?_
  exact .bind hR (a.within_loadMissing hR hload _) fun _ => a.within_gather hR hlabel order

theorem within_loader (hlabel : asks loaderLabel)
    (hkeep : ∀ s code, R s { s with minifiedLoader := some code }) : a.loader.Within R := by
  rw [loader]
  split
  · refine .bind hR (.get hR) fun s => ?_
    split
    · exact .pure hR _
    · refine .bind hR (a.within_minifyExpression hR hlabel _ _) fun code => ?_
      exact .bind hR (fun t => hkeep t code) fun _ => .pure hR _
  · exact .pure hR _

theorem within_opening (hloader : a.loader.Within R) : a.opening.Within R :=
  .bind hR hloader fun _ => .pure hR _

theorem within_wrap (hloader : a.loader.Within R) (array : String) (p : LaunchParameters) :
    (a.wrap array p).Within R :=
  .bind hR (a.within_opening hR hloader) fun _ =>
    .bind hR (.get hR) fun _ => .bind hR (.liftResult hR _) fun _ => .pure hR _

end Parts

theorem within_writeBundle {R : BuildState → BuildState → Prop}
    (hfiles : ∀ s files, R s { s with files }) (code : String) :
    (a.writeBundle code).Within R := by
  intro s
  simp only [writeBundle, outcome_bind, outcome_get, outcome_set]
  split <;> exact hfiles s _

theorem onlyLoads_loadModule (name : String) : (a.loadModule name).OnlyLoads :=
  a.within_loadModule .loadsInto trivial fun s code =>
    ⟨rfl, s.store.agreesButCode_setCode name code⟩

theorem onlyLoads_loadMissing (names : List String) : (a.loadMissing names).OnlyLoads :=
  a.within_loadMissing .loadsInto a.onlyLoads_loadModule names

theorem onlyLoads_assembleCode (p : LaunchParameters) : (a.assembleCode p).OnlyLoads := by
  have hentries : a.assembleEntries.Within BuildState.LoadsInto :=
    a.within_assembleEntries .loadsInto trivial a.onlyLoads_loadModule
  have hloader : a.loader.Within BuildState.LoadsInto :=
    a.within_loader .loadsInto trivial fun _ _ => ⟨rfl, .refl _⟩
  refine Within.bind .loadsInto (.map .loadsInto hentries) fun array => ?_
  split
  · exact .pure .loadsInto array
  · exact a.within_wrap .loadsInto hloader array p

end Assembler

end ModulePack
