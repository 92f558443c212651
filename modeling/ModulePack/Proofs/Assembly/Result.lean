import ModulePack.Proofs.Assembly.Entries
import ModulePack.Proofs.Assembly.Loading

/-!
# What an assembly comes to

With a minifier that answers by the call alone, the text that an assembly gives is a function of the
files and the store: the order of the modules, an entry for each of them with the code that it has
or that its load produces, and the helpers. Where one of these is missing the assembly fails.
-/

namespace ModulePack

namespace Assembler

open Build

def codeOf? (a : Assembler) (f : MinifyCall → Except MinifyError String) (fs : FileSystem)
    (r : Record) : Option String :=
  if r.hasCode then r.code else (a.produced f fs r.name).toOption

def entryOf? (a : Assembler) (f : MinifyCall → Except MinifyError String) (fs : FileSystem)
    (store : Store) (circular : NameSet) (name : String) : Option Entry := do
  let r ← store.get? name
  let code ← a.codeOf? f fs r
  ({ r with code := some code }.toEntry (decide (name ∈ circular))).toOption

/-- The entries behind those of the modules: that of the helpers if they are needed. -/
def helpers? (a : Assembler) (fs : FileSystem) (order : ModuleOrder) : Option (List Entry) :=
  if a.needsHelper order then
    (a.helperEntry.outcome ⟨fs, .empty, [], none⟩).1.toOption.map fun e => [e]
  else some []

def result? (a : Assembler) (f : MinifyCall → Except MinifyError String) (fs : FileSystem)
    (store : Store) : Option String := do
  let order ← (a.order fs store).toOption
  (a.checkModules order).toOption
  let entries ← order.modules.mapM (a.entryOf? f fs store order.circular)
  let helpers ← a.helpers? fs order
  return serializeEntries (entries ++ helpers)

variable {a : Assembler} {f : MinifyCall → Except MinifyError String} {s s' t : BuildState}
  {names : List String} {order : ModuleOrder}

def Loads (a : Assembler) (f : MinifyCall → Except MinifyError String) (s s' : BuildState)
    (names : List String) : Prop :=
  ∀ name ∈ names, ∃ r code, s.store.get? name = some r ∧ a.codeOf? f s.files r = some code ∧
    s'.store.get? name = some { r with code := some code }

theorem exists_code_of_hasCode {r : Record} (h : r.hasCode) : ∃ code, r.code = some code := by
  cases hcode : r.code with
  | none => simp [Record.hasCode, hcode] at h
  | some code => exact ⟨code, rfl⟩

/-- The modules that have no code are loaded, or the load of one of them fails. -/
theorem outcome_loadMissing (hf : a.minifier = .ofFunction f)
    (hstored : ∀ name ∈ names, s.store.has name) :
    (∃ s', (a.loadMissing names).outcome s = (.ok (), s') ∧ s'.files = s.files ∧
        a.Loads f s s' names) ∨
      ∃ e s' r name, (a.loadMissing names).outcome s = (.error e, s') ∧ name ∈ names ∧
        s.store.get? name = some r ∧ a.codeOf? f s.files r = none := by
  let pending := names.filter (lacksCode s.store)
  have hpending : modulesToLoad s.store names = .ok pending :=
    modulesToLoad_eq_ok_iff.2 ⟨hstored, rfl⟩
  have hmem {name : String} {r : Record} (hname : name ∈ names) (hr : s.store.get? name = some r) :
      name ∈ pending ↔ r.hasCode = false := by
    simp [pending, List.mem_filter, hname, lacksCode, hr]
  have hload : (a.loadMissing names).outcome s = (a.loadAll pending).outcome s := by
    simp only [loadMissing, outcome_bind, outcome_get, outcome_liftResult, hpending]
  obtain ⟨calls, hstate, herrors⟩ := Loading.after_eq hf s pending
  rw [hload]
  rcases Loading.outcome_loadAll a s pending with ⟨hout, hnone⟩ | ⟨done, e, hdone, hout, hsome⟩
  · refine .inl ⟨_, hout, by rw [hstate], fun name hname => ?_⟩
    obtain ⟨r, hr⟩ := Option.isSome_iff_exists.1 (hstored name hname)
    obtain rfl := Store.name_of_get? hr
    rw [hstate, Store.get?_fill, hr, Option.map_some]
    by_cases hcode : r.hasCode
    · obtain ⟨code, hc⟩ := exists_code_of_hasCode hcode
      have hnot : r.name ∉ pending := by simp [hmem hname hr, hcode]
      refine ⟨r, code, rfl, by rw [codeOf?, if_pos hcode, hc], ?_⟩
      rw [Record.fill_of_eq_none (if_neg hnot), ← hc]
    · have hin : r.name ∈ pending := (hmem hname hr).2 (by simpa using hcode)
      obtain ⟨code, hc⟩ := Option.isSome_iff_exists.1 (herrors.1 hnone r.name hin)
      refine ⟨r, code, rfl, by rw [codeOf?, if_neg hcode, hc], ?_⟩
      rw [Record.fill, producedBy, if_pos hin, hc, Option.some_or]
  · have hfails : (Loading.after a s pending).errors ≠ [] := by
      have hle := Loading.errors_after_of_prefix a s hdone
      rw [hsome] at hle
      exact List.ne_nil_of_mem (hle.mem (List.mem_singleton_self e))
    rw [Ne, herrors] at hfails
    push Not at hfails
    obtain ⟨name, hin, hproduced⟩ := hfails
    have hname : name ∈ names := List.mem_of_mem_filter hin
    obtain ⟨r, hr⟩ := Option.isSome_iff_exists.1 (hstored name hname)
    obtain rfl := Store.name_of_get? hr
    refine .inr ⟨e, _, r, r.name, hout, hname, hr, ?_⟩
    rw [codeOf?, (hmem hname hr).1 hin]
    simpa using hproduced

theorem toOption_entriesOf (h : a.Loads f s s' order.modules) :
    (entriesOf s'.store order).toOption =
      order.modules.mapM (a.entryOf? f s.files s.store order.circular) := by
  rw [entriesOf, toOption_mapM]
  refine mapM_eq_mapM_of_forall fun name hname => ?_
  obtain ⟨r, code, hr, hcode, hloaded⟩ := h name hname
  rw [entryOf?, hr, toOption_bind, Store.fetch_eq_ok_iff.2 hloaded, toOption_ok]
  simp only [toOption_mapError, Option.bind_eq_bind, Option.bind_some, hcode]

/-- The entry of the helpers hangs on the files and on what a minifier makes of the helpers. -/
theorem outcome_helperEntry_congr {b : Assembler} {g : MinifyCall → Except MinifyError String}
    (ha : a.minifier = .ofFunction f) (hb : b.minifier = .ofFunction g)
    (hdirectory : b.config.projectDir = a.config.projectDir)
    (hminified : ∀ text,
      b.minified g (helperCode text) helperName = a.minified f (helperCode text) helperName)
    (h : t.files = s.files) :
    (b.helperEntry.outcome t).1 = (a.helperEntry.outcome s).1 := by
  have htext : b.helperText = a.helperText := by
    funext fs
    simp only [helperText, helperFile, helperDirectory, hdirectory]
  simp only [helperEntry, outcome_bind, outcome_get, outcome_liftResult, h, htext]
  cases a.helperText s.files with
  | error e => rfl
  | ok text =>
    obtain ⟨_, hs⟩ := outcome_minifyIfConfigured ha s (helperCode text) helperName
    obtain ⟨_, ht⟩ := outcome_minifyIfConfigured hb t (helperCode text) helperName
    simp only [hs, ht, hminified]
    cases a.minified f (helperCode text) helperName <;> rfl

theorem outcome_helperEntry (hf : a.minifier = .ofFunction f) (h : s.files = t.files) :
    (a.helperEntry.outcome s).1 = (a.helperEntry.outcome t).1 :=
  outcome_helperEntry_congr hf hf rfl (fun _ => rfl) h

theorem has_of_order {fs : FileSystem} {store : Store} (h : a.order fs store = .ok order) :
    ∀ name ∈ order.modules, store.has name := by
  obtain ⟨entry, -, hentry, rfl⟩ := exists_entry_of_order h
  exact fun name hname => ((Store.mem_modules_iff hentry).1 hname).1

theorem lacksCode_helper (horder : a.order s.files s.store = .ok order)
    (hneeds : a.needsHelper order) : lacksCode s.store helperName = false := by
  obtain ⟨entry, -, hentry, rfl⟩ := exists_entry_of_order horder
  have habsent : helperName ∈ (s.store.order entry).absent := by
    simp only [needsHelper, Bool.and_eq_true, decide_eq_true_eq] at hneeds
    exact hneeds.2
  have hnot := Store.not_has_of_mem_absent hentry habsent
  rw [Store.has, Bool.not_eq_true, Option.isSome_eq_false_iff, Option.isNone_iff_eq_none] at hnot
  rw [lacksCode, hnot, Option.any_none]

/-- When the modules are loaded, their entries come to what the helpers are put behind. -/
theorem toOption_gather (hf : a.minifier = .ofFunction f) (s : BuildState) :
    ((a.gather order).outcome s).1.toOption = (entriesOf s.store order).toOption.bind fun entries =>
      (a.helpers? s.files order).map fun helpers => entries ++ helpers := by
  rw [outcome_gather, toOption_bind]
  congr 1
  funext entries
  rw [helpers?]
  split
  · have hhelper : (a.helperEntry.outcome ⟨s.files, .empty, [], none⟩).1 =
        (a.helperEntry.outcome s).1 := outcome_helperEntry hf rfl
    rw [hhelper]
    cases (a.helperEntry.outcome s).1 <;> rfl
  · simp [toOption_ok]

/-- The entries of an assembly are those of its modules and of the helpers, if none is missing. -/
theorem toOption_assembleEntries (hf : a.minifier = .ofFunction f)
    (horder : a.order s.files s.store = .ok order) (hcheck : a.checkModules order = .ok ()) :
    (a.assembleEntries.outcome s).1.toOption =
      (order.modules.mapM (a.entryOf? f s.files s.store order.circular)).bind fun entries =>
        (a.helpers? s.files order).map fun helpers => entries ++ helpers := by
  rcases outcome_loadMissing hf (has_of_order horder) with
    ⟨s', hload, hfiles, hloads⟩ | ⟨e, s', r, name, hload, hname, hr, hnone⟩
  · rw [outcome_assembleEntries_eq horder hcheck hload, toOption_gather hf,
      toOption_entriesOf hloads, hfiles]
  · have hfails : a.entryOf? f s.files s.store order.circular name = none := by
      rw [entryOf?, hr]
      simp [hnone]
    simp only [assembleEntries, outcome_bind, outcome_get, outcome_liftResult, horder, hcheck,
      hload]
    rw [mapM_eq_none hname hfails]
    rfl

/-- An assembly gives what its parts come to, or fails where one of them does. -/
theorem toOption_assembleArray (hf : a.minifier = .ofFunction f) (s : BuildState) :
    (a.assembleArray.outcome s).1.toOption = a.result? f s.files s.store := by
  have hmap : (a.assembleArray.outcome s).1.toOption =
      (a.assembleEntries.outcome s).1.toOption.map serializeEntries := by
    rw [outcome_assembleArray]
    cases (a.assembleEntries.outcome s).1 <;> rfl
  rw [hmap, result?]
  cases horder : a.order s.files s.store with
  | error e =>
    simp only [assembleEntries, outcome_bind, outcome_get, outcome_liftResult, horder]
    rfl
  | ok order =>
    simp only [toOption_ok, Option.bind_eq_bind, Option.bind_some]
    cases hcheck : a.checkModules order with
    | error e =>
      simp only [assembleEntries, outcome_bind, outcome_get, outcome_liftResult, horder, hcheck]
      rfl
    | ok _ =>
      rw [toOption_assembleEntries hf horder hcheck]
      simp only [toOption_ok, Option.bind_some, Function.comp_def, Option.map_eq_bind,
        Option.bind_assoc]
      rfl

end Assembler

end ModulePack
