import ModulePack.Proofs.Assembly.Again
import ModulePack.Proofs.Assembly.Filters
import ModulePack.Proofs.Assembly.Request
import ModulePack.Proofs.Assembly.Result
import ModulePack.Proofs.FileSystem.Looking
import ModulePack.Proofs.FileSystem.Reading
import ModulePack.Proofs.Value.Texts

/-!
# How an assembly of the array fails

Where all settings are of their kind, an assembly of the array that fails says that the bundle
cannot be made, or it stops with a fault. Each name that is looked up is a stored one. A fault comes
from the path of the entry module, from a pattern, from a file that is read, whose path can name no
file or whose bytes are no text, or from a host that refuses to look at the directory of the
helpers. All these do stop assemblies with a fault.
-/

namespace ModulePack

open Build

inductive Error.OfBundle : Error → Prop
  | bundle (e : BundleError) : OfBundle (.bundle e)
  | minify (e : MinifyError) : OfBundle (.minify e)

def Error.OfBundleOr (P : Fault → Prop) (e : Error) : Prop :=
  e.OfBundle ∨ ∃ fault, e = .fault fault ∧ P fault

theorem Error.OfBundleOr.imp {P Q : Fault → Prop} {e : Error} (h : e.OfBundleOr P)
    (hPQ : ∀ fault, P fault → Q fault) : e.OfBundleOr Q := by
  rcases h with hbundle | ⟨fault, rfl, hfault⟩
  · exact .inl hbundle
  · exact .inr ⟨fault, rfl, hPQ fault hfault⟩

/-- Whether all settings are of their kind. -/
structure Config.Typed (c : Config) : Prop where
  entryModule : c.entryModule.IsText
  entryFunction : c.entryFunction.IsText
  target : c.compiler.target.IsText
  paths : ∀ path ∈ c.compiler.paths, ∀ target ∈ path.2, target.IsText
  ambientModules : ∀ name ∈ c.compiler.ambientModules, name.IsText
  amdRequireName : c.amdRequireName.IsText
  commonjsRequireName : c.commonjsRequireName.IsText
  preferCommonjs : ∃ b, c.preferCommonjs = .bool b
  minify : ∃ b, c.minify = .bool b
  embedHelper : ∃ b, c.embedHelper = .bool b
  noLoaderCode : ∃ b, c.noLoaderCode = .bool b
  errorHandlerName : c.errorHandlerName = .null ∨ c.errorHandlerName.IsText
  evalCapability : c.evalCapability.IsText
  patterns : ∀ setting ∈ c.excludePatterns ++ c.includePatterns, setting.IsText
  minifyOptions : ∀ option ∈ c.minifyOptions, option.1.IsText

section Patterns

variable {compile : PatternCompiler} {excludePatterns includePatterns : List Value}
  {names : List String} {fault : Fault}

theorem checkNames_eq_fault_iff :
    checkNames compile excludePatterns includePatterns names = .error (.fault fault) ↔
      (excludePatterns ++ includePatterns).mapM (compilePattern compile) =
        .error (.fault fault) := by
  rw [checkNames, List.mapM_append]
  cases excludePatterns.mapM (compilePattern compile) with
  | error e => simp [bind, Except.bind]
  | ok barring =>
    cases includePatterns.mapM (compilePattern compile) with
    | error e => simp [bind, Except.bind]
    | ok admitting =>
      simp only [bind, Except.bind, pure, Except.pure, reduceCtorEq, iff_false]
      cases judgeNames barring admitting names <;> simp [Except.mapError]

end Patterns

namespace Assembler

inductive HelperFault (a : Assembler) (fs : FileSystem) : Fault → Prop
  /-- The host refuses to look at the directory. -/
  | look {r : Refusal} (hpath : a.helperDirectory.isValid)
      (hrefused : fs.refusal .look fs.toFileTree a.helperDirectory = some r) :
      HelperFault a fs (.refused r)
  /-- The file is no text. -/
  | file {fault : Fault} (hdirectory : fs.ask Node.isDirectory a.helperDirectory = .ok true)
      (hgarbled : fs.Garbled a.helperFile fault) : HelperFault a fs fault

/-- What stops an assembly of the array with a fault. -/
inductive Escapes (a : Assembler) (s : BuildState) : Fault → Prop
  /-- The path of the entry module can name no file. -/
  | entry {setting : String} (hsetting : a.config.entryModule = .text setting)
      (hpath : ¬ (a.config.projectDir / setting).isValid) : Escapes a s .badValue
  /-- The first pattern that cannot be used is not merely malformed. -/
  | pattern {order : ModuleOrder} {before after : List Value} {setting : String} {fault : Fault}
      (horder : a.order s.files s.store = .ok order)
      (hpatterns : a.config.excludePatterns ++ a.config.includePatterns =
        before ++ .text setting :: after)
      (hbefore : ∀ other ∈ before, Compiles a.compile other)
      (hsetting : compilePattern a.compile (.text setting) = .error (.fault fault)) :
      Escapes a s fault
  /-- The code of a module is to be loaded, and its file is no text. -/
  | code {order : ModuleOrder} {name : String} {fault : Fault}
      (horder : a.order s.files s.store = .ok order)
      (hpasses :
        Passes a.compile a.config.excludePatterns a.config.includePatterns order.modules)
      (hname : name ∈ order.modules) (hlacks : lacksCode s.store name)
      (hgarbled : s.files.Garbled (a.codeFile name) fault) : Escapes a s fault
  /-- All modules have their code, and the helpers cannot be read. -/
  | helper {order : ModuleOrder} {done : List String} {modules : List Entry} {fault : Fault}
      (horder : a.order s.files s.store = .ok order)
      (hpasses :
        Passes a.compile a.config.excludePatterns a.config.includePatterns order.modules)
      (hdone : done.Perm (order.modules.filter (lacksCode s.store)))
      (hloaded : (Loading.after a s done).errors = [])
      (hmodules : entriesOf (Loading.after a s done).state.store order = .ok modules)
      (hneeds : a.needsHelper order) (hhelper : a.HelperFault s.files fault) : Escapes a s fault

variable {a : Assembler} {s s' : BuildState} {fs : FileSystem} {store : Store} {e : Error}
  {order : ModuleOrder} {name code label : String} {target : Value} {file : Path} {fault : Fault}
  {unreadable : FileError → BundleError} {done : List String}

section Parts

theorem fileText_eq_error (h : fileText fs file unreadable = .error e) :
    e.OfBundleOr (fs.Garbled file) := by
  rw [fileText] at h
  cases htext : fs.readText file with
  | ok text =>
    rw [htext] at h
    cases h
  | error reason =>
    rw [htext] at h
    cases reason with
    | file => exact .inl (Except.error.inj h ▸ .bundle _)
    | badEncoding =>
      exact .inr ⟨_, (Except.error.inj h).symm, FileSystem.garbled_iff.2 ⟨_, htext, rfl⟩⟩
    | badName =>
      exact .inr ⟨_, (Except.error.inj h).symm, FileSystem.garbled_iff.2 ⟨_, htext, rfl⟩⟩

theorem fileText_of_garbled (h : fs.Garbled file fault) :
    fileText fs file unreadable = .error (.fault fault) := by
  obtain ⟨reason, htext, hreason⟩ := FileSystem.garbled_iff.1 h
  rw [fileText, htext]
  cases reason <;> cases hreason <;> rfl

theorem helperText_eq_error (h : a.helperText fs = .error e) :
    e.OfBundleOr (a.HelperFault fs) := by
  have hlook {kind : Node → Bool} {r : Refusal} (hask : fs.ask kind a.helperDirectory = .error r) :
      (Error.fault (.refused r)).OfBundleOr (a.HelperFault fs) := by
    obtain ⟨hpath, hrefused⟩ := FileSystem.ask_eq_error_iff.1 hask
    exact .inr ⟨_, rfl, .look hpath hrefused⟩
  rw [helperText_eq] at h
  split at h
  · next hthere =>
    cases h
    exact hlook hthere
  · next hdirectory =>
    cases h
    exact hlook hdirectory
  · cases h
    exact .inl (.bundle _)
  · cases h
    exact .inl (.bundle _)
  · next hdirectory => exact (fileText_eq_error h).imp fun _ hgarbled => .file hdirectory hgarbled

theorem helperText_of_helperFault (h : a.HelperFault fs fault) :
    a.helperText fs = .error (.fault fault) := by
  rw [helperText_eq]
  cases h with
  | look hpath hrefused =>
    rw [FileSystem.ask_eq_error_iff.2 ⟨hpath, hrefused⟩]
  | file hdirectory hgarbled =>
    obtain ⟨hpath, node, hfind, -⟩ := FileSystem.ask_eq_true_iff.1 hdirectory
    have hthere : fs.ask (fun _ => true) a.helperDirectory = .ok true :=
      FileSystem.ask_eq_true_iff.2 ⟨hpath, node, hfind, rfl⟩
    simp only [hthere, hdirectory, fileText_of_garbled hgarbled]

theorem minifyIfConfigured_eq_error
    (h : (a.minifyIfConfigured code label target).outcome s = (.error e, s')) : e.OfBundle := by
  rw [minifyIfConfigured] at h
  split at h
  · rw [outcome_minifyExpression] at h
    cases hanswer : a.minifier s.calls ⟨label, target, holdExpression code⟩ with
    | ok answer =>
      rw [hanswer] at h
      cases h
    | error refused =>
      rw [hanswer] at h
      cases h
      exact .minify refused
  · cases h

theorem loadModule_eq_error (h : (a.loadModule name).outcome s = (.error e, s')) :
    e.OfBundleOr (s.files.Garbled (a.codeFile name)) := by
  simp only [loadModule, outcome_bind_eq_error_iff, outcome_get, outcome_liftResult,
    outcome_modify, Prod.mk.injEq, reduceCtorEq, false_and, and_false, exists_false, false_or,
    or_false, Except.ok.injEq] at h
  obtain ⟨_, _, ⟨rfl, rfl⟩, ⟨htext, -⟩ | ⟨text, _, ⟨-, rfl⟩, hminify⟩⟩ := h
  · exact fileText_eq_error htext
  · exact .inl (minifyIfConfigured_eq_error hminify)

theorem outcome_loadModule_of_garbled (h : s.files.Garbled (a.codeFile name) fault) :
    (a.loadModule name).outcome s = (.error (.fault fault), s) := by
  simp only [loadModule, outcome_bind, outcome_get, outcome_liftResult, fileText_of_garbled h]

theorem helperEntry_eq_error (h : a.helperEntry.outcome s = (.error e, s')) :
    e.OfBundleOr (a.HelperFault s.files) := by
  simp only [helperEntry, outcome_bind_eq_error_iff, outcome_get, outcome_liftResult,
    outcome_pure, Prod.mk.injEq, reduceCtorEq, false_and, and_false, exists_false, false_or,
    or_false, Except.ok.injEq] at h
  obtain ⟨_, _, ⟨rfl, rfl⟩, ⟨htext, -⟩ | ⟨text, _, ⟨-, rfl⟩, hminify⟩⟩ := h
  · exact helperText_eq_error htext
  · exact .inl (minifyIfConfigured_eq_error hminify)

theorem outcome_helperEntry_of_helperFault (h : a.HelperFault s.files fault) :
    a.helperEntry.outcome s = (.error (.fault fault), s) := by
  simp only [helperEntry, outcome_bind, outcome_get, outcome_liftResult,
    helperText_of_helperFault h]

/-- Where all modules are stored, the entry of a module can lack nothing but its code. -/
theorem entriesOf_eq_error (hstored : ∀ name ∈ order.modules, store.has name)
    (h : entriesOf store order = .error e) : e.OfBundle := by
  obtain ⟨before, name, after, hmodules, -, hname⟩ := exists_of_mapM_eq_error h
  have hmem : name ∈ order.modules := by simp [hmodules]
  obtain ⟨r, hr⟩ := Option.isSome_iff_exists.1 (hstored name hmem)
  rw [Store.fetch_eq_ok_iff.2 hr] at hname
  cases hentry : r.toEntry (decide (name ∈ order.circular)) with
  | ok entry =>
    simp only [bind, Except.bind, hentry] at hname
    cases hname
  | error missing =>
    simp only [bind, Except.bind, hentry] at hname
    cases hname
    exact .bundle missing

end Parts

section Order

theorem entryName_eq_error (htyped : a.config.Typed) (h : a.entryName fs = .error fault) :
    ∃ setting, a.config.entryModule = .text setting ∧
      ¬ (a.config.projectDir / setting).isValid ∧ fault = .badValue := by
  obtain ⟨setting, hsetting⟩ := htyped.entryModule
  refine ⟨setting, hsetting, ?_⟩
  rw [entryName, hsetting, resolveSetting, FileTree.resolve] at h
  split at h
  · cases h
  · next hpath =>
    cases h
    exact ⟨hpath, rfl⟩

theorem order_eq_error (htyped : a.config.Typed) (h : a.order s.files s.store = .error e) :
    e.OfBundleOr (a.Escapes s) := by
  rw [order] at h
  cases hentry : a.entryName s.files with
  | error fault =>
    rw [hentry] at h
    cases h
    obtain ⟨setting, hsetting, hpath, rfl⟩ := entryName_eq_error htyped hentry
    exact .inr ⟨_, rfl, .entry hsetting hpath⟩
  | ok entry =>
    simp only [hentry, Except.mapError, bind, Except.bind] at h
    split at h
    · cases h
    · cases h
      exact .inl (.bundle _)

theorem checkModules_eq_error (htyped : a.config.Typed)
    (horder : a.order s.files s.store = .ok order) (h : a.checkModules order = .error e) :
    e.OfBundleOr (a.Escapes s) := by
  rw [checkModules] at h
  cases e with
  | fault fault =>
    obtain ⟨before, other, after, hpatterns, hbefore, hother⟩ :=
      exists_of_mapM_eq_error (checkNames_eq_fault_iff.1 h)
    obtain ⟨setting, rfl⟩ := htyped.patterns other (by simp [hpatterns])
    exact .inr ⟨fault, rfl, .pattern horder hpatterns hbefore hother⟩
  | bundle refused => exact .inl (.bundle refused)
  | minify refused => exact .inl (.minify refused)
  | config | store | unknownModule =>
    rcases checkNames_spec a.compile a.config.excludePatterns a.config.includePatterns
      order.modules with ⟨hpasses, -⟩ | ⟨e', he', hobjection⟩
    · cases hpasses.symm.trans h
    · cases he'.symm.trans h
      rcases hobjection.bundle_or_fault with ⟨_, he⟩ | ⟨_, -, _, -, he⟩ <;> cases he

/-- An assembly that stops before anything is loaded stops at the order or at the patterns: all
modules of an order are stored. -/
theorem StopsFirst.ofBundleOr (htyped : a.config.Typed) (h : a.StopsFirst s e) :
    e.OfBundleOr (a.Escapes s) := by
  cases h with
  | order h => exact order_eq_error htyped h
  | names horder h => exact checkModules_eq_error htyped horder h
  | records horder h =>
    have hpending := modulesToLoad_eq_ok_iff.2 ⟨has_of_order horder, rfl⟩
    cases hpending.symm.trans h

end Order

section Ends

/-- An error of loads that run at once is the error of one of them; no load touches the files. -/
theorem exists_of_mem_errors (h : e ∈ (Loading.after a s done).errors) :
    ∃ name ∈ done, ∃ t t', t.files = s.files ∧
      (a.loadModule name).outcome t = (.error e, t') := by
  induction done using List.reverseRecOn with
  | nil => simp at h
  | append_singleton done last ih =>
    rw [Loading.after_concat, Loading.complete] at h
    rcases hlast : (a.loadModule last).outcome (Loading.after a s done).state with ⟨e' | ⟨⟩, t'⟩
    · rw [hlast] at h
      rcases List.mem_append.1 h with hbefore | hnew
      · obtain ⟨name, hname, hout⟩ := ih hbefore
        exact ⟨name, List.mem_append_left _ hname, hout⟩
      · obtain rfl := List.mem_singleton.1 hnew
        exact ⟨last, by simp, _, t', (Loading.loadsInto_after a s done).files, hlast⟩
    · rw [hlast] at h
      obtain ⟨name, hname, hout⟩ := ih h
      exact ⟨name, List.mem_append_left _ hname, hout⟩

/-- Loads fail with errors of bundles, or with the fault of a file that is no text. -/
theorem loads_ofBundleOr (horder : a.order s.files s.store = .ok order)
    (hfilters : a.checkModules order = .ok ())
    (hdone : done ⊆ order.modules.filter (lacksCode s.store))
    (h : e ∈ (Loading.after a s done).errors) :
    e.OfBundleOr (a.Escapes s) := by
  obtain ⟨name, hname, t, t', hfiles, hload⟩ := exists_of_mem_errors h
  obtain ⟨hlisted, hlacks⟩ := List.mem_filter.1 (hdone hname)
  refine (loadModule_eq_error hload).imp fun fault hgarbled => ?_
  rw [hfiles] at hgarbled
  exact .code horder (passes_of_checkNames hfilters) hlisted hlacks hgarbled

/-- Behind loads that have all succeeded, only the helpers can stop an assembly with a fault. -/
theorem gather_ofBundleOr (horder : a.order s.files s.store = .ok order)
    (hfilters : a.checkModules order = .ok ())
    (hdone : done.Perm (order.modules.filter (lacksCode s.store)))
    (hloaded : (Loading.after a s done).errors = [])
    (h : ((a.gather order).outcome (Loading.after a s done).state).1 = .error e) :
    e.OfBundleOr (a.Escapes s) := by
  have hstate : s.LoadsInto (Loading.after a s done).state := Loading.loadsInto_after a s done
  have hstored : ∀ name ∈ order.modules, (Loading.after a s done).state.store.has name := by
    intro name hname
    rw [Store.has, ← hstate.store.isSome_get?]
    exact has_of_order horder name hname
  rw [outcome_gather] at h
  cases hmodules : entriesOf (Loading.after a s done).state.store order with
  | error missing =>
    rw [hmodules] at h
    cases h
    exact .inl (entriesOf_eq_error hstored hmodules)
  | ok modules =>
    simp only [hmodules, bind, Except.bind] at h
    split at h
    · next hneeds =>
      rcases hhelper : a.helperEntry.outcome (Loading.after a s done).state with ⟨e' | entry, t⟩
      · rw [hhelper] at h
        cases h
        refine (helperEntry_eq_error hhelper).imp fun fault hfault => ?_
        rw [hstate.files] at hfault
        exact .helper horder (passes_of_checkNames hfilters) hdone hloaded hmodules hneeds hfault
      · rw [hhelper] at h
        cases h
    · cases h

theorem outcome_gather_serialize_eq_error {t : BuildState}
    (h : (a.gather order >>= fun entries => return serializeEntries entries).outcome t =
      (.error e, s')) : ((a.gather order).outcome t).1 = .error e := by
  rcases outcome_bind_eq_error_iff.1 h with hgather | ⟨entries, u, -, hreturn⟩
  · rw [hgather]
  · cases hreturn

/-- Whether its loads come in turn or run at once, an assembly of the array fails with an error of
bundles or with a fault that is due. -/
theorem Request.Ends.ofBundleOr (htyped : a.config.Typed)
    (h : Request.array.Ends a s (.error e) s') :
    e.OfBundleOr (a.Escapes s) := by
  have hfinish : Request.array.finish? a =
      some fun entries => return serializeEntries entries := rfl
  cases h with
  | inTurn h =>
    rw [Request.run_eq hfinish] at h
    rcases outcome_assembleEntries_bind a s _ with
      ⟨e', hstops, hout⟩ | ⟨order, pending, horder, hfilters, hpending, hout⟩
    · cases hout.symm.trans h
      exact hstops.ofBundleOr htyped
    · obtain ⟨-, rfl⟩ := modulesToLoad_eq_ok_iff.1 hpending
      rw [hout, outcome_bind] at h
      rcases Loading.outcome_loadAll a s (order.modules.filter (lacksCode s.store)) with
        ⟨hload, hloaded⟩ | ⟨done, e', hdone, hload, herrors⟩
      · rw [hload] at h
        exact gather_ofBundleOr horder hfilters (.refl _) hloaded
          (outcome_gather_serialize_eq_error h)
      · rw [hload] at h
        cases h
        exact loads_ofBundleOr horder hfilters hdone.subset (by simp [herrors])
  | atOnce hfinish' horder hfilters hpending hdone hloaded hend =>
    cases hfinish.symm.trans hfinish'
    obtain ⟨-, rfl⟩ := modulesToLoad_eq_ok_iff.1 hpending
    exact gather_ofBundleOr horder hfilters hdone hloaded
      (outcome_gather_serialize_eq_error hend)
  | failed _ horder hfilters hpending _ hdone he =>
    obtain ⟨-, rfl⟩ := modulesToLoad_eq_ok_iff.1 hpending
    exact loads_ofBundleOr horder hfilters hdone he

theorem outcome_assembleArray_of_order_error (h : a.order s.files s.store = .error e) :
    a.assembleArray.outcome s = (.error e, s) := by
  rw [outcome_assembleArray]
  simp only [assembleEntries_eq, outcome_bind, outcome_get, outcome_liftResult, h]
  rfl

theorem order_of_entry {setting : String} (hsetting : a.config.entryModule = .text setting)
    (hpath : ¬ (a.config.projectDir / setting).isValid) :
    a.order fs store = .error (.fault .badValue) := by
  have hentry : a.entryName fs = .error .badValue := by
    rw [entryName, hsetting, resolveSetting, FileTree.resolve, if_neg hpath]
    rfl
  rw [order, hentry]
  rfl

theorem checkNames_of_pattern {compile : PatternCompiler}
    {excludePatterns includePatterns before after : List Value} {setting : Value}
    {names : List String}
    (hpatterns : excludePatterns ++ includePatterns = before ++ setting :: after)
    (hbefore : ∀ other ∈ before, Compiles compile other)
    (hsetting : compilePattern compile setting = .error (.fault fault)) :
    checkNames compile excludePatterns includePatterns names = .error (.fault fault) := by
  obtain ⟨tests, htests⟩ := exists_mapM_eq_ok_iff.2 hbefore
  rw [checkNames_eq_fault_iff, hpatterns, List.mapM_append, htests, List.mapM_cons, hsetting]
  rfl

theorem mem_errors_of_garbled (h : s.files.Garbled (a.codeFile name) fault) :
    .fault fault ∈ (Loading.after a s [name]).errors := by
  have hone : Loading.after a s [name] = (Loading.after a s []).complete a name :=
    Loading.after_concat a s [] name
  rw [hone, Loading.complete, Loading.after_nil, outcome_loadModule_of_garbled h]
  simp

theorem outcome_gather_of_helperFault {modules : List Entry}
    (hmodules : entriesOf s.store order = .ok modules) (hneeds : a.needsHelper order)
    (h : a.HelperFault s.files fault) :
    (a.gather order).outcome s = (.error (.fault fault), s) := by
  have hhelper := outcome_helperEntry_of_helperFault h
  simp only [gather, outcome_bind, outcome_get, outcome_liftResult, hmodules, if_pos hneeds,
    hhelper]

/-- Each fault that is due stops some assembly of the array. -/
theorem Escapes.exists_ends (h : a.Escapes s fault) :
    ∃ s', Request.array.Ends a s (.error (.fault fault)) s' := by
  have hpending {order : ModuleOrder} (horder : a.order s.files s.store = .ok order) :
      modulesToLoad s.store order.modules = .ok (order.modules.filter (lacksCode s.store)) :=
    modulesToLoad_eq_ok_iff.2 ⟨has_of_order horder, rfl⟩
  cases h with
  | entry hsetting hpath =>
    exact ⟨s, .inTurn (outcome_assembleArray_of_order_error (order_of_entry hsetting hpath))⟩
  | pattern horder hpatterns hbefore hsetting =>
    exact ⟨s, .inTurn (outcome_assembleArray_of_refused horder
      (checkNames_of_pattern hpatterns hbefore hsetting))⟩
  | @code order name _ horder hpasses hname hlacks hgarbled =>
    have hmem : [name] ⊆ order.modules.filter (lacksCode s.store) :=
      List.cons_subset.2 ⟨List.mem_filter.2 ⟨hname, hlacks⟩, List.nil_subset _⟩
    exact ⟨_, .failed rfl horder (checkNames_of_passes hpasses) (hpending horder)
      (List.nodup_singleton name) hmem (mem_errors_of_garbled hgarbled)⟩
  | @helper order done modules _ horder hpasses hdone hloaded hmodules hneeds hhelper =>
    have hfiles : (Loading.after a s done).state.files = s.files :=
      (Loading.loadsInto_after a s done).files
    rw [← hfiles] at hhelper
    refine ⟨(Loading.after a s done).state,
      .atOnce rfl horder (checkNames_of_passes hpasses) (hpending horder) hdone hloaded ?_⟩
    rw [outcome_bind, outcome_gather_of_helperFault hmodules hneeds hhelper]

end Ends

/-- Where all settings are of their kind, an assembly of the array comes to a text, whatever the
bytes of all files are and however its loads run, or it fails with an error of bundles or with a
fault that is due; it never looks up a name that is not stored. Each fault that is due stops some
assembly. -/
theorem array_failures (a : Assembler) (s : BuildState) (htyped : a.config.Typed) :
    (∀ result s', Request.array.Ends a s result s' →
      (∃ text, result = .ok text) ∨
        ∃ e, result = .error e ∧ (e.OfBundle ∨ ∃ fault, e = .fault fault ∧ a.Escapes s fault)) ∧
      ∀ fault, a.Escapes s fault → ∃ s', Request.array.Ends a s (.error (.fault fault)) s' := by
  refine ⟨fun result s' hends => ?_, fun fault hescapes => hescapes.exists_ends⟩
  cases result with
  | ok text => exact .inl ⟨text, rfl⟩
  | error e => exact .inr ⟨e, rfl, hends.ofBundleOr htyped⟩

def targeted : Assembler :=
  { circleAssembler with
    config :=
      { circleAssembler.config with
        compiler := { circleAssembler.config.compiler with target := .text "ES5" } } }

theorem typed_targeted : targeted.config.Typed where
  entryModule := ⟨_, rfl⟩
  entryFunction := ⟨_, rfl⟩
  target := ⟨_, rfl⟩
  paths := nofun
  ambientModules := nofun
  amdRequireName := ⟨_, rfl⟩
  commonjsRequireName := ⟨_, rfl⟩
  preferCommonjs := ⟨_, rfl⟩
  minify := ⟨_, rfl⟩
  embedHelper := ⟨_, rfl⟩
  noLoaderCode := ⟨_, rfl⟩
  errorHandlerName := .inl rfl
  evalCapability := ⟨_, rfl⟩
  patterns := nofun
  minifyOptions := nofun

def garbledState : BuildState where
  files := FileTree.mk [] [(["main.js"], .file ⟨#[0xff]⟩)]
  store := .ofRecords [{ name := "/main" }]
  calls := []
  minifiedLoader := none

theorem array_failures_garbled :
    targeted.config.Typed ∧
      (∀ result s', Request.array.Ends targeted garbledState result s' →
        ∀ name, result ≠ .error (.unknownModule name)) ∧
      ∃ s', Request.array.Ends targeted garbledState (.error (.fault .badEncoding)) s' := by
  obtain ⟨hends, hescapes⟩ := array_failures targeted garbledState typed_targeted
  have hgarbled : garbledState.files.Garbled (targeted.codeFile "/main") .badEncoding :=
    FileSystem.garbled_iff.2 ⟨.badEncoding, by decide, rfl⟩
  have horder : targeted.order garbledState.files garbledState.store =
      .ok (garbledState.store.order "/main") := rfl
  have hlisted : "/main" ∈ (garbledState.store.order "/main").modules := by decide
  have hescapes' := hescapes _ (.code horder (passes_nil _ _) hlisted (by decide) hgarbled)
  refine ⟨typed_targeted, ?_, hescapes'⟩
  rintro _ s' h name rfl
  rcases hends _ _ h with ⟨text, ⟨⟩⟩ | ⟨e, he, hbundle | ⟨fault, rfl, -⟩⟩
  · cases he
    cases hbundle
  · cases he

/-- Bytes that are no text stop an assembly with a fault, not with an error of bundles. -/
theorem assembleArray_garbled :
    targeted.config.Typed ∧
      targeted.assembleArray.outcome garbledState = (.error (.fault .badEncoding), garbledState) ∧
      ¬ (Error.fault .badEncoding).OfBundle :=
  ⟨typed_targeted, rfl, nofun⟩

end Assembler

end ModulePack
