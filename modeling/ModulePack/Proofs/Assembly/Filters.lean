import ModulePack.Proofs.Assembly.Entries

/-!
# Filters of modules

An assembly holds the modules of its order against the configured patterns before it does anything
else. If they pass, the patterns change nothing. If they do not, it stops and leaves all as it is,
and the error names the modules that are to blame. A pattern that cannot be used stops it as well,
whatever the names are. What is absent is no module of the order, so it is held against no pattern.
-/

namespace ModulePack

def Compiles (compile : PatternCompiler) (setting : Value) : Prop :=
  ∃ test, compilePattern compile setting = .ok test

def Accepts (compile : PatternCompiler) (setting : Value) (name : String) : Prop :=
  ∃ test, compilePattern compile setting = .ok test ∧ test name

/-- Whether a list holds those of the names of which something is so, in their order. -/
def PickedFrom (names : List String) (P : String → Prop) (picked : List String) : Prop :=
  ∃ p : String → Bool, (∀ name, p name ↔ P name) ∧ picked = names.filter p

variable {compile : PatternCompiler} {excludePatterns includePatterns patterns : List Value}
  {names : List String} {barring admitting tests : List (String → Bool)} {e : Error}

structure Passes (compile : PatternCompiler) (excludePatterns includePatterns : List Value)
    (names : List String) : Prop where
  compiles : ∀ setting ∈ excludePatterns ++ includePatterns, Compiles compile setting
  notExcluded : ∀ name ∈ names, ∀ setting ∈ excludePatterns, ¬ Accepts compile setting name
  included : includePatterns ≠ [] → ∀ name ∈ names, ∃ setting ∈ includePatterns,
    Accepts compile setting name

/-- The error that is due where names do not pass the configured patterns. -/
inductive Objection (compile : PatternCompiler) (excludePatterns includePatterns : List Value)
    (names : List String) : Error → Prop
  /-- The first pattern that cannot be used comes before all names. -/
  | pattern {before after : List Value} {setting : Value} {e : Error}
      (h : excludePatterns ++ includePatterns = before ++ setting :: after)
      (hbefore : ∀ other ∈ before, Compiles compile other)
      (hsetting : compilePattern compile setting = .error e) :
      Objection compile excludePatterns includePatterns names e
  | excluded {picked : List String}
      (hcompile : ∀ setting ∈ excludePatterns ++ includePatterns, Compiles compile setting)
      (hpicked : PickedFrom names
        (fun name => ∃ setting ∈ excludePatterns, Accepts compile setting name) picked)
      (hne : picked ≠ []) :
      Objection compile excludePatterns includePatterns names (.bundle (.excluded picked))
  | notIncluded {picked : List String}
      (hcompile : ∀ setting ∈ excludePatterns ++ includePatterns, Compiles compile setting)
      (hnone : ∀ name ∈ names, ∀ setting ∈ excludePatterns, ¬ Accepts compile setting name)
      (hlisted : includePatterns ≠ [])
      (hpicked : PickedFrom names
        (fun name => ∀ setting ∈ includePatterns, ¬ Accepts compile setting name) picked)
      (hne : picked ≠ []) :
      Objection compile excludePatterns includePatterns names (.bundle (.notIncluded picked))

theorem PickedFrom.mem_iff {P : String → Prop} {picked : List String}
    (h : PickedFrom names P picked) {name : String} : name ∈ picked ↔ name ∈ names ∧ P name := by
  obtain ⟨p, hp, rfl⟩ := h
  rw [List.mem_filter, hp]

theorem PickedFrom.not_of_nil {P : String → Prop} (h : PickedFrom names P []) :
    ∀ name ∈ names, ¬ P name :=
  fun _ hname hP => List.not_mem_nil (h.mem_iff.2 ⟨hname, hP⟩)

theorem Objection.not_passes (h : Objection compile excludePatterns includePatterns names e) :
    ¬ Passes compile excludePatterns includePatterns names := by
  intro hpasses
  cases h with
  | @pattern _ _ setting _ hpatterns _ hsetting =>
    have hmem : setting ∈ excludePatterns ++ includePatterns := by simp [hpatterns]
    obtain ⟨test, htest⟩ := hpasses.compiles setting hmem
    cases hsetting.symm.trans htest
  | excluded _ hpicked hne =>
    obtain ⟨name, hname⟩ := List.exists_mem_of_ne_nil _ hne
    obtain ⟨hmem, setting, hsetting, haccepts⟩ := hpicked.mem_iff.1 hname
    exact hpasses.notExcluded name hmem setting hsetting haccepts
  | notIncluded _ _ hlisted hpicked hne =>
    obtain ⟨name, hname⟩ := List.exists_mem_of_ne_nil _ hne
    obtain ⟨hmem, hnone⟩ := hpicked.mem_iff.1 hname
    obtain ⟨setting, hsetting, haccepts⟩ := hpasses.included hlisted name hmem
    exact hnone setting hsetting haccepts

/-- A pattern is refused as malformed, or is a fault of its own. -/
theorem compilePattern_eq_error {setting : Value} (h : compilePattern compile setting = .error e) :
    e = .bundle .invalidPattern ∨ ∃ fault, e = .fault fault := by
  unfold compilePattern at h
  split at h
  · split at h
    · cases h
    all_goals
      cases h
      simp
  · cases h
    simp

theorem Objection.bundle_or_fault (h : Objection compile excludePatterns includePatterns names e) :
    (∃ refused, e = .bundle refused) ∨
      ∃ setting ∈ excludePatterns ++ includePatterns, ∃ fault,
        compilePattern compile setting = .error (.fault fault) ∧ e = .fault fault := by
  cases h with
  | @pattern _ _ setting _ hpatterns _ hsetting =>
    rcases compilePattern_eq_error hsetting with rfl | ⟨fault, rfl⟩
    · exact .inl ⟨_, rfl⟩
    · exact .inr ⟨setting, by simp [hpatterns], fault, hsetting, rfl⟩
  | excluded => exact .inl ⟨_, rfl⟩
  | notIncluded => exact .inl ⟨_, rfl⟩

section Verdict

theorem any_iff_accepts (h : patterns.mapM (compilePattern compile) = .ok tests) (name : String) :
    tests.any (· name) ↔ ∃ setting ∈ patterns, Accepts compile setting name := by
  simp only [List.any_eq_true, mem_iff_of_mapM_eq_ok h]
  constructor
  · rintro ⟨test, ⟨setting, hsetting, htest⟩, haccepts⟩
    exact ⟨setting, hsetting, test, htest, haccepts⟩
  · rintro ⟨setting, hsetting, test, htest, haccepts⟩
    exact ⟨test, ⟨setting, hsetting, htest⟩, haccepts⟩

theorem pickedFrom_acceptedNames (h : patterns.mapM (compilePattern compile) = .ok tests) :
    PickedFrom names (fun name => ∃ setting ∈ patterns, Accepts compile setting name)
      (acceptedNames tests names) :=
  ⟨_, any_iff_accepts h, rfl⟩

theorem pickedFrom_rejectedNames (h : patterns.mapM (compilePattern compile) = .ok tests) :
    PickedFrom names (fun name => ∀ setting ∈ patterns, ¬ Accepts compile setting name)
      (rejectedNames tests names) := by
  refine ⟨_, fun name => ?_, rfl⟩
  rw [Bool.not_eq_true', Bool.eq_false_iff, Ne, any_iff_accepts h]
  simp only [not_exists, not_and]

theorem compiles_of_mapM (hbarring : excludePatterns.mapM (compilePattern compile) = .ok barring)
    (hadmitting : includePatterns.mapM (compilePattern compile) = .ok admitting) :
    ∀ setting ∈ excludePatterns ++ includePatterns, Compiles compile setting :=
  List.forall_mem_append.2
    ⟨exists_mapM_eq_ok_iff.1 ⟨barring, hbarring⟩, exists_mapM_eq_ok_iff.1 ⟨admitting, hadmitting⟩⟩

/-- The verdict under patterns that can all be used. -/
theorem judgeNames_spec (hbarring : excludePatterns.mapM (compilePattern compile) = .ok barring)
    (hadmitting : includePatterns.mapM (compilePattern compile) = .ok admitting) :
    (judgeNames barring admitting names).mapError Error.bundle = .ok () ∧
        Passes compile excludePatterns includePatterns names ∨
      ∃ e, (judgeNames barring admitting names).mapError Error.bundle = .error e ∧
        Objection compile excludePatterns includePatterns names e := by
  have hcompile := compiles_of_mapM hbarring hadmitting
  have hexcluded : PickedFrom names _ _ := pickedFrom_acceptedNames hbarring
  have hrejected : PickedFrom names _ _ := pickedFrom_rejectedNames hadmitting
  have hlisted : admitting = [] ↔ includePatterns = [] := by
    rw [← List.length_eq_zero_iff, ← (mapM_eq_ok_iff.1 hadmitting).length_eq,
      List.length_eq_zero_iff]
  by_cases hnone : acceptedNames barring names = []
  · rw [hnone] at hexcluded
    have hnotExcluded : ∀ name ∈ names, ∀ setting ∈ excludePatterns,
        ¬ Accepts compile setting name := fun name hname setting hsetting haccepts =>
      hexcluded.not_of_nil name hname ⟨setting, hsetting, haccepts⟩
    by_cases hmissed : includePatterns ≠ [] ∧ rejectedNames admitting names ≠ []
    · refine .inr ⟨_, ?_, .notIncluded hcompile hnotExcluded hmissed.1 hrejected hmissed.2⟩
      simp [judgeNames, hnone, hlisted, hmissed, Except.mapError]
    · refine .inl ⟨?_, hcompile, hnotExcluded, fun hinclude name hname => ?_⟩
      · rw [not_and_or, not_not, not_not] at hmissed
        rcases hmissed with hempty | hempty <;>
          simp [judgeNames, hnone, hlisted, hempty, Except.mapError]
      · rw [not_and, not_not] at hmissed
        rw [hmissed hinclude] at hrejected
        simpa only [not_forall, not_not, exists_prop] using hrejected.not_of_nil name hname
  · refine .inr ⟨_, ?_, .excluded hcompile hexcluded hnone⟩
    simp [judgeNames, hnone, Except.mapError]

theorem checkNames_of_accepted
    (hbarring : excludePatterns.mapM (compilePattern compile) = .ok barring)
    (hincluded : ∀ setting ∈ includePatterns, Compiles compile setting)
    (hne : acceptedNames barring names ≠ []) :
    checkNames compile excludePatterns includePatterns names =
      .error (.bundle (.excluded (acceptedNames barring names))) := by
  obtain ⟨admitting, hadmitting⟩ := exists_mapM_eq_ok_iff.2 hincluded
  simp [checkNames, hbarring, hadmitting, judgeNames, hne, bind, Except.bind, Except.mapError]

/-- The verdict on names: they pass, or the error is the one that is due. -/
theorem checkNames_spec (compile : PatternCompiler) (excludePatterns includePatterns : List Value)
    (names : List String) :
    checkNames compile excludePatterns includePatterns names = .ok () ∧
        Passes compile excludePatterns includePatterns names ∨
      ∃ e, checkNames compile excludePatterns includePatterns names = .error e ∧
        Objection compile excludePatterns includePatterns names e := by
  rw [checkNames]
  cases hbarring : excludePatterns.mapM (compilePattern compile) with
  | error e =>
    obtain ⟨before, setting, after, rfl, hbefore, hsetting⟩ := exists_of_mapM_eq_error hbarring
    exact .inr ⟨e, rfl, .pattern (List.append_assoc _ _ _) hbefore hsetting⟩
  | ok barring =>
    cases hadmitting : includePatterns.mapM (compilePattern compile) with
    | error e =>
      obtain ⟨before, setting, after, rfl, hbefore, hsetting⟩ := exists_of_mapM_eq_error hadmitting
      have hall : ∀ other ∈ excludePatterns ++ before, Compiles compile other :=
        List.forall_mem_append.2 ⟨exists_mapM_eq_ok_iff.1 ⟨barring, hbarring⟩, hbefore⟩
      exact .inr ⟨e, rfl, .pattern (List.append_assoc _ _ _).symm hall hsetting⟩
    | ok admitting =>
      exact judgeNames_spec hbarring hadmitting

end Verdict

namespace Assembler

open Build

variable {a : Assembler} {s : BuildState} {entry : String}

def unfiltered (a : Assembler) : Assembler :=
  { a with config := { a.config with excludePatterns := [], includePatterns := [] } }

theorem order_of_stored (hentry : a.entryName s.files = .ok entry) (hstored : s.store.has entry) :
    a.order s.files s.store = .ok (s.store.order entry) := by
  rw [order, hentry]
  simp only [Except.mapError, bind, Except.bind, if_pos hstored]
  rfl

/-- A verdict against the names is the last that is done. -/
theorem outcome_assembleArray_of_refused {order : ModuleOrder}
    (horder : a.order s.files s.store = .ok order)
    (hrefused : a.checkModules order = .error e) :
    a.assembleArray.outcome s = (.error e, s) := by
  rw [outcome_assembleArray]
  simp only [assembleEntries_eq, outcome_bind, outcome_get, outcome_liftResult, horder, hrefused]
  rfl

theorem passes_nil (compile : PatternCompiler) (names : List String) : Passes compile [] [] names :=
  ⟨by simp, by simp, by simp⟩

theorem checkNames_of_passes (h : Passes compile excludePatterns includePatterns names) :
    checkNames compile excludePatterns includePatterns names = .ok () := by
  rcases checkNames_spec compile excludePatterns includePatterns names with
    ⟨hok, -⟩ | ⟨e, -, hobjection⟩
  · exact hok
  · exact absurd h hobjection.not_passes

theorem passes_of_checkNames
    (h : checkNames compile excludePatterns includePatterns names = .ok ()) :
    Passes compile excludePatterns includePatterns names := by
  rcases checkNames_spec compile excludePatterns includePatterns names with
    ⟨-, hpasses⟩ | ⟨e, he, -⟩
  · exact hpasses
  · cases h.symm.trans he

/-- Patterns that the names pass change nothing. -/
theorem outcome_assembleArray_of_passes {order : ModuleOrder}
    (horder : a.order s.files s.store = .ok order)
    (h : Passes a.compile a.config.excludePatterns a.config.includePatterns order.modules) :
    a.assembleArray.outcome s = a.unfiltered.assembleArray.outcome s := by
  have horder' : a.unfiltered.order s.files s.store = .ok order := horder
  have hall : a.checkModules order = .ok () := checkNames_of_passes h
  have hnone : a.unfiltered.checkModules order = .ok () :=
    checkNames_of_passes (passes_nil _ order.modules)
  have halike : Alike a a.unfiltered := ⟨rfl, rfl, rfl, rfl, rfl⟩
  rw [outcome_assembleArray, outcome_assembleArray]
  simp only [assembleEntries_eq, outcome_bind, outcome_get, outcome_liftResult, horder, horder',
    hall, hnone, halike.loadMissing_eq, halike.gather_eq]

/-- Where the entry module is stored, an assembly succeeds only if the modules of its order pass the
configured patterns, whatever compiles these. If they pass, it does what it does without patterns.
If they do not, it leaves all as it is and gives the error that is due, as does every assembly with
these patterns and these modules, whatever is absent from its store and whether the helpers are
wanted. The error is one of bundles, but for a fault of a pattern. No absent name is one of the
modules. -/
theorem assembleArray_filtered (a : Assembler) (s : BuildState) (entry : String)
    (hentry : a.entryName s.files = .ok entry) (hstored : s.store.has entry) :
    let order := s.store.order entry
    let patterns := a.config.excludePatterns ++ a.config.includePatterns
    let passes := Passes a.compile a.config.excludePatterns a.config.includePatterns order.modules
    let objection :=
      Objection a.compile a.config.excludePatterns a.config.includePatterns order.modules
    (∀ text t, a.assembleArray.outcome s = (.ok text, t) → passes) ∧
      (passes → a.assembleArray.outcome s = a.unfiltered.assembleArray.outcome s) ∧
      (¬ passes → ∃ e, objection e ∧ a.assembleArray.outcome s = (.error e, s) ∧
        ∀ (b : Assembler) (t : BuildState) (other : String), b.compile = a.compile →
          b.config.excludePatterns = a.config.excludePatterns →
          b.config.includePatterns = a.config.includePatterns →
          b.entryName t.files = .ok other → t.store.has other →
          (t.store.order other).modules = order.modules →
            b.assembleArray.outcome t = (.error e, t)) ∧
      (∀ e, objection e → (∃ refused, e = .bundle refused) ∨
        ∃ setting ∈ patterns, ∃ fault, compilePattern a.compile setting = .error (.fault fault) ∧
          e = .fault fault) ∧
      (∀ picked, (Error.bundle (.excluded picked)).message? =
        some ("Blacklisted module(s) included in bundle: " ++ Text.join ", " picked)) ∧
      (∀ picked, (Error.bundle (.notIncluded picked)).message? =
        some ("Module(s) not matching any whitelist regexp included in bundle: " ++
          Text.join ", " picked)) ∧
      ∀ name ∈ order.absent, name ∉ order.modules := by
  intro order patterns passes objection
  have horder : a.order s.files s.store = .ok order := order_of_stored hentry hstored
  have hrefused (hfails : ¬ passes) : ∃ e,
      a.checkModules order = .error e ∧ objection e := by
    rcases checkNames_spec a.compile a.config.excludePatterns a.config.includePatterns
      order.modules with ⟨-, hpasses⟩ | hrefused
    · exact absurd hpasses hfails
    · exact hrefused
  refine ⟨fun text t htext => ?_, outcome_assembleArray_of_passes horder, fun hfails => ?_,
    fun e he => he.bundle_or_fault, fun _ => rfl, fun _ => rfl,
    fun name habsent => Store.notMem_modules_of_mem_absent hstored habsent⟩
  · by_contra hfails
    obtain ⟨e, he, -⟩ := hrefused hfails
    cases htext.symm.trans (outcome_assembleArray_of_refused horder he)
  · obtain ⟨e, he, hobjection⟩ := hrefused hfails
    refine ⟨e, hobjection, outcome_assembleArray_of_refused horder he, ?_⟩
    intro b t other hcompile hexclude hinclude hother hhas hmodules
    refine outcome_assembleArray_of_refused (order_of_stored hother hhas) ?_
    rw [checkModules] at he
    rw [checkModules, hcompile, hexclude, hinclude, hmodules, he]

def filtering (excludePatterns includePatterns : List String) : Assembler where
  config :=
    { projectDir := ⟨.root, ["p"]⟩
      entryModule := .text "main.ts"
      entryFunction := .text "run"
      outFile := ⟨.root, ["p", "bundle.js"]⟩
      compiler := default
      excludePatterns := excludePatterns.map .text
      includePatterns := includePatterns.map .text }
  specifiers := ⟨⟨.root, ["p"]⟩, .listed [], []⟩
  minifier := .identity

def debuggingState : BuildState where
  files := FileTree.mk [] []
  store := .ofRecords
    [{ name := "/main", dependencies := ["react", "/debug/a", "tslib"], code := some "m" },
      { name := "/debug/a" }]
  calls := []
  minifiedLoader := none

theorem assembleArray_filtered_debugging :
    (filtering ["debug"] ["main"]).entryName debuggingState.files = .ok "/main" ∧
      debuggingState.store.has "/main" ∧
      Objection Pattern.compile [.text "debug"] [.text "main"] ["/debug/a", "/main"]
        (.bundle (.excluded ["/debug/a"])) ∧
      (filtering ["debug"] ["main"]).assembleArray.outcome debuggingState =
        (.error (.bundle (.excluded ["/debug/a"])), debuggingState) := by
  have hentry : (filtering ["debug"] ["main"]).entryName debuggingState.files = .ok "/main" := rfl
  have hstored : debuggingState.store.has "/main" := by decide
  have hmodules : (debuggingState.store.order "/main").modules = ["/debug/a", "/main"] := by decide
  have hverdict : checkNames Pattern.compile [.text "debug"] [.text "main"] ["/debug/a", "/main"] =
      .error (.bundle (.excluded ["/debug/a"])) := by
    have hdebug : ([Value.text "debug"].mapM (compilePattern Pattern.compile)).toOption.map
        (acceptedNames · ["/debug/a", "/main"]) = some ["/debug/a"] := by decide +kernel
    have hmain : (compilePattern Pattern.compile (.text "main")).toOption.isSome := by
      decide +kernel
    obtain ⟨barring, hbarring, haccepted⟩ := Option.map_eq_some_iff.1 hdebug
    obtain ⟨test, htest⟩ := Option.isSome_iff_exists.1 hmain
    have hincluded : ∀ setting ∈ [Value.text "main"], Compiles Pattern.compile setting :=
      List.forall_mem_singleton.2 ⟨test, toOption_eq_some_iff.1 htest⟩
    rw [checkNames_of_accepted (toOption_eq_some_iff.1 hbarring) hincluded (by simp [haccepted]),
      haccepted]
  obtain ⟨-, -, hrefused, -⟩ :=
    assembleArray_filtered (filtering ["debug"] ["main"]) debuggingState "/main" hentry hstored
  rw [hmodules] at hrefused
  obtain ⟨e, hobjection, hout, -⟩ := hrefused fun hpasses => by
    cases (checkNames_of_passes hpasses).symm.trans hverdict
  have hout' := outcome_assembleArray_of_refused (order_of_stored hentry hstored)
    (hmodules.symm ▸ hverdict)
  cases hout.symm.trans hout'
  exact ⟨hentry, hstored, hobjection, hout⟩

/-- A count that no pattern can have stops an assembly with a fault, not an error of bundles. -/
theorem assembleArray_countTooLarge :
    (filtering ["a\x7b4294967296\x7d"] []).entryName debuggingState.files = .ok "/main" ∧
      debuggingState.store.has "/main" ∧ ¬ Compiles Pattern.compile (.text "a\x7b4294967296\x7d") ∧
      (filtering ["a\x7b4294967296\x7d"] []).assembleArray.outcome debuggingState =
        (.error (.fault .countTooLarge), debuggingState) := by
  have hentry : (filtering ["a\x7b4294967296\x7d"] []).entryName debuggingState.files =
      .ok "/main" := rfl
  have hstored : debuggingState.store.has "/main" := by decide
  have hread : Pattern.parse "a\x7b4294967296\x7d" = .error .countTooLarge := by
    -- Equality of patterns is not decidable, that of errors is.
    have herror : (Pattern.parse "a\x7b4294967296\x7d").map (fun _ => ()) =
        .error .countTooLarge := by decide +kernel
    generalize Pattern.parse "a\x7b4294967296\x7d" = read at herror
    cases read <;> cases herror
    rfl
  have hcompile : compilePattern Pattern.compile (.text "a\x7b4294967296\x7d") =
      .error (.fault .countTooLarge) := by
    rw [compilePattern, Pattern.compile, hread]
    rfl
  refine ⟨hentry, hstored, ?_, ?_⟩
  · rintro ⟨test, htest⟩
    cases hcompile.symm.trans htest
  · refine outcome_assembleArray_of_refused (order_of_stored hentry hstored) ?_
    have hcompiler : (filtering ["a\x7b4294967296\x7d"] []).compile = Pattern.compile := rfl
    have hpatterns : (filtering ["a\x7b4294967296\x7d"] []).config.excludePatterns =
        [.text "a\x7b4294967296\x7d"] := rfl
    rw [checkModules, hcompiler, hpatterns, checkNames, List.mapM_cons, hcompile]
    rfl

end Assembler

end ModulePack
