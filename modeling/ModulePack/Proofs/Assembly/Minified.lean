import ModulePack.Proofs.Assembly.Schedule
import ModulePack.Proofs.Minify.Expression

/-!
# Assembling with a minifier that changes nothing

A minifier that leaves all code as it is makes no difference to a bundle but for the ends of the
code that is loaded: it is released from a program, so white space around it and a semicolon behind
it are gone. Two assemblies are compared that differ in the setting alone. They go through the same
order and the same files, so each load, each entry and the helpers of one settle those of the other.
-/

namespace ModulePack

open Build Text

def Entry.released (store : Store) (e : Entry) : Entry :=
  if Assembler.lacksCode store e.name then { e with code := bareExpression e.code } else e

/-- Whether nothing is left of the loaded code of an entry when it is released. -/
def Entry.Emptied (store : Store) (e : Entry) : Prop :=
  Assembler.lacksCode store e.name ∧ bareExpression e.code = ""

theorem Entry.released_eq_self {store : Store} {e : Entry}
    (h : Assembler.lacksCode store e.name → bareExpression e.code = e.code) :
    e.released store = e := by
  rw [Entry.released]
  split
  · next hlacks => rw [h hlacks]
  · rfl

theorem Entry.released_of_hasCode {store : Store} {e : Entry}
    (h : Assembler.lacksCode store e.name = false) : e.released store = e :=
  released_eq_self fun hlacks => absurd (h.symm.trans hlacks) Bool.false_ne_true

namespace Assembler

def minifying (a : Assembler) (minify : Value) : Assembler :=
  { a with config := { a.config with minify } }

/-- The helpers are a function, so nothing of them is lost in a program. -/
theorem bareExpression_helperCode (code : String) :
    bareExpression (helperCode code) = helperCode code := by
  have hcode : helperCode code =
    "function(global)\x7bvar define=function()\x7b\x7d;" ++ code ++ "\x7d" := rfl
  have htext : (helperCode code).toList =
      "function(global)\x7bvar define=function()\x7b\x7d;".toList ++ code.toList ++ ['\x7d'] := by
    rw [hcode, String.toList_append, String.toList_append]
    rfl
  have hlast : (helperCode code).toList.getLast? ≠ some ';' := by
    rw [htext, List.getLast?_concat]
    decide
  refine bareExpression_eq_self ?_ ?_ hlast
  · rw [htext, List.append_assoc]
    exact solidStart_cons rfl _
  · rw [htext]
    exact solidEnd_concat rfl _

section Parts

variable {a : Assembler} {minify : Value} {s s' t : BuildState} {fs : FileSystem} {name : String}
  {order : ModuleOrder} {entries : List Entry}

def unchanged (call : MinifyCall) : Except MinifyError String := .ok call.code

theorem minified_of_off (hoff : a.config.minify.isTruthy = false) (code label : String) :
    a.minified unchanged code label = .ok code := by
  rw [minified, hoff]
  rfl

theorem minified_of_on (hon : minify.isTruthy) (code label : String) :
    (a.minifying minify).minified unchanged code label = .ok (bareExpression code) := by
  have hsetting : (a.minifying minify).config.minify.isTruthy := hon
  rw [minified, if_pos hsetting, ← releaseExpression_holdExpression]
  rfl

theorem produced_minifying (hoff : a.config.minify.isTruthy = false) (hon : minify.isTruthy)
    (fs : FileSystem) (name : String) :
    (a.minifying minify).produced unchanged fs name =
      (a.produced unchanged fs name).map bareExpression := by
  have hfile : (a.minifying minify).codeFile name = a.codeFile name := rfl
  rw [produced, produced, hfile]
  cases fileText fs (a.codeFile name) (.codeUnreadable (a.codeFile name) name) with
  | error e => rfl
  | ok text =>
    have hplain := minified_of_off hoff text name
    have hreleased := minified_of_on (a := a) hon text name
    exact hreleased.trans (congrArg (Except.map bareExpression) hplain.symm)

theorem codeOf?_minifying (hoff : a.config.minify.isTruthy = false) (hon : minify.isTruthy)
    (fs : FileSystem) (r : Record) :
    (a.minifying minify).codeOf? unchanged fs r =
      (a.codeOf? unchanged fs r).map fun code =>
        if r.hasCode then code else bareExpression code := by
  rw [codeOf?, codeOf?]
  by_cases hcode : r.hasCode
  · simp [hcode]
  · simp only [if_neg hcode, produced_minifying hoff hon]
    cases a.produced unchanged fs r.name <;> rfl

theorem outcome_loadMissing_minifying {names : List String} (hidentity : a.minifier = .identity)
    (hoff : a.config.minify.isTruthy = false) (hon : minify.isTruthy)
    (hstored : ∀ name ∈ names, s.store.has name)
    (hload : (a.loadMissing names).outcome s = (.ok (), s')) :
    a.Loads unchanged s s' names ∧ ∃ t,
      ((a.minifying minify).loadMissing names).outcome s = (.ok (), t) ∧
        (a.minifying minify).Loads unchanged s t names := by
  have hloads : a.Loads unchanged s s' names := by
    rcases outcome_loadMissing hidentity hstored with
      ⟨t, hout, -, hloads⟩ | ⟨e, t, r, name, hout, -⟩
    · rw [hload] at hout
      cases hout
      exact hloads
    · rw [hload] at hout
      cases hout
  refine ⟨hloads, ?_⟩
  have hidentity : (a.minifying minify).minifier = .ofFunction unchanged := hidentity
  rcases outcome_loadMissing hidentity hstored with
    ⟨t, hout, -, hloads⟩ | ⟨_, _, r, name, -, hname, hr, hnone⟩
  · exact ⟨t, hout, hloads⟩
  · -- A minifier that changes nothing never fails, so a load fails only where the plain one does.
    obtain ⟨q, code, hq, hcode, -⟩ := hloads name hname
    obtain rfl : r = q := Option.some.inj (hr.symm.trans hq)
    rw [codeOf?_minifying hoff hon, hcode] at hnone
    cases hnone

theorem entry_of_get? {store : Store} {r : Record} {code : String}
    (h : store.get? name = some { r with code := some code }) (circular : Bool) :
    (do
      let q ← store.fetch name
      (q.toEntry circular).mapError .bundle : Except Error Entry) =
      if code = "" then .error (.bundle (.codeMissing r.name))
      else .ok ⟨r.name, r.dependencies, r.entryMeta circular, code⟩ := by
  rw [Store.fetch_eq_ok_iff.2 h]
  change ({ r with code := some code }.toEntry circular).mapError Error.bundle = _
  rw [Record.toEntry_eq, Option.getD_some]
  split <;> rfl

/-- The entries of modules are released, unless nothing of the code of one of them is left. -/
theorem entriesOf_minifying (hoff : a.config.minify.isTruthy = false) (hon : minify.isTruthy)
    (hplain : a.Loads unchanged s s' order.modules)
    (hreleased : (a.minifying minify).Loads unchanged s t order.modules)
    (hentries : entriesOf s'.store order = .ok entries) :
    ((∀ e ∈ entries, ¬ e.Emptied s.store) ∧
        entriesOf t.store order = .ok (entries.map (Entry.released s.store))) ∨
      ∃ e ∈ entries, e.Emptied s.store ∧
        entriesOf t.store order = .error (.bundle (.codeMissing e.name)) := by
  refine mapM_eq_map_or_error hentries fun name hname e he => ?_
  obtain ⟨r, code, hr, hcode, hloaded⟩ := hplain name hname
  obtain ⟨q, code', hq, hcode', hloaded'⟩ := hreleased name hname
  obtain rfl : r = q := Option.some.inj (hr.symm.trans hq)
  obtain rfl := Store.name_of_get? hr
  have hlacks : lacksCode s.store r.name = !r.hasCode := by rw [lacksCode, hr, Option.any_some]
  rw [codeOf?_minifying hoff hon, hcode, Option.map_some, Option.some.injEq] at hcode'
  rw [entry_of_get? hloaded] at he
  rw [entry_of_get? hloaded', ← hcode']
  split at he
  · cases he
  next hne =>
    cases he
    simp only [Entry.released, Entry.Emptied, hlacks]
    by_cases hcached : r.hasCode
    · simp [hcached, hne]
    · by_cases hbare : bareExpression code = "" <;> simp [hcached, hbare]

theorem outcome_helperEntry_minifying (hidentity : a.minifier = .identity)
    (hoff : a.config.minify.isTruthy = false) (hon : minify.isTruthy) (h : t.files = s.files) :
    ((a.minifying minify).helperEntry.outcome t).1 = (a.helperEntry.outcome s).1 := by
  refine outcome_helperEntry_congr (f := unchanged) (g := unchanged) hidentity hidentity rfl ?_ h
  intro text
  rw [minified_of_on hon, minified_of_off hoff, bareExpression_helperCode]

/-- The helpers are put behind whatever entries there are. -/
theorem exists_helpers {modules : List Entry} (horder : a.order s.files s.store = .ok order)
    (h : (if a.needsHelper order then (a.helperEntry.outcome t).1.map fun e => modules ++ [e]
      else .ok modules) = .ok entries) :
    ∃ helpers, entries = modules ++ helpers ∧ (∀ e ∈ helpers, lacksCode s.store e.name = false) ∧
      ∀ others, (if a.needsHelper order then (a.helperEntry.outcome t).1.map fun e => others ++ [e]
        else .ok others) = .ok (others ++ helpers) := by
  by_cases hneeds : a.needsHelper order
  · simp only [if_pos hneeds] at h ⊢
    rcases hhelper : a.helperEntry.outcome t with ⟨e | e, t'⟩
    · rw [hhelper] at h
      cases h
    · rw [hhelper] at h
      cases h
      have hname : e.name = helperName := (of_helperEntry hhelper).1
      refine ⟨[e], rfl, ?_, fun others => rfl⟩
      rw [List.forall_mem_singleton, hname]
      exact lacksCode_helper horder hneeds
  · simp only [if_neg hneeds] at h ⊢
    cases h
    exact ⟨[], by simp, by simp, by simp⟩

theorem assembleEntries_minifying (hidentity : a.minifier = .identity)
    (hoff : a.config.minify.isTruthy = false) (hon : minify.isTruthy)
    (hplain : a.assembleEntries.outcome s = (.ok entries, s')) :
    ((∀ e ∈ entries, ¬ e.Emptied s.store) ∧
        ((a.minifying minify).assembleEntries.outcome s).1 =
          .ok (entries.map (Entry.released s.store))) ∨
      ∃ e ∈ entries, e.Emptied s.store ∧ e.code ≠ "" ∧
        ((a.minifying minify).assembleEntries.outcome s).1 =
          .error (.bundle (.codeMissing e.name)) := by
  obtain ⟨order, loaded, horder, hfilters, hload, hgather⟩ := exists_load_of_assembleEntries hplain
  obtain ⟨hloads, t, hload', hloads'⟩ :=
    outcome_loadMissing_minifying hidentity hoff hon (has_of_order horder) hload
  have hrun : (a.minifying minify).assembleEntries.outcome s =
      ((a.minifying minify).gather order).outcome t :=
    outcome_assembleEntries_eq horder hfilters hload'
  have hfiles : t.files = loaded.files :=
    ((onlyLoads_loadMissing _ _).loadsInto hload').files.trans
      ((onlyLoads_loadMissing _ _).loadsInto hload).files.symm
  have hhelper := outcome_helperEntry_minifying hidentity hoff hon hfiles
  have hneeds : (a.minifying minify).needsHelper order = a.needsHelper order := rfl
  have hentries : ((a.gather order).outcome loaded).1 = .ok entries := by rw [hgather]
  rw [outcome_gather, bind_eq_ok_iff] at hentries
  obtain ⟨modules, hmodules, hentries⟩ := hentries
  obtain ⟨helpers, rfl, hcached, hhelpers⟩ := exists_helpers horder hentries
  rw [hrun, outcome_gather, hneeds, hhelper]
  rcases entriesOf_minifying hoff hon hloads hloads' hmodules with
    ⟨hkept, hreleased⟩ | ⟨e, he, hemptied, hrefused⟩
  · left
    have hsame : ∀ e ∈ helpers, e.released s.store = e := fun e he =>
      Entry.released_of_hasCode (hcached e he)
    rw [hreleased, List.map_append, List.map_congr_left hsame, List.map_id']
    refine ⟨?_, hhelpers _⟩
    rw [List.forall_mem_append]
    refine ⟨hkept, fun e he hemptied => ?_⟩
    rw [Entry.Emptied, hcached e he] at hemptied
    exact absurd hemptied.1 Bool.false_ne_true
  · right
    rw [hrefused]
    exact ⟨e, List.mem_append_left _ he, hemptied, code_ne_empty_of_entriesOf hmodules e he, rfl⟩

/-- The entries that are released are those of modules of the order that are loaded. -/
theorem loaded_of_released_ne {e : Entry} (horder : a.order s.files s.store = .ok order)
    (hplain : a.assembleEntries.outcome s = (.ok entries, s')) (he : e ∈ entries)
    (hchanged : e.released s.store ≠ e) :
    e.name ∈ order.modules ∧ lacksCode s.store e.name ∧
      (a.needsHelper order → e.name ≠ helperName) := by
  have hlacks : lacksCode s.store e.name := by
    by_contra hnot
    exact hchanged (Entry.released_of_hasCode (Bool.not_eq_true _ ▸ hnot))
  have hhelper : a.needsHelper order → e.name ≠ helperName := by
    intro hneeds hname
    rw [hname, lacksCode_helper horder hneeds] at hlacks
    exact Bool.false_ne_true hlacks
  obtain ⟨order', horder', hassembled⟩ := assembled_of_assembleEntries hplain
  obtain rfl : order = order' := Except.ok.inj (horder.symm.trans horder')
  have hname : e.name ∈ order.modules ++ if a.needsHelper order then [helperName] else [] := by
    rw [← hassembled.names]
    exact List.mem_map_of_mem he
  refine ⟨?_, hlacks, hhelper⟩
  rcases List.mem_append.1 hname with hmem | hmem
  · exact hmem
  · split at hmem
    · next hneeds => exact absurd (List.mem_singleton.1 hmem) (hhelper hneeds)
    · simp at hmem

def SameLoader (s s' : BuildState) : Prop :=
  s'.files = s.files ∧ s'.minifiedLoader = s.minifiedLoader

theorem sameLoader_assembleEntries (a : Assembler) : a.assembleEntries.Within SameLoader := by
  have hallows : BuildState.Allows (fun _ => True) SameLoader :=
    ⟨fun _ => ⟨rfl, rfl⟩, fun h h' => ⟨h'.1.trans h.1, h'.2.trans h.2⟩, fun _ _ _ => ⟨rfl, rfl⟩⟩
  refine a.within_assembleEntries hallows trivial fun name => ?_
  exact a.within_loadModule hallows trivial fun _ _ => ⟨rfl, rfl⟩

theorem outcome_opening_on (hidentity : a.minifier = .identity) (hon : a.config.minify.isTruthy)
    (hcached : ∀ code, s.minifiedLoader = some code → code = bareExpression a.loaderCode) :
    ∃ t, a.opening.outcome s =
        (.ok ("(" ++ dropTerminator (bareExpression a.loaderCode) ++ ")("), t) ∧
      t.files = s.files := by
  rw [outcome_opening]
  cases hcode : s.minifiedLoader with
  | some code =>
    rw [outcome_loader_of_some hon hcode, hcached code hcode]
    exact ⟨s, rfl, rfl⟩
  | none =>
    have hanswer : a.minifier s.calls a.loaderCall = .ok (holdExpression a.loaderCode) := by
      rw [hidentity]
      rfl
    rw [outcome_loader_of_answer hon hcode hanswer, releaseExpression_holdExpression]
    exact ⟨_, rfl, rfl⟩

theorem outcome_wrap_minifying (hidentity : a.minifier = .identity)
    (hoff : a.config.minify.isTruthy = false) (hon : minify.isTruthy)
    (hloader : a.loaderCode = Loader.code)
    (hcached : ∀ code, t.minifiedLoader = some code → code = bareExpression Loader.code)
    (hfiles : t.files = s.files) (array : String) (p : LaunchParameters) :
    (((a.minifying minify).wrap array p).outcome t).1 = ((a.wrap array p).outcome s).1 := by
  have hloader' : (a.minifying minify).loaderCode = Loader.code := hloader
  have hopening := outcome_opening_off hoff s
  rw [← hloader'] at hcached
  obtain ⟨u, hopening', hu⟩ := outcome_opening_on (a := a.minifying minify) hidentity hon hcached
  have hclosing : (a.minifying minify).closing u.files p = a.closing s.files p := by
    rw [hu, hfiles]
    rfl
  have hsame : dropTerminator (bareExpression (a.minifying minify).loaderCode) =
      dropTerminator a.loaderCode := by
    rw [hloader', hloader, dropTerminator_bareExpression_loader]
  simp only [wrap, outcome_bind, outcome_get, outcome_liftResult, hopening, hopening', hclosing,
    hsame]
  cases (a.closing s.files p).mapError Error.fault <;> rfl

theorem outcome_assembleCode_minifying (hidentity : a.minifier = .identity)
    (hoff : a.config.minify.isTruthy = false) (hon : minify.isTruthy)
    (hloader : a.loaderCode = Loader.code)
    (hcached : ∀ code, s.minifiedLoader = some code → code = bareExpression Loader.code)
    (hsame : ((a.minifying minify).assembleEntries.outcome s).1 = (a.assembleEntries.outcome s).1)
    (p : LaunchParameters) :
    (((a.minifying minify).assembleCode p).outcome s).1 = ((a.assembleCode p).outcome s).1 := by
  have hnoLoader : (a.minifying minify).config.noLoaderCode = a.config.noLoaderCode := rfl
  have hplain := sameLoader_assembleEntries a s
  have hreleased := sameLoader_assembleEntries (a.minifying minify) s
  rw [assembleCode, assembleCode, outcome_bind, outcome_bind, outcome_assembleArray,
    outcome_assembleArray, hsame, hnoLoader]
  cases (a.assembleEntries.outcome s).1 with
  | error e => simp only [Except.map]
  | ok entries =>
    by_cases hbare : a.config.noLoaderCode.isTruthy
    · simp only [Except.map, if_pos hbare, outcome_pure]
    · simp only [Except.map, if_neg hbare]
      have hfiles := hreleased.1.trans hplain.1.symm
      rw [← hreleased.2] at hcached
      exact outcome_wrap_minifying hidentity hoff hon hloader hcached hfiles _ p

end Parts

/-- With a minifier that changes nothing, an assembly that succeeds without it succeeds with it and
gives the same entries, those of loaded modules released; or nothing is left of the code of one of
them, and its code is missing. Cached code and the helpers are the same, and so is the whole bundle
with the loader if the loaded codes are trimmed and end with no semicolon. -/
theorem minifying_agrees (a : Assembler) (minify : Value) (s s' : BuildState) (entries : List Entry)
    (hidentity : a.minifier = .identity) (hoff : a.config.minify.isTruthy = false)
    (hon : minify.isTruthy) (hplain : a.assembleEntries.outcome s = (.ok entries, s')) :
    (a.assembleArray.outcome s).1 = .ok (serializeEntries entries) ∧
    ((∀ e ∈ entries, ¬ e.Emptied s.store) ∧
        ((a.minifying minify).assembleArray.outcome s).1 =
          .ok (serializeEntries (entries.map (Entry.released s.store))) ∨
      ∃ e ∈ entries, e.Emptied s.store ∧
        ((a.minifying minify).assembleArray.outcome s).1 =
          .error (.bundle (.codeMissing e.name))) ∧
    (∀ order, a.order s.files s.store = .ok order → ∀ e ∈ entries, e.released s.store ≠ e →
      e.name ∈ order.modules ∧ lacksCode s.store e.name ∧
        (a.needsHelper order → e.name ≠ helperName)) ∧
    (a.loaderCode = Loader.code →
      (∀ code, s.minifiedLoader = some code → code = bareExpression Loader.code) →
      (∀ e ∈ entries, lacksCode s.store e.name →
        trim e.code = e.code ∧ endsWith ";" e.code = false) →
      ∀ p, (((a.minifying minify).assembleCode p).outcome s).1 =
        ((a.assembleCode p).outcome s).1) := by
  have hcases := assembleEntries_minifying hidentity hoff hon hplain
  refine ⟨?_, ?_, ?_, ?_⟩
  · rw [outcome_assembleArray, hplain]
    rfl
  · rw [outcome_assembleArray]
    rcases hcases with ⟨hkept, hreleased⟩ | ⟨e, he, hemptied, -, hrefused⟩
    · exact .inl ⟨hkept, by rw [hreleased]; rfl⟩
    · exact .inr ⟨e, he, hemptied, by rw [hrefused]; rfl⟩
  · intro order horder e he hchanged
    exact loaded_of_released_ne horder hplain he hchanged
  · intro hloader hcached hclean p
    have hbare : ∀ e ∈ entries, lacksCode s.store e.name → bareExpression e.code = e.code := by
      intro e he hlacks
      obtain ⟨htrim, hend⟩ := hclean e he hlacks
      exact bareExpression_eq_self_of_trim_eq htrim hend
    have hsame : ∀ e ∈ entries, e.released s.store = e := fun e he =>
      Entry.released_eq_self (hbare e he)
    refine outcome_assembleCode_minifying hidentity hoff hon hloader hcached ?_ p
    rw [hplain]
    rcases hcases with ⟨-, hreleased⟩ | ⟨e, he, hemptied, hne, -⟩
    · rw [hreleased, List.map_congr_left hsame, List.map_id']
    · exact absurd ((hbare e he hemptied.1).symm.trans hemptied.2) hne

def untrimmed : BuildState where
  files := FileTree.mk [] [(["main.js"], .file " m; \n".toUTF8)]
  store := .ofRecords
    [{ name := "/main", dependencies := ["/a"] }, { name := "/a", code := some " a;" }]
  calls := []
  minifiedLoader := none

def minifyingCircle : Assembler := circleAssembler.minifying (.bool true)

theorem minifying_agrees_untrimmed :
    (circleAssembler.assembleArray.outcome untrimmed).1 =
        .ok "[[\"/a\",\" a;\"],[\"/main\",[\"/a\"],\" m; \\n\"]]" ∧
      (minifyingCircle.assembleArray.outcome untrimmed).1 =
        .ok "[[\"/a\",\" a;\"],[\"/main\",[\"/a\"],\"m\"]]" ∧
      ∀ p, ((minifyingCircle.assembleCode p).outcome { halfCompiled with files := compiled }).1 =
        ((circleAssembler.assembleCode p).outcome { halfCompiled with files := compiled }).1 := by
  let entries : List Entry := [⟨"/a", [], none, " a;"⟩, ⟨"/main", ["/a"], none, " m; \n"⟩]
  obtain ⟨s', hplain⟩ :
      ∃ s', circleAssembler.assembleEntries.outcome untrimmed = (.ok entries, s') := ⟨_, rfl⟩
  obtain ⟨harray, hcases, -⟩ :=
    minifying_agrees circleAssembler (.bool true) untrimmed s' entries rfl rfl rfl hplain
  let clean : List Entry := [⟨"/a", [], none, "a"⟩, ⟨"/main", ["/a"], none, "m"⟩]
  obtain ⟨t, hclean⟩ : ∃ t, circleAssembler.assembleEntries.outcome
      { halfCompiled with files := compiled } = (.ok clean, t) := ⟨_, rfl⟩
  obtain ⟨-, -, -, hcode⟩ := minifying_agrees circleAssembler (.bool true)
    { halfCompiled with files := compiled } t clean rfl rfl rfl hclean
  refine ⟨harray.trans rfl, ?_, hcode rfl (by simp [halfCompiled]) (by decide)⟩
  rcases hcases with ⟨-, hreleased⟩ | ⟨e, he, hemptied, -⟩
  · exact hreleased.trans rfl
  · have hkept : ∀ e ∈ entries, bareExpression e.code ≠ "" := by decide
    exact absurd hemptied.2 (hkept e he)

end Assembler

end ModulePack
