import ModulePack.Proofs.Assembly.Session

/-!
# Assembling once more

An assembly that has succeeded leaves code with every module of its order, so there is nothing to
load for the same order a second time. What the compiler has put out is not read again and may be
gone. The helpers alone are no part of the store: they are read, and minified, by each assembly.
-/

namespace ModulePack

open Build

theorem FileSystem.readText_eq_of_find_eq {fs fs' : FileSystem} {p : Path}
    (h : fs'.find p = fs.find p) : fs'.readText p = fs.readText p := by
  simp only [readText, readBytes, h]

theorem Loading.loadsInto_after (a : Assembler) (s : BuildState) (done : List String) :
    s.LoadsInto (after a s done).state :=
  within_after .loadsInto s fun name _ => a.onlyLoads_loadModule name

namespace Assembler

variable {a : Assembler} {s s' t u : BuildState} {fs fs' : FileSystem} {store : Store}
  {order : ModuleOrder} {modules entries : List Entry} {e : Entry}
  {text code label : String} {target : Value}

/-- Assemblies of an array that succeed, with the modules loaded one after the other or by loads
that run at once and complete in any order. -/
inductive Assembles (a : Assembler) (s : BuildState) : String → BuildState → Prop
  | inTurn {text : String} {s' : BuildState} (h : a.assembleArray.outcome s = (.ok text, s')) :
      Assembles a s text s'
  | atOnce {order : ModuleOrder} {pending done : List String} {entries : List Entry}
      {s' : BuildState} (horder : a.order s.files s.store = .ok order)
      (hfilters : a.checkModules order = .ok ())
      (hpending : modulesToLoad s.store order.modules = .ok pending) (hdone : done.Perm pending)
      (hloaded : (Loading.after a s done).errors = [])
      (hgather : (a.gather order).outcome (Loading.after a s done).state = (.ok entries, s')) :
      Assembles a s (serializeEntries entries) s'

structure AssemblesOnly (a : Assembler) (u : BuildState) (text : String) (u' : BuildState) :
    Prop where
  outcome : a.assembleArray.outcome u = (.ok text, u')
  unique : ∀ other t, a.Assembles u other t → other = text ∧ t = u'

theorem Assembles.exists_gather (h : a.Assembles s text s') :
    ∃ order t entries, a.order s.files s.store = .ok order ∧ a.checkModules order = .ok () ∧
      s.LoadsInto t ∧ (a.gather order).outcome t = (.ok entries, s') ∧
      text = serializeEntries entries := by
  cases h with
  | inTurn h =>
    obtain ⟨entries, hentries, rfl⟩ := outcome_map_eq_ok_iff.1 h
    obtain ⟨order, t, horder, hfilters, hload, hgather⟩ := exists_load_of_assembleEntries hentries
    exact ⟨order, t, entries, horder, hfilters, (a.onlyLoads_loadMissing _).loadsInto hload,
      hgather, rfl⟩
  | @atOnce order _ done entries _ horder hfilters _ _ _ hgather =>
    exact ⟨order, _, entries, horder, hfilters, Loading.loadsInto_after a s done, hgather, rfl⟩

/-- No file is looked at to put modules in order. -/
theorem order_eq_of_cwd_eq (h : fs'.cwd = fs.cwd) (store : Store) :
    a.order fs' store = a.order fs store := by
  have hresolve : fs'.resolve = fs.resolve := by
    funext p
    rw [FileTree.resolve, FileTree.resolve, h]
  have hname : a.specifiers.moduleName fs' = a.specifiers.moduleName fs := by
    funext file
    rw [Specifiers.moduleName, Specifiers.moduleName, h]
  have hentry : a.entryName fs' = a.entryName fs := by
    simp only [entryName, resolveSetting, hresolve, hname]
  rw [order, order, hentry]

/-- Modules of which entries are made have their code. -/
theorem modulesToLoad_of_entriesOf (h : entriesOf store order = .ok modules) :
    modulesToLoad store order.modules = .ok [] := by
  have hstored : ∀ name ∈ order.modules, ∃ r, store.get? name = some r ∧ r.hasCode := by
    intro name hname
    obtain ⟨e, he⟩ := exists_mapM_eq_ok_iff.1 ⟨modules, h⟩ name hname
    obtain ⟨r, hr, he⟩ := bind_eq_ok_iff.1 he
    refine ⟨r, Store.fetch_eq_ok_iff.1 hr, ?_⟩
    rw [mapError_eq_ok_iff, Record.toEntry_eq] at he
    split at he
    · cases he
    · next hcode => simpa [Record.hasCode] using hcode
  rw [modulesToLoad_eq_ok_iff]
  refine ⟨fun name hname => ?_, ?_⟩
  · obtain ⟨r, hr, -⟩ := hstored name hname
    rw [Store.has, hr]
    rfl
  · symm
    rw [List.filter_eq_nil_iff]
    intro name hname
    obtain ⟨r, hr, hcode⟩ := hstored name hname
    simp [lacksCode, hr, hcode]

/-- Where nothing is to be loaded, an assembly is what comes behind the loads. -/
theorem assembles_of_gather (horder : a.order s.files s.store = .ok order)
    (hfilters : a.checkModules order = .ok ())
    (hnone : modulesToLoad s.store order.modules = .ok [])
    (hgather : (a.gather order).outcome s = (.ok entries, s')) :
    a.AssemblesOnly s (serializeEntries entries) s' := by
  have hload : (a.loadMissing order.modules).outcome s = (.ok (), s) := by
    simp only [loadMissing, outcome_bind, outcome_get, outcome_liftResult, hnone]
    rfl
  have harray : a.assembleArray.outcome s = (.ok (serializeEntries entries), s') := by
    rw [outcome_assembleArray, outcome_assembleEntries_eq horder hfilters hload, hgather]
    rfl
  refine ⟨harray, fun text t h => ?_⟩
  cases h with
  | inTurn h =>
    cases harray.symm.trans h
    exact ⟨rfl, rfl⟩
  | atOnce horder' _ hpending hdone _ hgather' =>
    cases horder.symm.trans horder'
    cases hnone.symm.trans hpending
    cases hdone.eq_nil
    cases hgather.symm.trans hgather'
    exact ⟨rfl, rfl⟩

theorem outcome_minifyIfConfigured_eq_ok_iff :
    (a.minifyIfConfigured code label target).outcome s = (.ok text, s') ↔
      if a.config.minify.isTruthy then
        ∃ answer, a.minifier s.calls ⟨label, target, holdExpression code⟩ = .ok answer ∧
          releaseExpression answer = text ∧
          s' = { s with calls := ⟨label, target, holdExpression code⟩ :: s.calls }
      else code = text ∧ s' = s := by
  rw [minifyIfConfigured]
  split
  · rw [outcome_minifyExpression]
    cases a.minifier s.calls ⟨label, target, holdExpression code⟩ <;>
      simp [Except.map, Except.mapError, eq_comm]
  · simp [eq_comm]

def helperCall (a : Assembler) (text : String) : MinifyCall :=
  ⟨helperName, a.config.compiler.target, holdExpression (helperCode text)⟩

/-- Whether the helpers are what they were for an assembly that has left a state behind, in their
place and to the minifier, which this assembly has asked about them last. -/
structure SameHelpers (a : Assembler) (s' u : BuildState) : Prop where
  directory : u.files.find a.helperDirectory = s'.files.find a.helperDirectory
  file : u.files.find a.helperFile = s'.files.find a.helperFile
  answer : ∀ text calls, a.config.minify.isTruthy → s'.files.readText a.helperFile = .ok text →
    s'.calls = a.helperCall text :: calls →
      a.minifier u.calls (a.helperCall text) = a.minifier calls (a.helperCall text)

theorem outcome_helperEntry_again (h : a.helperEntry.outcome t = (.ok e, s'))
    (hfiles : s'.files = t.files) (hsame : a.SameHelpers s' u) :
    ∃ u', a.helperEntry.outcome u = (.ok e, u') := by
  obtain ⟨hdirectory, text, code, htext, hcode, rfl⟩ := outcome_helperEntry_eq_ok_iff.1 h
  rw [← hfiles] at hdirectory htext
  have hread : u.files.readText a.helperFile = .ok text :=
    (FileSystem.readText_eq_of_find_eq hsame.file).trans htext
  suffices hagain : ∃ u', (a.minifyIfConfigured (helperCode text) helperName
      a.config.compiler.target).outcome u = (.ok code, u') by
    obtain ⟨u', hagain⟩ := hagain
    exact ⟨u', outcome_helperEntry_eq_ok_iff.2
      ⟨hsame.directory.trans hdirectory, text, code, hread, hagain, rfl⟩⟩
  simp only [outcome_minifyIfConfigured_eq_ok_iff] at hcode ⊢
  split at hcode
  · next hminify =>
    obtain ⟨answer, hanswer, hrelease, rfl⟩ := hcode
    simp only [if_pos hminify]
    exact ⟨_, answer, (hsame.answer text t.calls hminify htext rfl).trans hanswer, hrelease, rfl⟩
  · next hminify =>
    simp only [if_neg hminify]
    exact ⟨u, hcode.1, rfl⟩

/-- What an assembly gathers from a store it gathers again from it. -/
theorem outcome_gather_again (h : (a.gather order).outcome t = (.ok entries, s'))
    (hstore : u.store = t.store) (hsame : a.needsHelper order → a.SameHelpers s' u) :
    ∃ u', (a.gather order).outcome u = (.ok entries, u') := by
  have hfiles : s'.files = t.files :=
    (OnlyLoads.loadsInto (a.within_gather .loadsInto trivial order) h).files
  obtain ⟨modules, hmodules, h⟩ := outcome_gather_eq_ok_iff.1 h
  rw [← hstore] at hmodules
  simp only [outcome_gather_eq_ok_iff]
  split at h
  · next hneeds =>
    obtain ⟨e, he, rfl⟩ := h
    obtain ⟨u', hagain⟩ := outcome_helperEntry_again he hfiles (hsame hneeds)
    exact ⟨u', modules, hmodules, by rw [if_pos hneeds]; exact ⟨e, hagain, rfl⟩⟩
  · next hneeds =>
    exact ⟨u, modules, hmodules, by rw [if_neg hneeds]; exact ⟨rfl, h.2⟩⟩

def retargeted (a : Assembler) (minify target : Value) (minifier : Minifier) : Assembler :=
  { a with
    config := { a.config with minify, compiler := { a.config.compiler with target } }
    minifier }

/-- An assembly from the store that another one has left gives the same text, whatever has become of
the files, as long as the helpers are the same if they are needed. Where they are not, the minifier
is not asked, so that it makes no difference which one it is. -/
theorem assembleArray_again (a : Assembler) (s s' : BuildState) (text : String)
    (h : a.Assembles s text s') :
    ∃ order, a.order s.files s.store = .ok order ∧
      (∀ u, u.store = s'.store → u.files.cwd = s.files.cwd →
        (a.needsHelper order → a.SameHelpers s' u) → ∃ u', a.AssemblesOnly u text u') ∧
      (a.needsHelper order = false → ∀ minify target minifier u, u.store = s'.store →
        u.files.cwd = s.files.cwd →
          (a.retargeted minify target minifier).AssemblesOnly u text u) := by
  obtain ⟨order, t, entries, horder, hfilters, hloads, hgather, rfl⟩ := h.exists_gather
  obtain ⟨modules, hmodules, hentries⟩ := outcome_gather_eq_ok_iff.1 hgather
  have hstore : s'.store = t.store := by
    have hsame := a.within_gather .sameStore trivial order t
    rwa [hgather] at hsame
  -- Only code has been added to the store, on which the order does not hang.
  have horder' {u : BuildState} (hu : u.store = s'.store) (hcwd : u.files.cwd = s.files.cwd) :
      a.order u.files u.store = .ok order := by
    rw [order_eq_of_cwd_eq hcwd, hu, hstore, order_eq_of_agreesButCode hloads.store, horder]
  have hnone {u : BuildState} (hu : u.store = s'.store) :
      modulesToLoad u.store order.modules = .ok [] := by
    rw [hu, hstore]
    exact modulesToLoad_of_entriesOf hmodules
  refine ⟨order, horder, ?_, ?_⟩
  · intro u hu hcwd hsame
    obtain ⟨u', hagain⟩ := outcome_gather_again hgather (hu.trans hstore) hsame
    exact ⟨u', assembles_of_gather (horder' hu hcwd) hfilters (hnone hu) hagain⟩
  · intro hneeds minify target minifier u hu hcwd
    rw [hneeds] at hentries
    obtain ⟨-, rfl⟩ := hentries
    have hagain : ((a.retargeted minify target minifier).gather order).outcome u =
        (.ok entries, u) := by
      refine outcome_gather_eq_ok_iff.2 ⟨entries, ?_, ?_⟩
      · rw [hu, hstore, hmodules]
      · rw [if_neg (by simpa [needsHelper, retargeted] using hneeds)]
        exact ⟨rfl, rfl⟩
    exact assembles_of_gather (a := a.retargeted minify target minifier) (horder' hu hcwd) hfilters
      (hnone hu) hagain

/-- A minifier that answers about the helpers at any time, and about other code only once. -/
def onlyOnce : Minifier := fun calls call =>
  if call.label = helperName then .ok "h"
  else if calls.isEmpty then .ok "x"
  else .error .toolNotFound

def onceAssembler (embedHelper : Value) : Assembler :=
  { circleAssembler with
    config := { circleAssembler.config with minify := .bool true, embedHelper }
    minifier := onlyOnce }

def unloadedState : BuildState where
  files := FileTree.mk [] ((["a.js"], .file "a".toUTF8) :: circleState.files.nodes)
  store := .ofRecords
    [{ name := "/main", dependencies := ["/a", "tslib"], code := some "m" }, { name := "/a" }]
  calls := []
  minifiedLoader := none

def onceEntries : List Entry :=
  [⟨"/a", [], none, "x"⟩, ⟨"/main", ["/a", "tslib"], none, "m"⟩]

def helperEntries : List Entry := [⟨"tslib", [], none, "h"⟩]

def cleared (embedHelper : Value) : BuildState :=
  { (((onceAssembler embedHelper).assembleArray.outcome unloadedState).2) with
    files := circleState.files }

theorem assembleArray_again_cleared :
    (onceAssembler (.bool true)).Assembles unloadedState
        (serializeEntries (onceEntries ++ helperEntries))
        ((onceAssembler (.bool true)).assembleArray.outcome unloadedState).2 ∧
      (cleared (.bool true)).files.find (circleAssembler.codeFile "/a") = .error .notFound ∧
      (∃ u', (onceAssembler (.bool true)).AssemblesOnly (cleared (.bool true))
        (serializeEntries (onceEntries ++ helperEntries)) u') ∧
      ((onceAssembler (.bool false)).retargeted (.bool false) .null .notInstalled).AssemblesOnly
        (cleared (.bool false)) (serializeEntries onceEntries) (cleared (.bool false)) := by
  have hwith : (onceAssembler (.bool true)).Assembles unloadedState
      (serializeEntries (onceEntries ++ helperEntries))
      ((onceAssembler (.bool true)).assembleArray.outcome unloadedState).2 := .inTurn (by rfl)
  have hwithout : (onceAssembler (.bool false)).Assembles unloadedState
      (serializeEntries onceEntries)
      ((onceAssembler (.bool false)).assembleArray.outcome unloadedState).2 := .inTurn (by rfl)
  obtain ⟨order, horder, hagain, -⟩ := assembleArray_again _ _ _ _ hwith
  obtain ⟨order', horder', -, hretargeted⟩ := assembleArray_again _ _ _ _ hwithout
  cases horder'
  have hsame : (onceAssembler (.bool true)).SameHelpers
      ((onceAssembler (.bool true)).assembleArray.outcome unloadedState).2
      (cleared (.bool true)) := by
    constructor
    case directory => rfl
    case file => rfl
    case answer =>
      intro text calls _ _ _
      rfl
  exact ⟨hwith, rfl, hagain _ rfl rfl fun _ => hsame,
    hretargeted rfl _ _ _ _ rfl rfl⟩

end Assembler

end ModulePack
