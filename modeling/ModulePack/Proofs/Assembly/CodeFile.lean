import ModulePack.Proofs.Assembly.Outcome
import ModulePack.Proofs.FileSystem.Directories
import ModulePack.Proofs.Specifier.ModuleName

/-!
# Files of compiled code

The compiler puts the code of a source file at the place below its output directory that the file
has below the module root, under the extension of code. An assembly knows the name of the module
only, and what it makes of this name is that place again, also where nothing or only dots are left
of the name of a file without its extension. So no load reads a file outside the output directory,
and modules of different names have their code in different files.
-/

namespace ModulePack

open ModulePack.Path

/-- A path in full: it leads straight from a root, and its parts are names. -/
structure Path.Full (p : Path) : Prop extends p.Straight where
  names : ∀ part ∈ p.parts, IsName part

structure Path.Below (p base : Path) : Prop where
  start : p.start = base.start
  under : base.parts <+: p.parts
  strict : p.parts ≠ base.parts

/-- A source file below the module root, with no backslash in its path. -/
structure SourceBelow (root p : Path) : Prop where
  full : p.Full
  below : p.Below root
  plain : ∀ part ∈ p.parts, '\\' ∉ part.toList

instance (p : Path) : Decidable p.Full :=
  decidable_of_iff (p.start ≠ .here ∧ ".." ∉ p.parts ∧ ∀ part ∈ p.parts, IsName part)
    ⟨fun h => ⟨⟨h.1, h.2.1⟩, h.2.2⟩, fun h => ⟨h.absolute, h.down, h.names⟩⟩

instance (p base : Path) : Decidable (p.Below base) :=
  decidable_of_iff (p.start = base.start ∧ base.parts <+: p.parts ∧ p.parts ≠ base.parts)
    ⟨fun h => ⟨h.1, h.2.1, h.2.2⟩, fun h => ⟨h.start, h.under, h.strict⟩⟩

instance (root p : Path) : Decidable (SourceBelow root p) :=
  decidable_of_iff (p.Full ∧ p.Below root ∧ ∀ part ∈ p.parts, '\\' ∉ part.toList)
    ⟨fun h => ⟨h.1, h.2.1, h.2.2⟩, fun h => ⟨h.full, h.below, h.plain⟩⟩

def Path.seenFrom (p base : Path) : Path := ⟨.here, p.parts.drop base.parts.length⟩

def compiledFile (root out p : Path) : Path :=
  out / (stripSourceExtension (p.seenFrom root).toString ++ ".js")

variable {root out p q : Path} {directories : List String} {name : String} {cwd : List String}

namespace Path

theorem Full.normal (h : p.Full) : Normal ⟨.root, p.parts⟩ := ⟨rfl, h.names, h.down⟩

theorem Full.resolve_eq (h : p.Full) (cwd : List String) : p.resolve cwd = ⟨.root, p.parts⟩ := by
  rw [resolve, if_neg h.absolute, foldl_climb_of_down h.down, List.nil_append]

theorem Below.exists_concat (h : p.Below root) :
    ∃ directories name, p.parts = root.parts ++ (directories ++ [name]) := by
  obtain ⟨rest, hrest⟩ := h.under
  rcases List.eq_nil_or_concat' rest with rfl | ⟨directories, name, rfl⟩
  · rw [List.append_nil] at hrest
    exact absurd hrest.symm h.strict
  · exact ⟨directories, name, hrest.symm⟩

end Path

/-- Where names stand behind a path, they are put behind its parts. -/
theorem div_join_concat (out : Path) (h : ∀ part ∈ directories ++ [name], IsName part) :
    out / Text.join "/" (directories ++ [name]) =
      ⟨out.start, out.parts ++ (directories ++ [name])⟩ := by
  have hread : ofString (Text.join "/" (directories ++ [name])) =
      ⟨.here, directories ++ [name]⟩ := by
    rw [← toString_concat, ofString_toString h]
  have hjoin : out / Text.join "/" (directories ++ [name]) =
      out.join (ofString (Text.join "/" (directories ++ [name]))) := rfl
  rw [hjoin, hread, join, if_pos rfl]

namespace SourceBelow

theorem moduleName_eq (hroot : root.Full) (hp : SourceBelow root p)
    (hparts : p.parts = root.parts ++ (directories ++ [name])) :
    moduleName cwd root p = "/" ++ Text.join "/" (directories ++ [stripSourceExtension name]) := by
  -- Which root paths begin at does not show in the way between them.
  have hsame : moduleName cwd root p = moduleName cwd ⟨.root, root.parts⟩ ⟨.root, p.parts⟩ := by
    rw [moduleName, moduleName, relativeText_eq, relativeText_eq, hroot.resolve_eq,
      hp.full.resolve_eq, hroot.normal.resolve_eq, hp.full.normal.resolve_eq]
  have hbelow : ¬ p.parts <+: root.parts := by
    intro hle
    rw [hparts] at hle
    have hlength := hle.length_le
    simp at hlength
  have hconcat : p.parts = (root.parts ++ directories) ++ [name] := by
    rw [hparts, List.append_assoc]
  rw [hsame, moduleName_concat hroot.normal hp.full.normal hp.plain hconcat hbelow, way_append]

theorem isName_code (hp : SourceBelow root p)
    (hparts : p.parts = root.parts ++ (directories ++ [name])) :
    (∀ part ∈ directories ++ [stripSourceExtension name ++ ".js"], IsName part) ∧
      ".." ∉ directories ++ [stripSourceExtension name ++ ".js"] := by
  have hnames := hp.full.names
  have hdown := hp.full.down
  rw [hparts, List.forall_mem_append, List.forall_mem_append, List.forall_mem_singleton] at hnames
  rw [hparts, List.mem_append, not_or, List.mem_append, not_or] at hdown
  have hslash : '/' ∉ (stripSourceExtension name).toList := fun hslash =>
    hnames.2.2.noSlash (mem_of_mem_stripSourceExtension hslash)
  obtain ⟨hcode, hne⟩ : IsName (stripSourceExtension name ++ ".js") ∧
    stripSourceExtension name ++ ".js" ≠ ".." := isName_append hslash (by decide) (by decide)
  rw [List.forall_mem_append, List.forall_mem_singleton, List.mem_append, not_or,
    List.mem_singleton]
  exact ⟨⟨hnames.2.1, hcode⟩, hdown.2.1, hne.symm⟩

theorem compiledFile_eq (hp : SourceBelow root p)
    (hparts : p.parts = root.parts ++ (directories ++ [name])) (out : Path) :
    compiledFile root out p =
      ⟨out.start, out.parts ++ (directories ++ [stripSourceExtension name ++ ".js"])⟩ := by
  have hseen : p.seenFrom root = ⟨.here, directories ++ [name]⟩ := by
    rw [seenFrom, hparts, List.drop_left]
  rw [compiledFile, hseen, toString_concat, stripSourceExtension_join, join_concat_append,
    div_join_concat out (hp.isName_code hparts).1]

/-- The file of the code leads straight on from the output directory. -/
theorem below_compiledFile (hp : SourceBelow root p) (hout : out.Full) :
    (compiledFile root out p).Full ∧ (compiledFile root out p).Below out := by
  obtain ⟨directories, name, hparts⟩ := hp.below.exists_concat
  obtain ⟨hnames, hdown⟩ := hp.isName_code hparts
  rw [hp.compiledFile_eq hparts]
  refine ⟨⟨⟨hout.absolute, ?_⟩, ?_⟩, rfl, List.prefix_append _ _, ?_⟩
  · rw [List.mem_append, not_or]
    exact ⟨hout.down, hdown⟩
  · exact List.forall_mem_append.2 ⟨hout.names, hnames⟩
  · simp

/-- Code in the same file is code of the same module. -/
theorem moduleName_eq_of_compiledFile_eq (hroot : root.Full) (hp : SourceBelow root p)
    (hq : SourceBelow root q)
    (h : (compiledFile root out p).parts = (compiledFile root out q).parts) :
    moduleName cwd root p = moduleName cwd root q := by
  obtain ⟨directories, name, hparts⟩ := hp.below.exists_concat
  obtain ⟨directories', name', hparts'⟩ := hq.below.exists_concat
  rw [hp.compiledFile_eq hparts, hq.compiledFile_eq hparts', List.append_cancel_left_eq] at h
  obtain ⟨hdirectories, hcode⟩ := List.append_inj' h rfl
  have hname : stripSourceExtension name = stripSourceExtension name' :=
    (String.append_left_inj _).1 (List.singleton_inj.1 hcode)
  rw [moduleName_eq hroot hp hparts, moduleName_eq hroot hq hparts', hdirectories, hname]

end SourceBelow

namespace Assembler

open Build

variable {a : Assembler} {fs : FileSystem} {s t : BuildState}

/-- What is made of the name of a module is the place where its code is put. -/
theorem codeFile_moduleName (hroot : root.Full) (hp : SourceBelow root p) :
    a.codeFile (moduleName cwd root p) = compiledFile root a.config.compiler.outDir p := by
  obtain ⟨directories, name, hparts⟩ := hp.below.exists_concat
  have hnames := (hp.isName_code hparts).1
  let text := Text.join "/" (directories ++ [stripSourceExtension name])
  have hcode : text ++ ".js" =
      Text.join "/" (directories ++ [stripSourceExtension name ++ ".js"]) :=
    join_concat_append _ _ _
  have hslash : ∀ rest, text.toList ≠ '/' :: rest := by
    intro rest hrest
    refine toList_join_ne hnames (rest ++ ".js".toList) ?_
    rw [← hcode, String.toList_append, hrest, List.cons_append]
  have hcut : String.ofList (("/" ++ text).toList.dropWhile (· == '/')) = text := by
    have hdrop : ("/" ++ text).toList.dropWhile (· == '/') = text.toList.dropWhile (· == '/') := by
      rw [String.toList_append]
      exact List.dropWhile_cons_of_pos rfl
    have hkeep : text.toList.dropWhile (· == '/') = text.toList := by
      cases htext : text.toList with
      | nil => rfl
      | cons c cs =>
        have hc : c ≠ '/' := by
          rintro rfl
          exact hslash cs htext
        exact List.dropWhile_cons_of_neg (by simpa using hc)
    rw [hdrop, hkeep, String.ofList_toList]
  rw [codeFile, SourceBelow.moduleName_eq hroot hp hparts, hcut, hcode, div_join_concat _ hnames,
    hp.compiledFile_eq hparts]

/-- A load looks at no other file than that of its module. -/
theorem outcome_loadModule_congr {name : String} (hstore : t.store = s.store)
    (hcalls : t.calls = s.calls)
    (h : t.files.readText (a.codeFile name) = s.files.readText (a.codeFile name)) :
    ((a.loadModule name).outcome t).1 = ((a.loadModule name).outcome s).1 ∧
      ((a.loadModule name).outcome t).2.store = ((a.loadModule name).outcome s).2.store := by
  simp only [loadModule, fileText, outcome_bind, outcome_get, outcome_liftResult, h]
  cases s.files.readText (a.codeFile name) with
  | error fault => cases fault <;> exact ⟨rfl, hstore⟩
  | ok code =>
    by_cases hminify : a.config.minify.isTruthy
    · simp only [minifyIfConfigured, if_pos hminify, minifyExpression, outcome_bind, outcome_get,
        outcome_set, hcalls]
      cases a.minifier s.calls ⟨name, a.config.compiler.target, holdExpression code⟩ <;>
        simp [hstore]
    · simp only [minifyIfConfigured, if_neg hminify, outcome_pure, outcome_modify, hstore,
        and_self]

/-- Whether the load of a module reads one file and no other. -/
structure LoadsFrom (a : Assembler) (name : String) (file : Path) : Prop where
  codeFile_eq : a.codeFile name = file
  code : ∀ s code, a.config.minify.isTruthy = false → s.files.readText file = .ok code →
    (a.loadModule name).outcome s = (.ok (), { s with store := s.store.setCode name code })
  missing : ∀ s e, s.files.readText file = .error (.file e) →
    (a.loadModule name).outcome s = (.error (.bundle (.codeUnreadable file name e)), s)
  alone : ∀ s t : BuildState, t.store = s.store → t.calls = s.calls →
    t.files.readText file = s.files.readText file →
      ((a.loadModule name).outcome t).1 = ((a.loadModule name).outcome s).1 ∧
        ((a.loadModule name).outcome t).2.store = ((a.loadModule name).outcome s).2.store

theorem loadsFrom_codeFile (a : Assembler) (name : String) :
    a.LoadsFrom name (a.codeFile name) where
  codeFile_eq := rfl
  code s code hminify hread := by
    have hplain : ¬ a.config.minify.isTruthy := by simp [hminify]
    simp only [loadModule, fileText, outcome_bind, outcome_get, outcome_liftResult, hread,
      minifyIfConfigured, if_neg hplain]
    rfl
  missing s e hread := by
    simp only [loadModule, fileText, outcome_bind, outcome_get, outcome_liftResult, hread]
  alone _ _ hstore hcalls hread := outcome_loadModule_congr hstore hcalls hread

/-- The code of the module in a source file is read from the file that lies below the output
directory as the source file lies below the module root, with the extension of code instead of its
own, and from no other file. This file lies below the output directory wherever a file system finds
it, and no module of another name has its code there. -/
theorem loadModule_reads_compiled (a : Assembler) (fs : FileSystem) (p : Path)
    (hroot : a.specifiers.root.Full) (hout : a.config.compiler.outDir.Full)
    (hp : SourceBelow a.specifiers.root p) :
    a.LoadsFrom (a.specifiers.moduleName fs p)
        (compiledFile a.specifiers.root a.config.compiler.outDir p) ∧
      (compiledFile a.specifiers.root a.config.compiler.outDir p).Below a.config.compiler.outDir ∧
      (∀ files : FileSystem, ∀ place,
        files.place (compiledFile a.specifiers.root a.config.compiler.outDir p) = .ok place →
          place = (compiledFile a.specifiers.root a.config.compiler.outDir p).parts) ∧
      ∀ q, SourceBelow a.specifiers.root q →
        a.specifiers.moduleName fs q ≠ a.specifiers.moduleName fs p →
          (compiledFile a.specifiers.root a.config.compiler.outDir q).parts ≠
            (compiledFile a.specifiers.root a.config.compiler.outDir p).parts := by
  obtain ⟨hfull, hbelow⟩ := hp.below_compiledFile hout
  refine ⟨?_, hbelow, ?_, ?_⟩
  · have hfile : a.codeFile (a.specifiers.moduleName fs p) =
        compiledFile a.specifiers.root a.config.compiler.outDir p := codeFile_moduleName hroot hp
    rw [← hfile]
    exact a.loadsFrom_codeFile _
  · intro files place hplace
    have horigin : files.origin (compiledFile a.specifiers.root a.config.compiler.outDir p) = [] :=
      if_neg hfull.absolute
    rw [FileTree.place, horigin] at hplace
    rw [FileTree.eq_foldl_climb_of_walk hplace, foldl_climb_of_down hfull.down, List.nil_append]
  · intro q hq hname hparts
    exact hname (SourceBelow.moduleName_eq_of_compiledFile_eq hroot hq hp hparts)

def sourcesAssembler : Assembler where
  config :=
    { projectDir := ⟨.root, ["p"]⟩
      entryModule := .text "src/main.ts"
      entryFunction := .text "run"
      outFile := ⟨.root, ["p", "bundle.js"]⟩
      compiler :=
        { (default : CompilerOptions) with
          rootDir := Specifiers.sourcesOnly.root
          outDir := ⟨.root, ["p", "out"]⟩ } }
  specifiers := .sourcesOnly
  minifier := .identity

/-- Without extension two dots are left of the first name, and nothing of the second one. -/
def dottedSource : Path := ⟨.root, ["p", "src", "lib", "...ts"]⟩

def namelessSource : Path := ⟨.root, ["p", "src", "lib", ".tsx"]⟩

def dottedState : BuildState where
  files := FileTree.mk [] [(["p"], .directory), (["p", "out"], .directory),
    (["p", "out", "lib"], .directory), (["p", "out", "lib", "...js"], .file "d".toUTF8)]
  store := .ofRecords [{ name := "/lib/.." }]
  calls := []
  minifiedLoader := none

theorem loadModule_reads_compiled_dotted :
    sourcesAssembler.specifiers.moduleName default dottedSource = "/lib/.." ∧
      sourcesAssembler.specifiers.moduleName default namelessSource = "/lib/" ∧
      sourcesAssembler.LoadsFrom "/lib/.." ⟨.root, ["p", "out", "lib", "...js"]⟩ ∧
      sourcesAssembler.LoadsFrom "/lib/" ⟨.root, ["p", "out", "lib", ".js"]⟩ ∧
      (sourcesAssembler.loadModule "/lib/..").outcome dottedState =
        (.ok (), { dottedState with store := dottedState.store.setCode "/lib/.." "d" }) := by
  have hroot : sourcesAssembler.specifiers.root.Full := by decide
  have hout : sourcesAssembler.config.compiler.outDir.Full := by decide
  have hdotted : SourceBelow sourcesAssembler.specifiers.root dottedSource := by decide
  have hnameless : SourceBelow sourcesAssembler.specifiers.root namelessSource := by decide
  obtain ⟨hfrom, -⟩ :=
    loadModule_reads_compiled sourcesAssembler default dottedSource hroot hout hdotted
  obtain ⟨hfrom', -⟩ :=
    loadModule_reads_compiled sourcesAssembler default namelessSource hroot hout hnameless
  have hname : sourcesAssembler.specifiers.moduleName default dottedSource = "/lib/.." := by
    decide
  have hname' : sourcesAssembler.specifiers.moduleName default namelessSource = "/lib/" := by
    decide
  have hfile : compiledFile sourcesAssembler.specifiers.root
      sourcesAssembler.config.compiler.outDir dottedSource =
        ⟨.root, ["p", "out", "lib", "...js"]⟩ := by decide
  have hfile' : compiledFile sourcesAssembler.specifiers.root
      sourcesAssembler.config.compiler.outDir namelessSource =
        ⟨.root, ["p", "out", "lib", ".js"]⟩ := by decide
  rw [hname, hfile] at hfrom
  rw [hname', hfile'] at hfrom'
  exact ⟨hname, hname', hfrom, hfrom', hfrom.code dottedState "d" rfl rfl⟩

end Assembler

end ModulePack
