import ModulePack.Assembly
import ModulePack.Proofs.Specifier.Mapped

/-!
# One name for one source file

Imports spell a source file with its extension or without it, and which of its extensions is found
hangs on what files there are; the configured entry module is named without a look at any file. All
come to the same name of the module, unless the file that is found lies on the way to the module
root, from where the way to it leads up only. Paths are compared by their parts: the files are those
of a tree, in which there are no symbolic links and no look is refused.
-/

namespace ModulePack

open ModulePack.Path

variable {fs : FileTree} {root project importer place target p : Path} {s ext name : String}
  {directories : List String} {cwd : List String}

section Extension

theorem stripSourceExtension_eq_self (h : ∀ ext ∈ sourceExtensions, Text.endsWith ext s = false) :
    stripSourceExtension s = s := by
  have hnone : sourceExtensions.findSome? (fun ext => Text.dropEnd? ext s) = none := by
    refine List.findSome?_eq_none_iff.2 fun ext hext => ?_
    rw [← Option.isNone_iff_eq_none, ← Option.isSome_eq_false_iff]
    exact h ext hext
  rw [stripSourceExtension, hnone]
  rfl

/-- Unless `.d` stands before it, the shortest extension is cut alone. -/
theorem stripSourceExtension_append_ts (h : Text.endsWith ".d" s = false) :
    stripSourceExtension (s ++ ".ts") = s := by
  have hdeclaration : Text.dropEnd? ".d.ts" (s ++ ".ts") = none := by
    refine Option.eq_none_iff_forall_ne_some.2 fun rest hrest => Bool.eq_false_iff.1 h ?_
    have htext : s ++ ".ts" = rest ++ ".d" ++ ".ts" := by
      rw [String.append_assoc]
      exact Text.dropEnd?_eq_some_iff.1 hrest
    rw [(String.append_left_inj _).1 htext]
    exact Text.endsWith_append_self rest ".d"
  have htsx : Text.dropEnd? ".tsx" (s ++ ".ts") = none := by
    refine Option.eq_none_iff_forall_ne_some.2 fun rest hrest => ?_
    have htext : s ++ ".ts" = rest ++ ".tsx" := Text.dropEnd?_eq_some_iff.1 hrest
    have hlast := congrArg (fun s => s.toList.getLast?) htext
    simp at hlast
  rw [stripSourceExtension, sourceExtensions, List.findSome?_cons, hdeclaration]
  simp only [List.findSome?_cons, htsx, Text.dropEnd?_eq_some_iff.2 rfl, Option.getD_some]

theorem stripSourceExtension_append (h : Text.endsWith ".d" s = false)
    (hext : ext ∈ sourceExtensions) : stripSourceExtension (s ++ ext) = s := by
  simp only [sourceExtensions, List.mem_cons, List.not_mem_nil, or_false] at hext
  rcases hext with rfl | rfl | rfl
  · exact stripSourceExtension_append_declaration s
  · exact stripSourceExtension_append_tsx s
  · exact stripSourceExtension_append_ts h

end Extension

/-- A place whose text ends with no source extension, nor with the beginning of one. -/
structure BarePlace (place : Path) : Prop where
  normal : place.Normal
  plain : ∀ part ∈ place.parts, '\\' ∉ part.toList
  bare : ∀ tail ∈ [".ts", ".tsx", ".d.ts", ".d"], Text.endsWith tail place.toString = false

namespace BarePlace

theorem stripSourceExtension_eq (h : BarePlace place) :
    stripSourceExtension place.toString = place.toString := by
  refine stripSourceExtension_eq_self fun ext hext => h.bare ext ?_
  have hall : ∀ ext ∈ sourceExtensions, ext ∈ [".ts", ".tsx", ".d.ts", ".d"] := by decide
  exact hall ext hext

/-- However a place is spelled, its text is that of the place but for an extension that is cut. -/
theorem of_mem_spellings (h : BarePlace place) (hparts : place.parts = directories ++ [name])
    (hp : p ∈ place.spellings) :
    p.Normal ∧ (∀ part ∈ p.parts, '\\' ∉ part.toList) ∧
      stripSourceExtension p.toString = place.toString := by
  rcases List.mem_cons.1 hp with rfl | hp
  · exact ⟨h.normal, h.plain, h.stripSourceExtension_eq⟩
  obtain ⟨ext, hext, rfl⟩ := List.mem_map.1 hp
  obtain ⟨habove, hname⟩ := h.normal.of_concat hparts
  obtain ⟨htext, hnormal⟩ := toString_append_extension habove hname.noSlash hext
  have hplace : place = ⟨.root, directories ++ [name]⟩ := by
    rw [← hparts, ← h.normal.absolute]
  have hspelled : place.addExtension ext = ⟨.root, directories ++ [name ++ ext]⟩ := by
    rw [addExtension, hplace, htext, ofString_toString hnormal.names]
  have hother : '\\' ∉ (name ++ ext).toList := by
    have hall : ∀ ext ∈ sourceExtensions, '\\' ∉ ext.toList := by decide
    rw [String.toList_append, List.mem_append, not_or]
    exact ⟨h.plain name (by simp [hparts]), hall ext hext⟩
  have hplain := h.plain
  rw [hparts, List.forall_mem_append] at hplain
  rw [hspelled]
  refine ⟨hnormal, List.forall_mem_append.2 ⟨hplain.1, List.forall_mem_singleton.2 hother⟩, ?_⟩
  rw [← htext, ← hplace]
  exact stripSourceExtension_append (h.bare ".d" (by decide)) hext

end BarePlace

/-- The place of the module root is all that the name of a module takes of it. -/
theorem moduleName_resolve (hroot : (root.resolve cwd).Normal) (p : Path) :
    moduleName cwd root p = moduleName cwd (root.resolve cwd) p := by
  rw [moduleName, moduleName, relativeText_eq, relativeText_eq, hroot.resolve_eq]

/-- However a source file is spelled, its module has the same name. -/
theorem BarePlace.moduleName_eq (h : BarePlace place) (hroot : (root.resolve cwd).Normal)
    (hplace : ¬ place.parts <+: (root.resolve cwd).parts) (hp : p ∈ place.spellings)
    (hbelow : ¬ p.parts <+: (root.resolve cwd).parts) :
    moduleName cwd root p = moduleName cwd root place := by
  obtain ⟨directories, name, hparts⟩ := exists_concat_of_not_prefix hplace
  obtain ⟨hnormal, hplain, hstrip⟩ := h.of_mem_spellings hparts hp
  rw [moduleName_resolve hroot, moduleName_resolve hroot place,
    moduleName_eq_iff hroot hnormal h.normal hplain h.plain hbelow hplace, hstrip,
    h.stripSourceExtension_eq]

/-- A place at which there is a source file is found in one of its spellings, whatever stands in a
directory of the same name. -/
theorem FileTree.exists_findSource?_spelling (h : ∃ p ∈ place.spellings, fs.isFile p) :
    ∃ found ∈ place.spellings, fs.findSource? place = some found ∧ fs.isFile found := by
  obtain ⟨found, hfound⟩ := Option.isSome_iff_exists.1 (List.find?_isSome.2 h)
  have hcandidates : sourceCandidates place =
      place.spellings ++ sourceExtensions.map fun ext => place / ("index" ++ ext) := rfl
  refine ⟨found, List.mem_of_find?_eq_some hfound, ?_, List.find?_some hfound⟩
  rw [findSource?, hcandidates, List.find?_append, hfound]
  rfl

namespace Specifiers

theorem canonical_of_findSource? {specifiers : Specifiers} {table : MappingTable}
    {specifier : String} {found : Path} (hlookup : specifiers.lookup = .files table project)
    (hambient : specifier ∉ specifiers.ambient) (hrelative : isRelativeSpecifier specifier)
    (hresolve : fs.resolve (importer.parent / specifier) = .ok target)
    (hfound : fs.findSource? target = some found) :
    specifiers.canonical fs specifier importer = .ok (specifiers.moduleName fs found, []) := by
  rw [canonical, if_neg hambient, hlookup, Lookup.target?, if_pos hrelative, hresolve]
  simp only [bind, Except.bind, FileSystem.seekSource?_coe, hfound]
  rfl

end Specifiers

namespace Assembler

/-- The relative specifiers of a source file and the configured entry module come to one name,
whichever spelling is used and whichever is found, if what is found does not lie on the way to the
module root. -/
theorem sourceName_agrees (a : Assembler) (fs : FileTree) (table : MappingTable)
    (project place : Path) (hcwd : Path.Normal ⟨.root, fs.cwd⟩)
    (hroot : ∀ part ∈ a.specifiers.root.parts, IsName part)
    (hlookup : a.specifiers.lookup = .files table project) (hplace : BarePlace place)
    (hbelow : ¬ place.parts <+: (a.specifiers.root.resolve fs.cwd).parts) :
    ((∃ p ∈ place.spellings, fs.isFile p) →
      (∀ p ∈ place.spellings, fs.isFile p →
        ¬ p.parts <+: (a.specifiers.root.resolve fs.cwd).parts) →
      ∀ importer specifier target, specifier ∉ a.specifiers.ambient →
        isRelativeSpecifier specifier →
        fs.resolve (importer.parent / specifier) = .ok target →
        (target = place ∨ target ∈ place.spellings ∧ fs.isFile target) →
          a.specifiers.canonical fs specifier importer =
            .ok (a.specifiers.moduleName fs place, [])) ∧
    ∀ target ∈ place.spellings,
      ¬ target.parts <+: (a.specifiers.root.resolve fs.cwd).parts →
      resolveSetting fs a.config.projectDir a.config.entryModule = .ok target →
        a.entryName fs = .ok (a.specifiers.moduleName fs place) := by
  have hnormal : (a.specifiers.root.resolve fs.cwd).Normal := normal_resolve hcwd hroot
  have hname (p : Path) (hp : p ∈ place.spellings)
      (hapart : ¬ p.parts <+: (a.specifiers.root.resolve fs.cwd).parts) :
      a.specifiers.moduleName fs p = a.specifiers.moduleName fs place :=
    hplace.moduleName_eq hnormal hbelow hp hapart
  constructor
  · intro hfile hapart importer specifier target hambient hrelative hresolve htarget
    obtain ⟨found, hspelling, hfound, hisFile⟩ :
        ∃ found ∈ place.spellings, fs.findSource? target = some found ∧ fs.isFile found := by
      rcases htarget with rfl | ⟨hspelling, hisFile⟩
      · exact FileTree.exists_findSource?_spelling hfile
      · exact ⟨target, hspelling, FileTree.findSource?_of_isFile hisFile, hisFile⟩
    rw [Specifiers.canonical_of_findSource? hlookup hambient hrelative hresolve hfound,
      hname found hspelling (hapart found hspelling hisFile)]
  · intro target hspelling hapart hsetting
    rw [entryName, hsetting, ← hname target hspelling hapart]
    rfl

/-- A declaration file and a source file of one name, beside a directory of this name. -/
def declared : FileTree :=
  ⟨[], [(["p"], .directory), (["p", "lib"], .directory), (["p", "lib", "a.d.ts"], .file .empty),
    (["p", "lib", "a.ts"], .file .empty), (["p", "lib", "a"], .directory),
    (["p", "lib", "a", "index.ts"], .file .empty)]⟩

def rootedAt (root : Path) : Assembler where
  config :=
    { projectDir := ⟨.root, ["p"]⟩
      entryModule := .text "src/.././lib/a.tsx"
      entryFunction := .text "run"
      outFile := ⟨.root, ["p", "bundle.js"]⟩
      compiler := default }
  specifiers := ⟨root, .files ⟨⟨.root, ["p"]⟩, .empty⟩ ⟨.root, ["p"]⟩, []⟩
  minifier := .identity

theorem sourceName_agrees_declared :
    BarePlace ⟨.root, ["p", "lib", "a"]⟩ ∧
      (rootedAt ⟨.root, ["p", "src"]⟩).specifiers.canonical declared ".././lib/a"
        ⟨.root, ["p", "src", "main.ts"]⟩ = .ok ("/../lib/a", []) ∧
      (rootedAt ⟨.root, ["p", "src"]⟩).specifiers.canonical declared "./a.ts"
        ⟨.root, ["p", "lib", "b.ts"]⟩ = .ok ("/../lib/a", []) ∧
      (rootedAt ⟨.root, ["p", "src"]⟩).entryName declared = .ok "/../lib/a" := by
  have hplace : BarePlace ⟨.root, ["p", "lib", "a"]⟩ :=
    ⟨⟨rfl, by decide, by decide⟩, by decide, by decide⟩
  obtain ⟨hrelative, hentry⟩ := sourceName_agrees (rootedAt ⟨.root, ["p", "src"]⟩) declared _ _
    ⟨.root, ["p", "lib", "a"]⟩ ⟨rfl, by decide, by decide⟩ (by decide) rfl hplace (by decide)
  have hnamed := hrelative (by decide) (by decide)
  refine ⟨hplace, ?_, ?_, ?_⟩
  · exact hnamed _ ".././lib/a" _ (by decide) (by decide) rfl (.inl rfl)
  · exact hnamed _ "./a.ts" _ (by decide) (by decide) rfl (.inr ⟨by decide, by decide⟩)
  · exact hentry ⟨.root, ["p", "lib", "a.tsx"]⟩ (by decide) (by decide) rfl

/-- A file that is the module root itself is named after the way from there to itself, and not as
the place is where it is looked for. -/
theorem canonical_rootFile :
    let a := rootedAt ⟨.root, ["p", "lib", "a.d.ts"]⟩
    BarePlace ⟨.root, ["p", "lib", "a"]⟩ ∧
      ¬ ["p", "lib", "a"] <+: (a.specifiers.root.resolve declared.cwd).parts ∧
      declared.isFile ⟨.root, ["p", "lib", "a.d.ts"]⟩ ∧
      declared.resolve (Path.parent ⟨.root, ["p", "lib", "main.ts"]⟩ / "./a") =
        .ok ⟨.root, ["p", "lib", "a"]⟩ ∧
      a.specifiers.moduleName declared ⟨.root, ["p", "lib", "a"]⟩ = "/../a" ∧
      a.specifiers.canonical declared "./a" ⟨.root, ["p", "lib", "main.ts"]⟩ = .ok ("/.", []) :=
  ⟨⟨⟨rfl, by decide, by decide⟩, by decide, by decide⟩, by decide, by decide, rfl, by decide, rfl⟩

end Assembler

end ModulePack
