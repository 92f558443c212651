import ModulePack.Proofs.Mapping.Decision
import ModulePack.Proofs.Specifier.ModuleName

/-!
# Mapped and relative specifiers

A rule that maps what is below a key into a directory leads to the place that a relative specifier
names there. A relative specifier is looked up at this place, also in its index file. A mapped one
is mapped only if the place is a source file itself, and is then looked up without its extension.
So the two agree where the place has no extension and is not found in its index file alone. All this
is said of trees, in which there are no symbolic links and no look is refused.
-/

namespace ModulePack

open ModulePack.Path

variable {fs : FileTree} {base root project importer origin place : Path}
  {key directory rest : String}

def ruleBelow (key directory : String) : Dictionary (List String) :=
  [(key ++ "/*", ["./" ++ directory ++ "/*"])]

def placeIn (cwd : List String) (base : Path) (directory rest : String) : Path :=
  (base / ("./" ++ directory ++ "/" ++ rest)).resolve cwd

/-- The directory `base`, the current directory, and texts with which paths are made of them. -/
structure Grounded (fs : FileTree) (base : Path) (directory rest : String) : Prop where
  cwd : Path.Normal ⟨.root, fs.cwd⟩
  cwdValid : Path.isValid ⟨.root, fs.cwd⟩
  names : ∀ part ∈ base.parts, IsName part
  base : base.isValid
  directory : isNameable directory
  rest : isNameable rest

section Place

theorem ofString_dotSlash (s : String) : ofString ("./" ++ s) = ⟨.here, partsOf s⟩ := by
  have hparts : partsOf ("./" ++ s) = partsOf s := partsOf_append "." s
  have hstart : startOf ("./" ++ s).toList = .here := by
    rw [String.toList_append]
    rfl
  rw [ofString, hparts, hstart]

theorem ofString_dotSlash_append (directory rest : String) :
    ofString ("./" ++ directory ++ "/" ++ rest) =
      ⟨.here, partsOf directory ++ partsOf rest⟩ := by
  have hassoc : "./" ++ directory ++ "/" ++ rest = "./" ++ (directory ++ "/" ++ rest) := by
    simp only [String.append_assoc]
  rw [hassoc, ofString_dotSlash, partsOf_append]

theorem placeIn_eq (cwd : List String) (base : Path) (directory rest : String) :
    placeIn cwd base directory rest =
      ⟨.root, (partsOf rest).foldl climb (placeIn cwd base directory "").parts⟩ := by
  have hplace (rest : String) : placeIn cwd base directory rest =
      (base.join ⟨.here, partsOf directory ++ partsOf rest⟩).resolve cwd :=
    congrArg (fun q => (base.join q).resolve cwd) (ofString_dotSlash_append directory rest)
  rw [hplace, hplace, resolve, resolve, join, join, if_pos rfl, if_pos rfl]
  simp only [partsOf_empty, List.append_nil, List.foldl_append]

theorem Grounded.normal_placeIn (h : Grounded fs base directory rest) :
    (placeIn fs.cwd base directory rest).Normal := by
  refine normal_resolve h.cwd fun part hpart => ?_
  have hjoin : base / ("./" ++ directory ++ "/" ++ rest) =
      base.join ⟨.here, partsOf directory ++ partsOf rest⟩ :=
    congrArg base.join (ofString_dotSlash_append directory rest)
  rw [hjoin, join, if_pos rfl] at hpart
  rcases List.mem_append.1 hpart with hpart | hpart
  · exact h.names part hpart
  · rcases List.mem_append.1 hpart with hpart | hpart <;> exact isName_of_mem_partsOf hpart

theorem Grounded.isValid (h : Grounded fs base directory rest) :
    (base / ("./" ++ directory ++ "/" ++ rest)).isValid := by
  refine isValid_join h.base (isValid_ofString ?_)
  simp only [isNameable_append]
  exact ⟨⟨⟨by decide, h.directory⟩, by decide⟩, h.rest⟩

theorem Grounded.resolve_eq (h : Grounded fs base directory rest) :
    fs.resolve (base / ("./" ++ directory ++ "/" ++ rest)) =
      .ok (placeIn fs.cwd base directory rest) := if_pos h.isValid

/-- The directory of the rule is the place of no rest. -/
theorem Grounded.withoutRest (h : Grounded fs base directory rest) :
    Grounded fs base directory "" := { h with rest := rfl }

theorem Grounded.targetText_eq (h : Grounded fs base directory rest) :
    targetText fs base ("./" ++ directory ++ "/") =
      .ok ((placeIn fs.cwd base directory "").toString ++ "/") := by
  have hresolve : fs.resolve (base / ("./" ++ directory ++ "/")) =
      .ok (placeIn fs.cwd base directory "") := by
    have heq := h.withoutRest.resolve_eq
    rwa [String.append_empty] at heq
  have hslash : Text.endsWith "/" ("./" ++ directory ++ "/") := Text.endsWith_append_self _ _
  rw [targetText, hresolve]
  simp [bind, Except.bind, pure, Except.pure, hslash]

theorem Grounded.appendRest_eq (h : Grounded fs base directory rest) :
    appendRest fs ((placeIn fs.cwd base directory "").toString ++ "/") rest =
      .ok (placeIn fs.cwd base directory rest) := by
  have hdirectory : (placeIn fs.cwd base directory "").Normal := h.withoutRest.normal_placeIn
  have hvalid : (placeIn fs.cwd base directory "").isValid :=
    isValid_resolve_of_cwd h.cwdValid h.withoutRest.isValid
  have htext : isNameable ((placeIn fs.cwd base directory "").toString ++ "/" ++ rest) := by
    simp only [isNameable_append]
    exact ⟨⟨isNameable_toString hvalid, by decide⟩, h.rest⟩
  rw [appendRest, placeIn_eq fs.cwd base directory rest, ← hdirectory.resolve_ofString_append]
  exact if_pos (isValid_ofString htext)

end Place

section Rule

theorem isWildcard_append_star (s : String) : Mappings.isWildcard (s ++ "*") :=
  Text.endsWith_append_self s "*"

theorem dropStar_append_star (s : String) : Mappings.dropStar (s ++ "*") = s := by
  rw [Mappings.dropStar, Text.dropEnd, Text.dropEnd?_eq_some_iff.2 rfl]
  rfl

def tableBelow (cwd : List String) (base : Path) (key directory : String) : Mappings :=
  ⟨[], [(key ++ "/", [(placeIn cwd base directory "").toString ++ "/"])]⟩

theorem Grounded.ofRules_eq (h : Grounded fs base directory rest) (key : String) :
    Mappings.ofRules fs base (ruleBelow key directory) =
      (.ok (tableBelow fs.cwd base key directory), []) := by
  have hstar (s : String) : s ++ "/*" = s ++ "/" ++ "*" := by
    rw [String.append_assoc]
    rfl
  rw [Mappings.ofRules, ruleBelow, Mappings.addRules, Mappings.addRule, hstar key,
    if_pos (isWildcard_append_star _), Mappings.addWildcard, hstar ("./" ++ directory)]
  simp [isWildcard_append_star, dropStar_append_star, h.targetText_eq, bind, Except.bind, pure,
    Except.pure, Except.map, Mappings.addRules, Mappings.empty, Dictionary.insert, tableBelow]

theorem Grounded.resolve_tableBelow (h : Grounded fs base directory rest) (key : String) :
    (tableBelow fs.cwd base key directory).resolve fs base (key ++ "/" ++ rest) =
      .ok (if fs.sourceExists (placeIn fs.cwd base directory rest) then
        some (placeIn fs.cwd base directory rest).stripSource else none, []) := by
  have hmatching : Mappings.matching (tableBelow fs.cwd base key directory).wildcard
      (key ++ "/" ++ rest) =
        [(key ++ "/", [(placeIn fs.cwd base directory "").toString ++ "/"], rest)] := by
    simp [Mappings.matching, tableBelow, Text.dropStart?_eq_some_iff.2 rfl]
  have hfixed : (tableBelow fs.cwd base key directory).fixed.find? (key ++ "/" ++ rest) = none :=
    rfl
  simp only [Mappings.resolve, hfixed, Mappings.searched, hmatching, Mappings.files,
    List.mapM_cons, List.mapM_nil, Mappings.contribution?, h.appendRest_eq,
    FileSystem.askSource_coe, orRefused, Except.mapError, bind, Except.bind, pure, Except.pure]
  by_cases hexists : fs.sourceExists (placeIn fs.cwd base directory rest) <;> simp [hexists]

end Rule

section Lookup

def Target.projectFile? (t : Target) : Option Path := if t.external then none else some t.file

theorem canonical_eq_getD {lookup : Lookup} {specifier : String} {target? : Option Target}
    {warnings : List String}
    (htarget : lookup.target? fs specifier importer = .ok (target?, warnings)) :
    Specifiers.canonical fs ⟨root, lookup, []⟩ specifier importer =
      .ok (((target?.bind Target.projectFile?).map (moduleName fs.cwd root)).getD specifier,
        warnings) := by
  have hambient : specifier ∉ (Specifiers.mk root lookup []).ambient := List.not_mem_nil
  rw [Specifiers.canonical, if_neg hambient, htarget]
  obtain _ | ⟨file, _ | _⟩ := target? <;> rfl

theorem Grounded.target?_relative (h : Grounded fs base directory rest)
    (horigin : origin.parent = base) (table : MappingTable) (project : Path) :
    (Lookup.files table project).target? fs ("./" ++ directory ++ "/" ++ rest) origin =
      .ok ((fs.findSource? (placeIn fs.cwd base directory rest)).map (⟨·, false⟩), []) := by
  have hrelative : isRelativeSpecifier ("./" ++ directory ++ "/" ++ rest) := by
    have hstart : Text.startsWith "./" ("./" ++ directory ++ "/" ++ rest) := by
      rw [Text.startsWith, String.append_assoc, String.append_assoc,
        Text.dropStart?_eq_some_iff.2 rfl]
      rfl
    simp [isRelativeSpecifier, hstart]
  rw [Lookup.target?, if_pos hrelative, horigin, h.resolve_eq]
  simp [bind, Except.bind, pure, Except.pure, orRefused, Except.mapError]

/-- A specifier that is not relative belongs to the project if the file it is mapped to is there. -/
theorem Lookup.target?_of_resolve {table : Mappings} {specifier : String}
    {mapped? : Option Path} {warnings : List String}
    (hbare : isRelativeSpecifier specifier = false)
    (hmapped : table.resolve fs base specifier = .ok (mapped?, warnings))
    (project importer : Path) :
    ∃ target?, (Lookup.files ⟨base, table⟩ project).target? fs specifier importer =
        .ok (target?, warnings) ∧
      target?.bind Target.projectFile? = mapped?.bind fs.findSource? := by
  have hnot : ¬ isRelativeSpecifier specifier := by simp [hbare]
  have hpackage (package : Path) : (if fs.holds Node.isDirectory package then
      some (Target.mk package true) else none).bind Target.projectFile? = none := by
    split <;> rfl
  rw [Lookup.target?, if_neg hnot, hmapped]
  simp only [bind, Except.bind, FileSystem.seekSource?_coe, FileSystem.ask_coe, orRefused,
    Except.mapError]
  rcases mapped? with _ | file
  · exact ⟨_, rfl, hpackage _⟩
  cases hfound : fs.findSource? file with
  | some found => simp only [Option.bind_some, hfound]; exact ⟨some ⟨found, false⟩, rfl, rfl⟩
  | none => simp only [Option.bind_some, hfound]; exact ⟨_, rfl, hpackage _⟩

end Lookup

section Stripped

variable {directories : List String} {name ext : String}

theorem Path.Normal.stripSource_eq (h : place.Normal)
    (hplain : stripSourceExtension place.toString = place.toString) :
    place.stripSource = place := by
  rw [stripSource, hplain, ofString_toString h.names]

theorem isName_append_extension (hext : ext ∈ sourceExtensions) (hname : '/' ∉ name.toList) :
    IsName (name ++ ext) ∧ name ++ ext ≠ ".." := by
  have hall : ∀ ext ∈ sourceExtensions, '/' ∉ ext.toList ∧ 2 < ext.toList.length := by decide
  obtain ⟨hslash, hlength⟩ := hall ext hext
  exact isName_append hname hslash hlength

/-- A source extension is put behind the last name of a path. -/
theorem toString_append_extension (habove : Path.Normal ⟨.root, directories⟩)
    (hname : '/' ∉ name.toList) (hext : ext ∈ sourceExtensions) :
    Path.toString ⟨.root, directories ++ [name]⟩ ++ ext =
        Path.toString ⟨.root, directories ++ [name ++ ext]⟩ ∧
      Path.Normal ⟨.root, directories ++ [name ++ ext]⟩ := by
  obtain ⟨hother, hdown⟩ := isName_append_extension hext hname
  have hnames : ∀ part ∈ directories ++ [name ++ ext], IsName part :=
    List.forall_mem_append.2 ⟨habove.names, List.forall_mem_singleton.2 hother⟩
  refine ⟨?_, rfl, hnames, fun hup => ?_⟩
  · have htext (last : String) : Path.toString ⟨.root, directories ++ [last]⟩ =
        "/" ++ Text.join "/" (directories ++ [last]) := rfl
    rw [htext, htext, String.append_assoc, join_concat_append]
  · rcases List.mem_append.1 hup with hup | hup
    · exact habove.down hup
    · exact hdown (List.mem_singleton.1 hup).symm

/-- A file with another extension instead of its own. -/
theorem ofString_stripSourceExtension_append (hplace : place.Normal)
    (hparts : place.parts = directories ++ [name]) (hext : ext ∈ sourceExtensions) :
    ofString (stripSourceExtension place.toString ++ ext) =
        ⟨.root, directories ++ [stripSourceExtension name ++ ext]⟩ ∧
      Path.Normal ⟨.root, directories ++ [stripSourceExtension name ++ ext]⟩ := by
  obtain ⟨habove, hname⟩ := hplace.of_concat hparts
  obtain ⟨htext, hnormal⟩ := toString_append_extension habove
    (fun hslash => hname.noSlash (mem_of_mem_stripSourceExtension hslash)) hext
  have hstem : stripSourceExtension place.toString =
      Path.toString ⟨.root, directories ++ [stripSourceExtension name]⟩ :=
    stripSourceExtension_toString hplace hparts
  refine ⟨?_, hnormal⟩
  rw [hstem, htext, ofString_toString hnormal.names]

theorem stripSourceExtension_append_declaration (s : String) :
    stripSourceExtension (s ++ ".d.ts") = s := by
  rw [stripSourceExtension, sourceExtensions, List.findSome?_cons,
    Text.dropEnd?_eq_some_iff.2 rfl]
  rfl

theorem stripSourceExtension_append_tsx (s : String) :
    stripSourceExtension (s ++ ".tsx") = s := by
  have hnone : Text.dropEnd? ".d.ts" (s ++ ".tsx") = none := by
    refine Option.eq_none_iff_forall_not_mem.2 fun rest hrest => ?_
    have htext : s ++ ".tsx" = rest ++ ".d.ts" := Text.dropEnd?_eq_some_iff.1 hrest
    have hlast := congrArg (fun s => s.toList.getLast?) htext
    simp at hlast
  rw [stripSourceExtension, sourceExtensions, List.findSome?_cons, hnone]
  simp only [List.findSome?_cons, Text.dropEnd?_eq_some_iff.2 rfl, Option.getD_some]

/-- A file is looked up under its name without extension: what is found has an extension that is cut
again, be it another one. -/
theorem exists_findSource?_stripSource (hplace : place.Normal) (hfile : fs.isFile place)
    (hstem : place.stripSource.toString = stripSourceExtension place.toString)
    (halone : fs.isFile place.stripSource = false) :
    ∃ ext ∈ sourceExtensions,
      let found := ofString (stripSourceExtension place.toString ++ ext)
      fs.findSource? place.stripSource = some found ∧ fs.isFile found ∧
        stripSourceExtension (stripSourceExtension place.toString ++ ext) =
          stripSourceExtension place.toString := by
  obtain ⟨own, hown, htext⟩ : ∃ own ∈ sourceExtensions,
      place.toString = stripSourceExtension place.toString ++ own := by
    refine (eq_stripSourceExtension_or place.toString).resolve_left fun hplain => ?_
    rw [hplace.stripSource_eq hplain.symm, hfile] at halone
    cases halone
  have hplaceEq : ofString (stripSourceExtension place.toString ++ own) = place := by
    rw [← htext, ofString_toString hplace.names]
  have hagain : stripSourceExtension (stripSourceExtension place.toString ++ own) =
      stripSourceExtension place.toString := by rw [← htext]
  generalize stripSourceExtension place.toString = stem at *
  have hfind : fs.findSource? place.stripSource =
      ([ofString (stem ++ ".d.ts"), ofString (stem ++ ".tsx"), ofString (stem ++ ".ts")] ++
        sourceExtensions.map fun ext => place.stripSource / ("index" ++ ext)).find? fs.isFile := by
    rw [FileTree.findSource?, sourceCandidates, spellings, List.cons_append, List.find?_cons,
      halone]
    simp only [sourceExtensions, List.map_cons, List.map_nil, addExtension, hstem]
  rw [hfind]
  by_cases hdeclaration : fs.isFile (ofString (stem ++ ".d.ts"))
  · refine ⟨".d.ts", by decide, ?_, hdeclaration, stripSourceExtension_append_declaration stem⟩
    rw [List.cons_append, List.find?_cons, hdeclaration]
  by_cases htsx : fs.isFile (ofString (stem ++ ".tsx"))
  · refine ⟨".tsx", by decide, ?_, htsx, stripSourceExtension_append_tsx stem⟩
    simp [hdeclaration, htsx]
  · obtain rfl : own = ".ts" := by
      simp only [sourceExtensions, List.mem_cons, List.not_mem_nil, or_false] at hown
      rcases hown with rfl | rfl | rfl
      · exact absurd (hplaceEq ▸ hfile) hdeclaration
      · exact absurd (hplaceEq ▸ hfile) htsx
      · rfl
    refine ⟨".ts", by decide, ?_, hplaceEq ▸ hfile, hagain⟩
    have hts : fs.isFile (ofString (stem ++ ".ts")) := hplaceEq ▸ hfile
    simp [hdeclaration, htsx, hts]

/-- A file that is the only one of its name without extension, in a project with no file in the way
to the module root. -/
structure StandsAlone (fs : FileTree) (root place : Path) : Prop where
  normal : root.Normal
  clear : ∀ parts, parts <+: root.parts → fs.isFile ⟨.root, parts⟩ = false
  file : fs.isFile place
  plain : ∀ part ∈ place.parts, '\\' ∉ part.toList
  stem : place.stripSource.toString = stripSourceExtension place.toString
  alone : fs.isFile place.stripSource = false

theorem StandsAlone.not_prefix (h : StandsAlone fs root place) {p : Path} (hp : p.Normal)
    (hfile : fs.isFile p) : ¬ p.parts <+: root.parts := by
  intro hprefix
  obtain ⟨start, parts⟩ := p
  obtain rfl : start = .root := hp.absolute
  rw [h.clear parts hprefix] at hfile
  cases hfile

theorem StandsAlone.map_findSource? (h : StandsAlone fs root place) (hplace : place.Normal)
    (cwd : List String) :
    (fs.findSource? place.stripSource).map (moduleName cwd root) =
      some (moduleName cwd root place) := by
  obtain ⟨ext, hext, hfind, hfile, hagain⟩ :=
    exists_findSource?_stripSource hplace h.file h.stem h.alone
  have hbelow : ¬ place.parts <+: root.parts := h.not_prefix hplace h.file
  obtain ⟨directories, name, hparts⟩ := exists_concat_of_not_prefix hbelow
  obtain ⟨hfound, hnormal⟩ := ofString_stripSourceExtension_append hplace hparts hext
  have htext : stripSourceExtension
      (Path.toString ⟨.root, directories ++ [stripSourceExtension name ++ ext]⟩) =
        stripSourceExtension place.toString := by
    rw [stripSourceExtension_toString hplace hparts] at hagain ⊢
    rw [String.append_assoc, join_concat_append] at hagain
    exact hagain
  have hplain :
      ∀ part ∈ directories ++ [stripSourceExtension name ++ ext], '\\' ∉ part.toList := by
    have hother : '\\' ∉ (stripSourceExtension name ++ ext).toList := by
      have hall : ∀ ext ∈ sourceExtensions, '\\' ∉ ext.toList := by decide
      rw [String.toList_append, List.mem_append, not_or]
      refine ⟨fun hback => h.plain name (by simp [hparts]) ?_, hall ext hext⟩
      exact mem_of_mem_stripSourceExtension hback
    intro part hpart
    rcases List.mem_append.1 hpart with hpart | hpart
    · exact h.plain part (hparts ▸ List.mem_append_left _ hpart)
    · rwa [List.mem_singleton.1 hpart]
  rw [hfound] at hfile hfind
  rw [hfind, Option.map_some, Option.some_inj]
  exact (moduleName_eq_iff h.normal hnormal hplace hplain h.plain (h.not_prefix hnormal hfile)
    hbelow).2 htext

end Stripped

namespace FileTree

def relativeName? (fs : FileTree) (root place : Path) : Option String :=
  (fs.findSource? place).map (moduleName fs.cwd root)

def mappedName? (fs : FileTree) (root place : Path) : Option String :=
  if fs.sourceExists place then fs.relativeName? root place.stripSource else none

/-- At a place without extension mapping finds what is no index file. -/
theorem mappedName?_eq_iff (hplace : place.Normal)
    (hplain : stripSourceExtension place.toString = place.toString) :
    fs.mappedName? root place = fs.relativeName? root place ↔
      fs.sourceExists place ∨ fs.relativeName? root place = none := by
  rw [mappedName?, hplace.stripSource_eq hplain]
  by_cases hexists : fs.sourceExists place
  · simp [hexists]
  · simp [hexists, eq_comm]

theorem findSource?_of_isFile (h : fs.isFile place) : fs.findSource? place = some place := by
  rw [findSource?, sourceCandidates, spellings, List.cons_append, List.find?_cons, h]

theorem mappedName?_of_standsAlone (hplace : place.Normal) (h : StandsAlone fs root place) :
    fs.mappedName? root place = fs.relativeName? root place := by
  have hexists : fs.sourceExists place := by simp [sourceExists, spellings, h.file]
  rw [mappedName?, if_pos hexists, relativeName?, h.map_findSource? hplace, relativeName?,
    findSource?_of_isFile h.file, Option.map_some]

end FileTree

namespace Specifiers

/-- With the one rule of a project, what is below its key and the relative specifier of the same
place are left as they are or known by the names that stand for the place. At a place without
extension the names agree exactly if the place is a source file or nothing is found there, and they
agree at a file that stands alone. -/
theorem canonical_mapped_relative (fs : FileTree)
    (base root project importer origin place : Path) (key directory rest : String)
    (h : Grounded fs base directory rest) (horigin : origin.parent = base)
    (hbare : isRelativeSpecifier (key ++ "/" ++ rest) = false)
    (hplace : place = placeIn fs.cwd base directory rest) :
    ∃ table, Mappings.ofRules fs base (ruleBelow key directory) = (.ok table, []) ∧
      Specifiers.canonical fs ⟨root, .files ⟨base, table⟩ project, []⟩ (key ++ "/" ++ rest)
          importer =
        .ok ((fs.mappedName? root place).getD (key ++ "/" ++ rest), []) ∧
      Specifiers.canonical fs ⟨root, .files ⟨base, table⟩ project, []⟩
          ("./" ++ directory ++ "/" ++ rest) origin =
        .ok ((fs.relativeName? root place).getD ("./" ++ directory ++ "/" ++ rest), []) ∧
      (stripSourceExtension place.toString = place.toString →
        (fs.mappedName? root place = fs.relativeName? root place ↔
          fs.sourceExists place ∨ fs.relativeName? root place = none)) ∧
      (StandsAlone fs root place → fs.mappedName? root place = fs.relativeName? root place) := by
  subst hplace
  have hnormal : (placeIn fs.cwd base directory rest).Normal := h.normal_placeIn
  refine ⟨_, h.ofRules_eq key, ?_, ?_, FileTree.mappedName?_eq_iff hnormal,
    FileTree.mappedName?_of_standsAlone hnormal⟩
  · obtain ⟨target?, htarget, hfile⟩ := Lookup.target?_of_resolve hbare
      (h.resolve_tableBelow key) project importer
    have hname : (target?.bind Target.projectFile?).map (ModulePack.moduleName fs.cwd root) =
        fs.mappedName? root (placeIn fs.cwd base directory rest) := by
      rw [hfile, FileTree.mappedName?]
      by_cases hexists : fs.sourceExists (placeIn fs.cwd base directory rest)
      · rw [if_pos hexists, if_pos hexists, Option.bind_some, FileTree.relativeName?]
      · rw [if_neg hexists, if_neg hexists, Option.bind_none, Option.map_none]
    rw [canonical_eq_getD htarget, hname]
  · have hname : ((fs.findSource? (placeIn fs.cwd base directory rest)).map
        (Target.mk · false)).bind Target.projectFile? =
          fs.findSource? (placeIn fs.cwd base directory rest) := by
      cases fs.findSource? (placeIn fs.cwd base directory rest) <;> rfl
    rw [canonical_eq_getD (h.target?_relative horigin _ project), hname, FileTree.relativeName?]

def widgets : FileTree :=
  ⟨[], [(["p"], .directory), (["p", "src"], .directory), (["p", "src", "list.ts"], .file .empty),
    (["p", "src", "grid"], .directory), (["p", "src", "grid", "index.ts"], .file .empty)]⟩

def projectWith (table : Mappings) : Specifiers :=
  ⟨⟨.root, ["p"]⟩, .files ⟨⟨.root, ["p"]⟩, table⟩ ⟨.root, ["p"]⟩, []⟩

theorem canonical_mapped_relative_list :
    Grounded widgets ⟨.root, ["p"]⟩ "src" "../src/list" ∧
      ∃ table, Mappings.ofRules widgets ⟨.root, ["p"]⟩ (ruleBelow "ui" "src") = (.ok table, []) ∧
        (projectWith table).canonical widgets "ui/../src/list" ⟨.root, []⟩ =
          .ok ("/src/list", []) ∧
        (projectWith table).canonical widgets "./src/../src/list" ⟨.root, ["p", "main.ts"]⟩ =
          .ok ("/src/list", []) := by
  have hgrounded : Grounded widgets ⟨.root, ["p"]⟩ "src" "../src/list" :=
    ⟨⟨rfl, by decide, by decide⟩, rfl, by decide, by decide, by decide, by decide⟩
  obtain ⟨table, htable, hmapped, hrelative, hagree, -⟩ := canonical_mapped_relative widgets
    ⟨.root, ["p"]⟩ ⟨.root, ["p"]⟩ ⟨.root, ["p"]⟩ ⟨.root, []⟩ ⟨.root, ["p", "main.ts"]⟩ _ "ui" "src"
    "../src/list" hgrounded rfl (by decide) rfl
  have hname : widgets.relativeName? ⟨.root, ["p"]⟩
      (placeIn [] ⟨.root, ["p"]⟩ "src" "../src/list") = some "/src/list" := by decide
  have hsame := (hagree (by decide)).2 (.inl (by decide))
  refine ⟨hgrounded, table, htable, hmapped.trans ?_, hrelative.trans ?_⟩
  · exact congrArg (fun name? : Option String => Except.ok (name?.getD "ui/../src/list", []))
      (hsame.trans hname)
  · exact congrArg (fun name? : Option String => Except.ok (name?.getD "./src/../src/list", []))
      hname

/-- A directory is found through its index file by a relative specifier alone. -/
theorem canonical_mapped_index :
    ∃ table, Mappings.ofRules widgets ⟨.root, ["p"]⟩ (ruleBelow "ui" "src") = (.ok table, []) ∧
      (projectWith table).canonical widgets "ui/grid" ⟨.root, ["p", "main.ts"]⟩ =
        .ok ("ui/grid", []) ∧
      (projectWith table).canonical widgets "./src/grid" ⟨.root, ["p", "main.ts"]⟩ =
        .ok ("/src/grid/index", []) :=
  ⟨_, rfl, rfl, rfl⟩

end Specifiers

end ModulePack
