import Mathlib.Data.List.Induction
import ModulePack.Manifest
import ModulePack.Proofs.Except
import ModulePack.Proofs.FileSystem.Writing
import ModulePack.Proofs.Value.Texts

/-!
# Profiles

A profile is a merge: loading a manifest under it comes to the same as loading the manifest in which
its settings are written into the sections that they belong to. Settings that no profile may make
are warned about and have no other effect.
-/

namespace ModulePack

theorem Value.toFields_table (fields : List (String × Value)) :
    (Value.table fields).toFields = .ok fields := by
  simp only [toFields, toPairs, bind, Except.bind, pure, Except.pure, List.filterMap_map]
  exact congrArg Except.ok List.filterMap_some

theorem Dictionary.find?_eq_of_forall₂ {α : Type} {fields fields' : Dictionary α} {key : String}
    (h : List.Forall₂ (fun x y => x.1 = y.1 ∧ (x.1 = key → x.2 = y.2)) fields fields') :
    fields.find? key = fields'.find? key := by
  induction h with
  | nil => rfl
  | @cons x y _ _ hxy _ ih =>
    obtain ⟨first, v⟩ := x
    obtain ⟨other, w⟩ := y
    obtain ⟨rfl, hvalue⟩ : first = other ∧ (first = key → v = w) := hxy
    rw [find?, find?, ih]
    split
    · next hkey => rw [hvalue hkey]
    · rfl

inductive Config.Field
  | path (p : Path)
  | value (v : Value)
  | values (vs : List Value)
  | rules (rules : Dictionary (List Value))
  | pairs (pairs : List (Value × Value))

open Config.Field in
/-- The fields of a configuration by the keys of a manifest that they are made from. -/
def Config.fields (c : Config) : Dictionary Config.Field :=
  [("entry_module", value c.entryModule),
    ("entry_function", value c.entryFunction),
    ("out_file", path c.outFile),
    ("base_url", path c.compiler.baseUrl),
    ("root_dir", path c.compiler.rootDir),
    ("out_dir", path c.compiler.outDir),
    ("target", value c.compiler.target),
    ("paths", rules c.compiler.paths),
    ("ambient_modules", values c.compiler.ambientModules),
    ("amd_require_name", value c.amdRequireName),
    ("commonjs_require_name", value c.commonjsRequireName),
    ("prefer_commonjs", value c.preferCommonjs),
    ("minify", value c.minify),
    ("embed_tslib", value c.embedHelper),
    ("no_loader_code", value c.noLoaderCode),
    ("error_handler_name", value c.errorHandlerName),
    ("eval_capability", value c.evalCapability),
    ("module_blacklist", values c.excludePatterns),
    ("module_whitelist", values c.includePatterns),
    ("minify_options", pairs c.minifyOptions)]

namespace Manifest

variable {data : Dictionary Value} {settings : List (String × Value)} {name other key : String}
  {v : Value} {fs fs' : FileSystem} {p : Path} {s t : Sections} {c d : Config}

def sectionOf? (key : String) : Option String :=
  if key ∈ requiredKeys then some "project"
  else if key ∈ compilerKeys then some "compiler"
  else if key ∈ bundleKeys then some "bundle"
  else none

def fieldsOf (data : Dictionary Value) (name : String) : Dictionary Value :=
  ((data.find? name).bind Value.table?).getD []

def write (data : Dictionary Value) (key : String) (v : Value) : Dictionary Value :=
  match sectionOf? key with
  | some name => data.insert name (.table ((fieldsOf data name).insert key v))
  | none => data

def merged (data : Dictionary Value) (settings : List (String × Value)) : Dictionary Value :=
  settings.foldl (fun data (key, v) => write data key v) data

/-- Whether the sections of a manifest are tables where they are there. -/
def Tabular (data : Dictionary Value) : Prop :=
  ∀ name ∈ ["project", "compiler", "bundle"], ∀ v, data.find? name = some v →
    ∃ fields, v = .table fields

def sectionsOf (data : Dictionary Value) : Sections :=
  ⟨fieldsOf data "project", fieldsOf data "compiler", fieldsOf data "bundle"⟩

theorem merged_cons (data : Dictionary Value) (key : String) (v : Value)
    (settings : List (String × Value)) :
    merged data ((key, v) :: settings) = merged (write data key v) settings := rfl

theorem fieldsOf_write (data : Dictionary Value) (key : String) (v : Value) (name : String) :
    fieldsOf (write data key v) name =
      if sectionOf? key = some name then (fieldsOf data name).insert key v
      else fieldsOf data name := by
  rw [write]
  cases sectionOf? key with
  | none => rfl
  | some target =>
    simp only [Option.some.injEq]
    by_cases h : target = name
    · simp [h, fieldsOf, Dictionary.find?_insert, Value.table?]
    · simp [h, fieldsOf, Dictionary.find?_insert]

theorem Tabular.write (h : Tabular data) (key : String) (v : Value) :
    Tabular (write data key v) := by
  intro name hname w hw
  rw [Manifest.write] at hw
  split at hw
  · rw [Dictionary.find?_insert] at hw
    split at hw
    · exact ⟨_, (Option.some.inj hw).symm⟩
    · exact h name hname w hw
  · exact h name hname w hw

theorem Tabular.merged (h : Tabular data) (settings : List (String × Value)) :
    Tabular (merged data settings) := by
  induction settings generalizing data with
  | nil => exact h
  | cons setting settings ih => exact ih (h.write _ _)

theorem sections_eq (h : Tabular data) : sections data = .ok (sectionsOf data) := by
  have hfields : ∀ name ∈ ["project", "compiler", "bundle"],
      sectionFields data name = .ok (fieldsOf data name) := by
    intro name hname
    rw [sectionFields, fieldsOf]
    cases hv : data.find? name with
    | none => rfl
    | some v =>
      obtain ⟨fields, rfl⟩ := h name hname v hv
      exact Value.toFields_table fields
  rw [sections, hfields "project" (by simp), hfields "compiler" (by simp),
    hfields "bundle" (by simp)]
  rfl

/-- Putting a setting over the sections is writing it into the manifest. -/
theorem override?_sectionsOf (data : Dictionary Value) (key : String) (v : Value) :
    (sectionsOf data).override? key v =
      (sectionOf? key).map fun _ => sectionsOf (write data key v) := by
  simp only [Sections.override?, sectionsOf, fieldsOf_write, sectionOf?]
  split
  · simp
  split
  · simp
  split
  · simp
  · rfl

def unknownKeys (settings : List (String × Value)) : List String :=
  (Dictionary.keys settings).filter fun key => (sectionOf? key).isNone

theorem overrideAll_sectionsOf (data : Dictionary Value) (settings : List (String × Value)) :
    (sectionsOf data).overrideAll settings =
      (sectionsOf (merged data settings), unknownKeys settings) := by
  induction settings using List.reverseRecOn with
  | nil => rfl
  | append_singleton settings setting ih =>
    obtain ⟨key, v⟩ := setting
    have hmerged : merged data (settings ++ [(key, v)]) = write (merged data settings) key v := by
      rw [merged, List.foldl_append]
      rfl
    have hunknown : unknownKeys (settings ++ [(key, v)]) =
        unknownKeys settings ++ unknownKeys [(key, v)] := by
      simp [unknownKeys, Dictionary.keys]
    rw [Sections.overrideAll] at ih ⊢
    rw [List.foldl_append, ih, List.foldl_cons, List.foldl_nil, hmerged, hunknown]
    simp only [override?_sectionsOf]
    cases hkey : sectionOf? key with
    | some name => simp [unknownKeys, Dictionary.keys, hkey]
    | none =>
      have hsame : write (merged data settings) key v = merged data settings := by rw [write, hkey]
      simp [unknownKeys, Dictionary.keys, hkey, hsame]

theorem profileSettings_eq {profiles : Dictionary Value} {profile : String}
    (hprofiles : data.find? "profiles" = some (.table profiles))
    (hsettings : Dictionary.find? profiles profile = some (.table settings)) :
    profileSettings p data profile = .ok settings := by
  have htexts : ∀ v ∈ settings.map fun field => Value.text field.1, v.IsText := by
    intro v hv
    obtain ⟨field, -, rfl⟩ := List.mem_map.1 hv
    exact ⟨field.1, rfl⟩
  obtain ⟨names, hnames⟩ := Value.exists_sorted_eq_ok htexts
  simp [profileSettings, hprofiles, hasName, Dictionary.contains, Value.field?, hsettings,
    Value.toList, Value.elements?, hnames, Except.mapError, bind, Except.bind, pure, Except.pure]

theorem ofTable_none (fs : FileSystem) (p : Path) (h : Tabular data) :
    ofTable fs p data none = (configure fs p (sectionsOf data), []) := by
  rw [ofTable, sections_eq h]
  rfl

theorem ofTable_some {profiles : Dictionary Value} {profile : String} (fs : FileSystem) (p : Path)
    (h : Tabular data) (hprofile : profile ≠ "")
    (hprofiles : data.find? "profiles" = some (.table profiles))
    (hsettings : Dictionary.find? profiles profile = some (.table settings)) :
    ofTable fs p data (some profile) =
      (configure fs p (sectionsOf (merged data settings)),
        (unknownKeys settings).map (unknownKeyWarning p profile)) := by
  have hfilter : (some profile).filter (· != "") = some profile := by
    simp [Option.filter, hprofile]
  rw [ofTable, sections_eq h, hfilter]
  simp only [profileSettings_eq hprofiles hsettings, overrideAll_sectionsOf]

theorem find?_fieldsOf_merged (data : Dictionary Value) (hkeys : (Dictionary.keys settings).Nodup)
    (name key : String) :
    (fieldsOf (merged data settings) name).find? key =
      if sectionOf? key = some name then
        (Dictionary.find? settings key).or ((fieldsOf data name).find? key)
      else (fieldsOf data name).find? key := by
  induction settings generalizing data with
  | nil => simp [merged]
  | cons setting settings ih =>
    obtain ⟨first, v⟩ := setting
    obtain ⟨hnew, hkeys⟩ := List.nodup_cons.1 hkeys
    rw [merged_cons, ih _ hkeys, fieldsOf_write]
    by_cases hfirst : first = key
    · subst hfirst
      have hrest : Dictionary.find? settings first = none := Dictionary.find?_eq_none_iff.2 hnew
      simp only [hrest, Option.none_or, Dictionary.find?, if_true, Option.some_or]
      split
      · rw [Dictionary.find?_insert, if_pos rfl]
      · rfl
    · have hkept : (if sectionOf? first = some name then (fieldsOf data name).insert first v
          else fieldsOf data name).find? key = (fieldsOf data name).find? key := by
        split
        · rw [Dictionary.find?_insert, if_neg hfirst]
        · rfl
      rw [hkept, Dictionary.find?, if_neg hfirst]

/-- A field of a configuration hangs on nothing but the setting of its key. -/
theorem find?_fields_eq (hc : configOfSections fs p s = .ok c)
    (hd : configOfSections fs p t = .ok d)
    (hproject : s.project.find? key = t.project.find? key)
    (hcompiler : s.compiler.find? key = t.compiler.find? key)
    (hbundle : s.bundle.find? key = t.bundle.find? key) :
    c.fields.find? key = d.fields.find? key := by
  simp only [configOfSections, compilerOptions, bind_eq_ok_iff, pure, Except.pure,
    Except.ok.injEq] at hc hd
  obtain ⟨_, ⟨_, hbase, _, hroot, _, hout, _, hpaths, _, hambient, rfl⟩, _, hfile, _, hexclude, _,
    hinclude, _, hoptions, rfl⟩ := hc
  obtain ⟨_, ⟨_, hbase', _, hroot', _, hout', _, hpaths', _, hambient', rfl⟩, _, hfile', _,
    hexclude', _, hinclude', _, hoptions', rfl⟩ := hd
  refine Dictionary.find?_eq_of_forall₂ ?_
  simp only [Config.fields, List.forall₂_cons, List.Forall₂.nil, true_and, and_true]
  -- At its own key each field is made from equal settings; the other fields are not looked at.
  refine ⟨?_, ?_, ?_, ?_, ?_, ?_, ?_, ?_, ?_, ?_, ?_, ?_, ?_, ?_, ?_, ?_, ?_, ?_, ?_, ?_⟩ <;>
    rintro rfl
  all_goals simp_all

theorem projectDir_eq (h : configOfSections fs p s = .ok c) : c.projectDir = p := by
  simp only [configOfSections, bind_eq_ok_iff, pure, Except.pure, Except.ok.injEq] at h
  obtain ⟨_, -, _, -, _, -, _, -, _, -, rfl⟩ := h
  rfl

theorem configure_eq_ok_iff :
    configure fs p s = .ok c ↔
      missingKeys s.project = [] ∧ configOfSections fs p.parent s = .ok c := by
  rw [configure]
  cases missingKeys s.project with
  | nil => simp [mapError_eq_ok_iff]
  | cons key keys => simp

theorem configure_eq_missingKeys_iff {missing : List String} :
    configure fs p s = .error (.config (.missingKeys p missing)) ↔
      missing ≠ [] ∧ missing = missingKeys s.project := by
  rw [configure]
  cases missingKeys s.project with
  | nil =>
    simp only [ne_eq, not_and_self_iff, iff_false]
    cases configOfSections fs p.parent s <;> simp [Except.mapError]
  | cons key keys =>
    simp only [Except.error.injEq, Error.config.injEq, ConfigError.missingKeys.injEq, true_and]
    constructor
    · rintro rfl
      exact ⟨List.cons_ne_nil key keys, rfl⟩
    · rintro ⟨-, rfl⟩
      rfl

/-- No file is looked at to make a configuration. -/
theorem configure_eq_of_cwd_eq (h : fs'.cwd = fs.cwd) (p : Path) (s : Sections) :
    configure fs' p s = configure fs p s := by
  have hresolve : fs'.resolve = fs.resolve := by
    funext p
    rw [FileTree.resolve, FileTree.resolve, h]
  have hsetting : resolveSetting fs' = resolveSetting fs := by
    funext directory v
    simp only [resolveSetting, hresolve]
  have hbase : baseDirectory fs' = baseDirectory fs := by
    funext directory v
    simp only [baseDirectory, resolveBase, hresolve]
  simp only [configure, configOfSections, compilerOptions, hsetting, hbase]

theorem load_eq {profile : Option String} {path : Path} (hpath : fs.resolve path = .ok p)
    (hread : readTable fs p = .ok data) : load fs path profile = ofTable fs p data profile := by
  simp only [load, hpath, hread]

theorem missingKeys_merged (data : Dictionary Value)
    (hkeys : (Dictionary.keys settings).Nodup) :
    missingKeys (sectionsOf (merged data settings)).project =
      requiredKeys.filter fun key => !(((Dictionary.find? settings key).or
        ((fieldsOf data "project").find? key)).getD .null).isTruthy := by
  refine List.filter_congr fun key hkey => ?_
  have hsection : sectionOf? key = some "project" := if_pos hkey
  rw [sectionsOf, find?_fieldsOf_merged data hkeys, if_pos hsection]

/-- Loading a manifest under a profile gives what loading the manifest gives in which the settings
of the profile are written into their sections, be it a configuration or an error, and a warning for
each setting that no profile may make. So a field is what it is under all other settings, also under
none at all, that give its key the same value or none; and a required key is missing if the profile,
or the manifest where the profile does not set it, gives it a value that does not count. -/
theorem load_profile (fs : FileSystem) (path p : Path) (profile : String)
    (data profiles : Dictionary Value) (settings : List (String × Value))
    (hpath : fs.resolve path = .ok p) (hread : readTable fs p = .ok data)
    (hsections : Tabular data) (hprofiles : data.find? "profiles" = some (.table profiles))
    (hprofile : profile ≠ "")
    (hsettings : Dictionary.find? profiles profile = some (.table settings))
    (hkeys : (Dictionary.keys settings).Nodup) :
    load fs path (some profile) = ((ofTable fs p (merged data settings) none).1,
      (unknownKeys settings).map (unknownKeyWarning p profile)) ∧
    (∀ fs', fs'.cwd = fs.cwd → readTable fs' p = .ok (merged data settings) →
      (load fs' path none).1 = (load fs path (some profile)).1) ∧
    (∀ others c d, (Dictionary.keys others).Nodup →
      (load fs path (some profile)).1 = .ok c →
      (ofTable fs p (merged data others) none).1 = .ok d →
        c.projectDir = d.projectDir ∧
        ∀ key, sectionOf? key = none ∨
          Dictionary.find? settings key = Dictionary.find? others key →
            c.fields.find? key = d.fields.find? key) ∧
    ∀ missing, (load fs path (some profile)).1 = .error (.config (.missingKeys p missing)) ↔
      missing ≠ [] ∧ missing = requiredKeys.filter fun key =>
        !(((Dictionary.find? settings key).or
          ((fieldsOf data "project").find? key)).getD .null).isTruthy := by
  have hload : load fs path (some profile) =
      (configure fs p (sectionsOf (merged data settings)),
        (unknownKeys settings).map (unknownKeyWarning p profile)) := by
    rw [load_eq hpath hread, ofTable_some fs p hsections hprofile hprofiles hsettings]
  refine ⟨?_, ?_, ?_, ?_⟩
  · rw [hload, ofTable_none fs p (hsections.merged settings)]
  · intro fs' hcwd hread'
    have hpath' : fs'.resolve path = .ok p := by
      rw [← hpath, FileTree.resolve, FileTree.resolve, hcwd]
    rw [hload, load_eq hpath' hread', ofTable_none fs' p (hsections.merged settings)]
    exact configure_eq_of_cwd_eq hcwd p _
  · intro others c d hothers hc hd
    rw [hload, configure_eq_ok_iff] at hc
    rw [ofTable_none fs p (hsections.merged others), configure_eq_ok_iff] at hd
    refine ⟨(projectDir_eq hc.2).trans (projectDir_eq hd.2).symm, fun key hkey => ?_⟩
    have hsame (name : String) : (fieldsOf (merged data settings) name).find? key =
        (fieldsOf (merged data others) name).find? key := by
      rw [find?_fieldsOf_merged data hkeys, find?_fieldsOf_merged data hothers]
      rcases hkey with hkey | hkey
      · simp [hkey]
      · rw [hkey]
    exact find?_fields_eq hc.2 hd.2 (hsame _) (hsame _) (hsame _)
  · intro missing
    rw [hload, ← missingKeys_merged data hkeys]
    exact configure_eq_missingKeys_iff

/-- A manifest without an entry function, and a profile that names one. The directory of compiled
code is none of the settings that a profile may make. -/
def releaseText : String :=
  "[project]\nentry_module='m'\nout_file='o'\n[profiles.r]\nentry_function='f'\nout_dir='d'"

@[match_pattern]
def releaseSettings : Dictionary Value := [("entry_function", .text "f"), ("out_dir", .text "d")]

@[match_pattern]
def releaseProfiles : Dictionary Value := [("r", .table releaseSettings)]

@[match_pattern]
def releaseTable : Dictionary Value :=
  [("project", .table [("entry_module", .text "m"), ("out_file", .text "o")]),
    ("profiles", .table releaseProfiles)]

def releaseMergedText : String :=
  "[project]\nentry_module='m'\nout_file='o'\nentry_function='f'\n" ++
    "[profiles.r]\nentry_function='f'\nout_dir='d'"

@[match_pattern]
def releaseMergedTable : Dictionary Value :=
  [("project",
      .table [("entry_module", .text "m"), ("out_file", .text "o"), ("entry_function", .text "f")]),
    ("profiles", .table releaseProfiles)]

def manifestFiles (text : String) : FileTree := ⟨[], [(["m.toml"], .file text.toUTF8)]⟩

def manifestPath : Path := ⟨.here, ["m.toml"]⟩

theorem readTable_manifestFiles {text : String} {table : Dictionary Value}
    (htext : '\r' ∉ text.toList) (hparse : Toml.parse text = .ok table) :
    readTable (manifestFiles text) ⟨.root, ["m.toml"]⟩ = .ok table := by
  have hread : FileSystem.readText (manifestFiles text) ⟨.root, ["m.toml"]⟩ = .ok text := by
    have hbytes :
        FileSystem.readBytes (manifestFiles text) ⟨.root, ["m.toml"]⟩ = .ok text.toUTF8 := rfl
    have hvalid : Path.isValid ⟨.root, ["m.toml"]⟩ := rfl
    rw [FileSystem.readText, if_pos hvalid, hbytes]
    simp only [Text.decode?_toUTF8 htext]
  simp only [readTable, hread, hparse]

/-- Equality of values is not decidable, so that what is parsed is compared with a pattern. -/
theorem parse_eq_releaseTable {text : String} (h : Toml.parse text matches .ok releaseTable) :
    Toml.parse text = .ok releaseTable := by
  split at h
  · assumption
  · contradiction

theorem parse_eq_releaseMergedTable {text : String}
    (h : Toml.parse text matches .ok releaseMergedTable) :
    Toml.parse text = .ok releaseMergedTable := by
  split at h
  · assumption
  · contradiction

theorem load_profile_release :
    (load (manifestFiles releaseText) manifestPath none).1 =
        .error (.config (.missingKeys ⟨.root, ["m.toml"]⟩ ["entry_function"])) ∧
      (load (manifestFiles releaseText) manifestPath (some "r")).2 =
        ["Ignoring unknown key 'out_dir' in profile 'r' of /m.toml"] ∧
      ((load (manifestFiles releaseText) manifestPath (some "r")).1.toOption.map
        Config.entryFunction = some (.text "f")) ∧
      (load (manifestFiles releaseMergedText) manifestPath none).1 =
        (load (manifestFiles releaseText) manifestPath (some "r")).1 := by
  have hpath (text : String) :
      (manifestFiles text).resolve manifestPath = .ok ⟨.root, ["m.toml"]⟩ := rfl
  have hbase : readTable (manifestFiles releaseText) ⟨.root, ["m.toml"]⟩ = .ok releaseTable :=
    readTable_manifestFiles (by decide +kernel) (parse_eq_releaseTable (by decide +kernel))
  have hmerged : readTable (manifestFiles releaseMergedText) ⟨.root, ["m.toml"]⟩ =
      .ok (merged releaseTable releaseSettings) :=
    readTable_manifestFiles (by decide +kernel) (parse_eq_releaseMergedTable (by decide +kernel))
  have htables : Tabular releaseTable := by
    intro name hname v hv
    simp only [List.mem_cons, List.not_mem_nil, or_false] at hname
    rcases hname with rfl | rfl | rfl <;> cases hv
    exact ⟨_, rfl⟩
  obtain ⟨hprofile, hsame, -⟩ := load_profile (manifestFiles releaseText) manifestPath
    ⟨.root, ["m.toml"]⟩ "r" releaseTable releaseProfiles releaseSettings (hpath _) hbase htables rfl
    (by decide) rfl (by decide)
  refine ⟨?_, ?_, ?_, hsame (manifestFiles releaseMergedText) rfl hmerged⟩
  · rw [load_eq (hpath _) hbase]
    rfl
  · rw [hprofile]
    rfl
  · rw [hprofile]
    rfl

end Manifest

end ModulePack
