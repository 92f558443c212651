import Mathlib.Data.List.Basic
import ModulePack.Proofs.Path.Way
import ModulePack.Specifier

/-!
# Names of modules

A source extension is cut from the last part of a text alone. So the name of a module is the way to
the directory of its file and the name of the file without extension, and the file is found again
from it up to the extension. Two files have the same name exactly if they differ in their extension
at most, wherever they lie.
-/

namespace ModulePack

section Extension

variable {s t tail name : String} {directories : List String}

/-- What holds no slash is cut from what stands behind the last slash. -/
theorem dropEnd?_append_slash (htail : '/' ∉ tail.toList) (s t : String) :
    Text.dropEnd? tail (s ++ "/" ++ t) = (Text.dropEnd? tail t).map (s ++ "/" ++ ·) := by
  refine Option.ext fun rest => ?_
  simp only [Option.map_eq_some_iff, Text.dropEnd?_eq_some_iff]
  constructor
  · intro h
    have hlist := congrArg String.toList h
    rw [String.toList_append, String.toList_append (s := rest), List.append_eq_append_iff] at hlist
    obtain ⟨cs, hrest, ht⟩ | ⟨cs, hslash, htail'⟩ := hlist
    · refine ⟨String.ofList cs, ?_, ?_⟩
      · exact String.toList_inj.1 (by simpa using ht)
      · exact String.toList_inj.1 (by simpa using hrest.symm)
    · -- The tail would begin before the last slash, unless it is all that stands behind it.
      rcases List.eq_nil_or_concat' cs with rfl | ⟨cs, c, rfl⟩
      · refine ⟨"", ?_, ?_⟩
        · exact String.toList_inj.1 (by simpa using htail'.symm)
        · exact String.toList_inj.1 (by simpa using hslash)
      · have hc : c = '/' := by
          have hlast := congrArg List.getLast? hslash
          simpa [eq_comm] using hlast
        exact absurd (by rw [htail', hc]; simp) htail
  · rintro ⟨rest, rfl, rfl⟩
    simp only [String.append_assoc]

theorem stripSourceExtension_append_slash (s t : String) :
    stripSourceExtension (s ++ "/" ++ t) = s ++ "/" ++ stripSourceExtension t := by
  have hextension : ∀ ext ∈ sourceExtensions, '/' ∉ ext.toList := by decide
  have hfind (extensions : List String) (h : ∀ ext ∈ extensions, '/' ∉ ext.toList) :
      (extensions.findSome? fun ext => Text.dropEnd? ext (s ++ "/" ++ t)) =
        (extensions.findSome? fun ext => Text.dropEnd? ext t).map (s ++ "/" ++ ·) := by
    induction extensions with
    | nil => rfl
    | cons ext extensions ih =>
      rw [List.forall_mem_cons] at h
      rw [List.findSome?_cons, List.findSome?_cons, dropEnd?_append_slash h.1, ih h.2]
      cases Text.dropEnd? ext t <;> rfl
  rw [stripSourceExtension, hfind _ hextension, stripSourceExtension]
  cases sourceExtensions.findSome? fun ext => Text.dropEnd? ext t <;> rfl

/-- A text is what is left of it with one of the extensions, or with nothing. -/
theorem eq_stripSourceExtension_or (s : String) :
    s = stripSourceExtension s ∨ ∃ ext ∈ sourceExtensions, s = stripSourceExtension s ++ ext := by
  rw [stripSourceExtension]
  cases hfind : sourceExtensions.findSome? fun ext => Text.dropEnd? ext s with
  | none => exact .inl rfl
  | some rest =>
    obtain ⟨ext, hext, hrest⟩ := List.exists_of_findSome?_eq_some hfind
    exact .inr ⟨ext, hext, Text.dropEnd?_eq_some_iff.1 hrest⟩

theorem stripSourceExtension_join (directories : List String) (name : String) :
    stripSourceExtension (Text.join "/" (directories ++ [name])) =
      Text.join "/" (directories ++ [stripSourceExtension name]) := by
  induction directories with
  | nil => rfl
  | cons directory directories ih =>
    rw [Path.join_cons_concat, Path.join_cons_concat, stripSourceExtension_append_slash, ih]

theorem mem_of_mem_stripSourceExtension {c : Char}
    (h : c ∈ (stripSourceExtension name).toList) : c ∈ name.toList := by
  obtain heq | ⟨ext, -, heq⟩ := eq_stripSourceExtension_or name
  · rwa [heq]
  · rw [heq, String.toList_append]
    exact List.mem_append_left _ h

end Extension

open ModulePack.Path

variable {p q root : Path} {directories : List String} {name : String} {cwd : List String}

theorem Path.Normal.resolve_eq (h : p.Normal) (cwd : List String) : p.resolve cwd = p := by
  obtain ⟨start, parts⟩ := p
  obtain rfl : start = .root := h.absolute
  have hdown : ".." ∉ parts := h.down
  have hresolve : Path.resolve cwd ⟨.root, parts⟩ = ⟨.root, parts.foldl climb []⟩ := rfl
  rw [hresolve, foldl_climb_of_down hdown, List.nil_append]

theorem Path.Normal.isName_way (h : p.Normal) (base : List String) :
    ∀ part ∈ way base p.parts, IsName part := by
  intro part hpart
  rcases mem_way hpart with rfl | hpart
  · exact isName_up
  · exact h.names part hpart

/-- The way from the module root leads to the file. -/
theorem Path.Normal.resolve_way (hroot : root.Normal) (hp : p.Normal) :
    (root / (Path.mk .here (way root.parts p.parts)).toString).resolve cwd = p := by
  have hway : (root / (Path.mk .here (way root.parts p.parts)).toString) =
      root.join ⟨.here, way root.parts p.parts⟩ :=
    congrArg root.join (ofString_toString (hp.isName_way root.parts))
  rw [hway, hroot.resolve_join, foldl_climb_way hp.down]
  obtain ⟨start, parts⟩ := p
  obtain rfl : start = .root := hp.absolute
  rfl

theorem moduleName_eq (hroot : root.Normal) (hp : p.Normal)
    (hplain : ∀ part ∈ p.parts, '\\' ∉ part.toList) :
    moduleName cwd root p =
      "/" ++ stripSourceExtension (Path.mk .here (way root.parts p.parts)).toString := by
  have hway : p.relativeText cwd root = (Path.mk .here (way root.parts p.parts)).toString := by
    rw [relativeText_eq, hroot.resolve_eq, hp.resolve_eq]
  have hkeep : ∀ c ∈ (Path.mk .here (way root.parts p.parts)).toString.toList,
      (if c = '\\' then '/' else c) = c := by
    intro c hc
    refine if_neg ?_
    rintro rfl
    obtain hslash | hdot | ⟨part, hpart, hback⟩ := mem_toList_toString hc
    · exact absurd hslash (by decide)
    · exact absurd hdot (by decide)
    · rcases mem_way hpart with rfl | hpart
      · exact absurd hback (by decide)
      · exact hplain part hpart hback
  rw [moduleName, hway, List.map_congr_left hkeep, List.map_id', String.ofList_toList]

/-- The name of the module in a file that is not on the way to the module root. -/
theorem moduleName_concat (hroot : root.Normal) (hp : p.Normal)
    (hplain : ∀ part ∈ p.parts, '\\' ∉ part.toList) (hparts : p.parts = directories ++ [name])
    (hbelow : ¬ p.parts <+: root.parts) :
    moduleName cwd root p =
      "/" ++ Text.join "/" (way root.parts directories ++ [stripSourceExtension name]) := by
  have hway : way root.parts p.parts = way root.parts directories ++ [name] := by
    rw [hparts] at hbelow ⊢
    exact way_concat hbelow
  rw [moduleName_eq hroot hp hplain, hway, toString_concat, stripSourceExtension_join]

theorem stripSourceExtension_toString (hp : p.Normal) (hparts : p.parts = directories ++ [name]) :
    stripSourceExtension p.toString =
      "/" ++ Text.join "/" (directories ++ [stripSourceExtension name]) := by
  have htext : p.toString = "" ++ "/" ++ Text.join "/" (directories ++ [name]) := by
    rw [Path.toString, hp.absolute, hparts]
    rfl
  rw [htext, stripSourceExtension_append_slash, stripSourceExtension_join]
  rfl

theorem exists_concat_of_not_prefix {parts others : List String} (h : ¬ parts <+: others) :
    ∃ directories name, parts = directories ++ [name] := by
  rcases List.eq_nil_or_concat' parts with rfl | ⟨directories, name, rfl⟩
  · exact absurd List.nil_prefix h
  · exact ⟨directories, name, rfl⟩

/-- Directories, and the name in them but for its extension, are told from their text. -/
theorem join_stripSourceExtension_inj {directories' : List String} {name' : String}
    (hdirectories : ∀ part ∈ directories, IsName part)
    (hdirectories' : ∀ part ∈ directories', IsName part) (hname : IsName name)
    (hname' : IsName name')
    (h : "/" ++ Text.join "/" (directories ++ [stripSourceExtension name]) =
      "/" ++ Text.join "/" (directories' ++ [stripSourceExtension name'])) :
    directories = directories' ∧ stripSourceExtension name = stripSourceExtension name' :=
  join_concat_inj hdirectories hdirectories'
    (fun hslash => hname.noSlash (mem_of_mem_stripSourceExtension hslash))
    (fun hslash => hname'.noSlash (mem_of_mem_stripSourceExtension hslash))
    ((String.append_right_inj _).1 h)

theorem Path.Normal.of_concat (hp : p.Normal) (hparts : p.parts = directories ++ [name]) :
    Path.Normal ⟨.root, directories⟩ ∧ IsName name := by
  have hnames := hp.names
  have hdown := hp.down
  rw [hparts] at hnames hdown
  refine ⟨⟨rfl, fun part hpart => hnames part (List.mem_append_left _ hpart), ?_⟩, ?_⟩
  · exact fun hup => hdown (List.mem_append_left _ hup)
  · exact hnames name (by simp)

/-- Files that are not on the way to the module root have the same name exactly if they are the same
but for their extension. -/
theorem moduleName_eq_iff (hroot : root.Normal) (hp : p.Normal) (hq : q.Normal)
    (hpplain : ∀ part ∈ p.parts, '\\' ∉ part.toList)
    (hqplain : ∀ part ∈ q.parts, '\\' ∉ part.toList) (hpbelow : ¬ p.parts <+: root.parts)
    (hqbelow : ¬ q.parts <+: root.parts) :
    moduleName cwd root p = moduleName cwd root q ↔
      stripSourceExtension p.toString = stripSourceExtension q.toString := by
  obtain ⟨above, name, hpparts⟩ := exists_concat_of_not_prefix hpbelow
  obtain ⟨above', name', hqparts⟩ := exists_concat_of_not_prefix hqbelow
  obtain ⟨habove, hname⟩ := hp.of_concat hpparts
  obtain ⟨habove', hname'⟩ := hq.of_concat hqparts
  rw [moduleName_concat hroot hp hpplain hpparts hpbelow,
    moduleName_concat hroot hq hqplain hqparts hqbelow, stripSourceExtension_toString hp hpparts,
    stripSourceExtension_toString hq hqparts]
  constructor
  · intro h
    obtain ⟨hway, hstrip⟩ := join_stripSourceExtension_inj (habove.isName_way _)
      (habove'.isName_way _) hname hname' h
    have hsame : above = above' := way_inj habove.down habove'.down hway
    rw [hsame, hstrip]
  · intro h
    obtain ⟨hsame, hstrip⟩ :
        above = above' ∧ stripSourceExtension name = stripSourceExtension name' :=
      join_stripSourceExtension_inj habove.names habove'.names hname hname' h
    rw [hsame, hstrip]

namespace Specifiers

/-- The file of a module is found again from the name of the module and a source extension. The
files that are not on the way to the module root have the same name exactly if they are the same but
for their extension. -/
theorem moduleName_identifies (fs : FileSystem) (s : Specifiers) (p q : Path)
    (hroot : s.root.Normal) (hp : p.Normal) (hq : q.Normal)
    (hpplain : ∀ part ∈ p.parts, '\\' ∉ part.toList)
    (hqplain : ∀ part ∈ q.parts, '\\' ∉ part.toList) :
    (∃ text, s.moduleName fs p = "/" ++ text ∧
      ∃ way ∈ text :: sourceExtensions.map (text ++ ·), (s.root / way).resolve fs.cwd = p ∧
        (s.root.isValid → p.isValid → fs.resolve (s.root / way) = .ok p)) ∧
    (¬ p.parts <+: s.root.parts → ¬ q.parts <+: s.root.parts →
      (s.moduleName fs p = s.moduleName fs q ↔
        stripSourceExtension p.toString = stripSourceExtension q.toString)) := by
  refine ⟨⟨_, moduleName_eq hroot hp hpplain, (Path.mk .here (way s.root.parts p.parts)).toString,
    ?_, hroot.resolve_way hp, ?_⟩, moduleName_eq_iff hroot hp hq hpplain hqplain⟩
  · obtain hsame | ⟨ext, hext, hsame⟩ :=
      eq_stripSourceExtension_or (Path.mk .here (way s.root.parts p.parts)).toString
    · rw [← hsame]
      exact List.mem_cons_self
    · refine List.mem_cons_of_mem _ (List.mem_map.2 ⟨ext, hext, hsame.symm⟩)
  · intro hrootValid hpValid
    have hway : (Path.mk .here (way s.root.parts p.parts)).isValid := by
      refine isValid_iff.2 fun part hpart => ?_
      rcases mem_way hpart with rfl | hpart
      · decide
      · exact isValid_iff.1 hpValid part hpart
    have hvalid := isValid_join hrootValid (isValid_ofString (isNameable_toString hway))
    exact (if_pos hvalid).trans (congrArg Except.ok (hroot.resolve_way hp))

/-- Only the names of modules below `/p/src` begin with a part that leads nowhere up. -/
def sourcesOnly : Specifiers := ⟨⟨.root, ["p", "src"]⟩, .listed [], []⟩

def dotted (extension : String) : Path := ⟨.root, ["p", "lib", ".." ++ extension]⟩

theorem normal_dotted (extension : String) (h : extension ∈ sourceExtensions) :
    (dotted extension).Normal ∧ ∀ part ∈ (dotted extension).parts, '\\' ∉ part.toList := by
  have hall : ∀ extension ∈ sourceExtensions, (∀ part ∈ (dotted extension).parts, IsName part) ∧
      ".." ∉ (dotted extension).parts ∧ ∀ part ∈ (dotted extension).parts, '\\' ∉ part.toList := by
    decide
  obtain ⟨hnames, hdown, hplain⟩ := hall extension h
  exact ⟨⟨rfl, hnames, hdown⟩, hplain⟩

theorem moduleName_identifies_dotted :
    sourcesOnly.moduleName default (dotted ".ts") = "/../lib/.." ∧
      sourcesOnly.moduleName default (dotted ".d.ts") = "/../lib/.." ∧
      (sourcesOnly.root / "../lib/...ts").resolve [] = dotted ".ts" := by
  obtain ⟨hp, hpplain⟩ := normal_dotted ".ts" (by decide)
  obtain ⟨hq, hqplain⟩ := normal_dotted ".d.ts" (by decide)
  have hroot : sourcesOnly.root.Normal := ⟨rfl, by decide, by decide⟩
  obtain ⟨-, hsame⟩ := moduleName_identifies default sourcesOnly (dotted ".ts") (dotted ".d.ts")
    hroot hp hq hpplain hqplain
  have hname : sourcesOnly.moduleName default (dotted ".ts") = "/../lib/.." := by decide
  have hother := (hsame (by decide) (by decide)).2 (by decide)
  exact ⟨hname, hother ▸ hname, by decide⟩

end Specifiers

end ModulePack
