import ModulePack.Mapping
import ModulePack.Proofs.Path.Text

/-!
# Substitution in targets

A target of a wildcard rule is resolved when the table is made, and the rest of a specifier is
appended to its text when the specifier is looked up. What comes out is the path of the target with
the rest in the place of its star, resolved once: the slash that resolving takes from the end of a
target is put back, and a name at the end of a target stays at the end of its text. So the rest may
lead up, out of the target and beyond it.
-/

namespace ModulePack

namespace Path

variable {base : Path} {s stem name : String} {lead : List String}

theorem startOf_eq_here_iff {cs : List Char} : startOf cs = .here ↔ cs.head? ≠ some '/' := by
  cases cs with
  | nil => simp [startOf]
  | cons c cs =>
    by_cases hc : c = '/'
    · subst hc
      simp [startOf_cons_slash]
    · simp [startOf, hc]

theorem start_ofString_append (hs : s ≠ "") (t : String) :
    (ofString (s ++ t)).start = .here ↔ (ofString s).start = .here := by
  obtain ⟨c, cs, hcs⟩ : ∃ c cs, s.toList = c :: cs :=
    List.exists_cons_of_ne_nil (by simpa using hs)
  rw [ofString, ofString, startOf_eq_here_iff, startOf_eq_here_iff, String.toList_append, hcs]
  rfl

def climbStart (base : Path) (s : String) : List String :=
  if (ofString s).start = .here then base.parts.foldl climb [] else []

theorem climbStart_append (hs : s ≠ "") (t : String) :
    climbStart base (s ++ t) = climbStart base s := by
  simp only [climbStart, start_ofString_append hs t]

section Directory

variable (habsolute : base.start ≠ .here)

include habsolute

theorem resolve_div (s : String) (cwd : List String) :
    (base / s).resolve cwd = ⟨.root, (partsOf s).foldl climb (climbStart base s)⟩ := by
  have hdiv : base / s = base.join (ofString s) := rfl
  rw [hdiv, resolve_of_absolute (start_join habsolute), join, climbStart]
  split
  · rw [List.foldl_append]
    rfl
  · rfl

theorem normal_resolve_div (hnames : ∀ part ∈ base.parts, IsName part) (s : String)
    (cwd : List String) : ((base / s).resolve cwd).Normal := by
  have hdiv : base / s = base.join (ofString s) := rfl
  have hstart : (base / s).start ≠ .here := start_join habsolute
  have hroot : Normal ⟨.root, []⟩ := ⟨rfl, by simp, by simp⟩
  rw [resolve_of_absolute hstart, ← resolve_of_absolute hstart []]
  refine normal_resolve hroot fun part hpart => ?_
  rw [hdiv, join] at hpart
  split at hpart
  · rcases List.mem_append.1 hpart with hpart | hpart
    · exact hnames part hpart
    · exact isName_of_mem_partsOf hpart
  · exact isName_of_mem_partsOf hpart

variable (hnames : ∀ part ∈ base.parts, IsName part) (hstem : stem ≠ "")

include hnames hstem

/-- Behind a stem that ends with a slash, with the slash put back. -/
theorem resolve_behind_slash
    (hclosed : ∀ rest, partsOf (stem ++ rest) = partsOf stem ++ partsOf rest)
    (rest : String) (cwd : List String) :
    (ofString (((base / stem).resolve cwd).toString ++ "/" ++ rest)).resolve cwd =
      (base / (stem ++ rest)).resolve cwd := by
  rw [(normal_resolve_div habsolute hnames stem cwd).resolve_ofString_append,
    resolve_div habsolute, resolve_div habsolute, climbStart_append hstem, hclosed,
    List.foldl_append]

/-- Behind a stem that ends with a name. -/
theorem resolve_behind_name (hname : IsName name) (hup : name ≠ "..")
    (hlead : ∀ rest, partsOf (stem ++ rest) = lead ++ partsOf (name ++ rest))
    (rest : String) (cwd : List String) :
    (ofString (((base / stem).resolve cwd).toString ++ rest)).resolve cwd =
      (base / (stem ++ rest)).resolve cwd := by
  have hstemParts : partsOf stem = lead ++ [name] := by
    have hempty := hlead ""
    rwa [String.append_empty, String.append_empty, partsOf_of_isName hname] at hempty
  have hparts : ((base / stem).resolve cwd).parts =
      lead.foldl climb (climbStart base stem) ++ [name] := by
    rw [resolve_div habsolute, hstemParts, List.foldl_append, List.foldl_cons, List.foldl_nil,
      climb_of_ne hup]
  rw [(normal_resolve_div habsolute hnames stem cwd).resolve_ofString_concat hparts,
    resolve_div habsolute, climbStart_append hstem, hlead, List.foldl_append]

end Directory

end Path

open ModulePack.Path

/-- A name that does not end with a backslash. -/
structure OrdinaryName (name : String) : Prop where
  isName : IsName name
  notUp : name ≠ ".."
  plain : Text.endsWith "\\" name = false

/-- What a rest may be put behind: a directory, or the beginning of a name. -/
inductive Stem : String → Prop
  | empty : Stem ""
  | here : Stem "."
  | directory (above : String) : Stem (above ++ "/")
  | name {name : String} (h : OrdinaryName name) : Stem name
  | below (above : String) {name : String} (h : OrdinaryName name) : Stem (above ++ "/" ++ name)

def settledStem (stem : String) : String := if stem = "" ∨ stem = "." then "./" else stem

variable {fs : FileSystem} {base : Path} {stem name rest : String}

theorem isValid_div_settledStem :
    (base / (settledStem stem ++ rest)).isValid ↔ (base / stem).isValid ∧ isNameable rest := by
  have hstart : (ofString (settledStem stem ++ rest)).start = .here ↔
      (ofString stem).start = .here := by
    rw [settledStem]
    split
    · next hstem =>
      rw [start_ofString_append (by decide)]
      rcases hstem with rfl | rfl <;> decide
    · next hstem => exact start_ofString_append (fun hempty => hstem (.inl hempty)) rest
  have hnameable : isNameable (settledStem stem) ↔ isNameable stem := by
    rw [settledStem]
    split
    · next hstem => rcases hstem with rfl | rfl <;> decide
    · rfl
  rw [isValid_div_iff, isValid_div_iff, hstart, isNameable_append, hnameable, and_assoc]

/-- One character ends a text if it is the last one. -/
theorem endsWith_iff_getLast? {tail s : String} (c : Char) (htail : tail.toList = [c]) :
    Text.endsWith tail s ↔ s.toList.getLast? = some c := by
  rw [Text.endsWith_iff, List.getLast?_eq_some_iff]
  constructor
  · rintro ⟨rest, rfl⟩
    exact ⟨rest.toList, by rw [String.toList_append, htail]⟩
  · rintro ⟨cs, hcs⟩
    exact ⟨String.ofList cs, String.toList_inj.1 (by simp [hcs, htail])⟩

theorem targetText_of_slash (hvalid : (base / stem).isValid)
    (h : stem = "" ∨ stem = "." ∨ Text.endsWith "/" stem) :
    targetText fs base stem = .ok (((base / stem).resolve fs.cwd).toString ++ "/") := by
  have hresolve : fs.resolve (base / stem) = .ok ((base / stem).resolve fs.cwd) := if_pos hvalid
  have hslash : (stem = "" || stem = "." || Text.endsWith "/" stem || Text.endsWith "\\" stem) := by
    simp only [Bool.or_eq_true, decide_eq_true_eq]
    grind
  rw [targetText, hresolve]
  simp only [bind, Except.bind, hslash, if_true]
  rfl

/-- Nothing is put behind a name at the end of a stem. -/
theorem targetText_of_name (hvalid : (base / stem).isValid) (hname : OrdinaryName name)
    (hend : stem.toList.getLast? = name.toList.getLast?) (hstem : stem ≠ "" ∧ stem ≠ ".") :
    targetText fs base stem = .ok ((base / stem).resolve fs.cwd).toString := by
  have hresolve : fs.resolve (base / stem) = .ok ((base / stem).resolve fs.cwd) := if_pos hvalid
  have hslash : Text.endsWith "/" stem = false := by
    refine Bool.eq_false_iff.2 fun hends => hname.isName.noSlash ?_
    rw [endsWith_iff_getLast? '/' rfl, hend] at hends
    exact List.mem_of_getLast? hends
  have hback : Text.endsWith "\\" stem = false := by
    refine Bool.eq_false_iff.2 fun hends => Bool.eq_false_iff.1 hname.plain ?_
    rw [endsWith_iff_getLast? '\\' rfl] at hends ⊢
    rwa [← hend]
  rw [targetText, hresolve]
  simp [bind, Except.bind, hslash, hback, hstem, pure, Except.pure]

theorem isNameable_resolve_div (habsolute : base.start ≠ .here) (hvalid : (base / stem).isValid) :
    isNameable ((base / stem).resolve fs.cwd).toString :=
  isNameable_toString (isValid_resolve (start_join habsolute) hvalid)

/-- Whether a rest can be put behind the text of a stem as it can be put behind the stem. -/
def Takes (fs : FileSystem) (base : Path) (stem rest : String) : Prop :=
  ∃ text, targetText fs base stem = .ok text ∧ isNameable text ∧
    (ofString (text ++ rest)).resolve fs.cwd = (base / (settledStem stem ++ rest)).resolve fs.cwd

section

variable (habsolute : base.start ≠ .here) (hnames : ∀ part ∈ base.parts, IsName part)
  (hvalid : (base / stem).isValid) (rest : String)

include habsolute hnames hvalid

/-- A stem that is empty or a dot is the directory itself. -/
theorem takes_here (hstem : stem = "" ∨ stem = ".") : Takes fs base stem rest := by
  have hsettled : settledStem stem = "./" := if_pos hstem
  have hnone : partsOf stem = [] ∧ (ofString stem).start = .here := by
    rcases hstem with rfl | rfl <;> decide
  have hsame : (base / stem).resolve fs.cwd = (base / "./").resolve fs.cwd := by
    rw [resolve_div habsolute, resolve_div habsolute, hnone.1, climbStart, if_pos hnone.2]
    rfl
  refine ⟨_, targetText_of_slash hvalid (hstem.imp_right .inl),
    isNameable_append.2 ⟨isNameable_resolve_div habsolute hvalid, by decide⟩, ?_⟩
  rw [hsettled, hsame]
  exact resolve_behind_slash habsolute hnames (by decide) (partsOf_append ".") rest fs.cwd

theorem takes_slash (hstem : Text.endsWith "/" stem) : Takes fs base stem rest := by
  have hne (s : String) (hs : Text.endsWith "/" s = false) : stem ≠ s := by
    rintro rfl
    simp [hs] at hstem
  have hsettled : settledStem stem = stem :=
    if_neg (not_or.2 ⟨hne "" (by decide), hne "." (by decide)⟩)
  obtain ⟨above, habove⟩ := Text.endsWith_iff.1 hstem
  have hclosed (rest : String) : partsOf (stem ++ rest) = partsOf above ++ partsOf rest := by
    rw [habove, partsOf_append]
  have hparts : partsOf stem = partsOf above := by simpa using hclosed ""
  refine ⟨_, targetText_of_slash hvalid (.inr (.inr hstem)),
    isNameable_append.2 ⟨isNameable_resolve_div habsolute hvalid, by decide⟩, ?_⟩
  rw [hsettled]
  refine resolve_behind_slash habsolute hnames (hne "" (by decide)) (fun rest => ?_) rest fs.cwd
  rw [hclosed, hparts]

/-- The name at the end of a stem runs into the rest wherever it stands. -/
theorem takes_name {lead : List String} (hname : OrdinaryName name)
    (hend : stem.toList.getLast? = name.toList.getLast?) (hstem : stem ≠ "" ∧ stem ≠ ".")
    (hlead : ∀ rest, partsOf (stem ++ rest) = lead ++ partsOf (name ++ rest)) :
    Takes fs base stem rest := by
  have hsettled : settledStem stem = stem := if_neg (not_or.2 hstem)
  refine ⟨_, targetText_of_name hvalid hname hend hstem,
    isNameable_resolve_div habsolute hvalid, ?_⟩
  rw [hsettled]
  exact resolve_behind_name habsolute hnames hstem.1 hname.isName hname.notUp hlead rest fs.cwd

theorem Stem.takes (h : Stem stem) : Takes fs base stem rest := by
  cases h with
  | empty => exact takes_here habsolute hnames hvalid rest (.inl rfl)
  | here => exact takes_here habsolute hnames hvalid rest (.inr rfl)
  | directory above =>
    exact takes_slash habsolute hnames hvalid rest (Text.endsWith_append_self above "/")
  | name hname =>
    refine takes_name habsolute hnames hvalid rest hname rfl ⟨hname.isName.ne_empty, ?_⟩
      fun rest => (List.nil_append _).symm
    rintro rfl
    exact absurd hname.isName.kept (by decide)
  | @below above name hname =>
    have hslash (s : String) (hs : '/' ∉ s.toList) : above ++ "/" ++ name ≠ s := by
      rintro rfl
      simp at hs
    have hend : (above ++ "/" ++ name).toList.getLast? = name.toList.getLast? := by
      obtain ⟨c, hc⟩ : ∃ c, name.toList.getLast? = some c :=
        Option.ne_none_iff_exists'.1 (by simpa using hname.isName.ne_empty)
      rw [String.toList_append, List.getLast?_append, hc]
      rfl
    have hlead (rest : String) : partsOf (above ++ "/" ++ name ++ rest) =
        partsOf above ++ partsOf (name ++ rest) := by
      rw [String.append_assoc, partsOf_append]
    exact takes_name habsolute hnames hvalid rest hname hend
      ⟨hslash "" (by decide), hslash "." (by decide)⟩ hlead

end

/-- To resolve the target of a rule and to put the rest of a specifier behind its text comes to the
same as to put the rest behind the target and to resolve what comes out, also where neither can be
done. -/
theorem appendRest_targetText (fs : FileSystem) (base : Path) (stem rest : String)
    (habsolute : base.start ≠ .here) (hnames : ∀ part ∈ base.parts, IsName part)
    (hstem : Stem stem) :
    (targetText fs base stem >>= fun text => appendRest fs text rest) =
      fs.resolve (base / (settledStem stem ++ rest)) := by
  by_cases hvalid : (base / stem).isValid
  · obtain ⟨text, htext, hnameable, hsame⟩ : Takes fs base stem rest :=
      hstem.takes habsolute hnames hvalid rest
    have happend : (ofString (text ++ rest)).isValid ↔
        (base / (settledStem stem ++ rest)).isValid := by
      rw [isValid_ofString_iff, isNameable_append, isValid_div_settledStem]
      simp [hnameable, hvalid]
    rw [htext]
    simp only [bind, Except.bind, appendRest, FileTree.resolve, happend, hsame]
  · have hsettled : ¬ (base / (settledStem stem ++ rest)).isValid :=
      fun h => hvalid (isValid_div_settledStem.1 h).1
    rw [targetText, FileTree.resolve, FileTree.resolve, if_neg hvalid, if_neg hsettled]
    rfl

/-- The rest leads up out of the name that it runs into, out of the target and out of the directory
that specifiers are mapped from. -/
theorem appendRest_targetText_upward :
    (targetText default ⟨.root, ["p", "q"]⟩ "x/../lib/a" >>= fun text =>
        appendRest default text "b/../../../c//./d") =
      .ok ⟨.root, ["p", "c", "d"]⟩ := by
  have hname : OrdinaryName "a" := ⟨⟨by decide, by decide⟩, by decide, by decide⟩
  exact (appendRest_targetText default ⟨.root, ["p", "q"]⟩ "x/../lib/a" "b/../../../c//./d"
    (by decide) (by decide) (.below "x/../lib" hname)).trans rfl

end ModulePack
