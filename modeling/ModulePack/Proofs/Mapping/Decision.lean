import ModulePack.Proofs.Mapping.Search
import ModulePack.Proofs.Path.Naming

/-!
# Tables and look-ups that fail

To make a table and to look up a specifier fail only for a path that cannot be or that the host
refuses to look at. Where all texts that paths are made of can name files, and the host refuses
nothing, there is a table and an answer. An answer always decides where the specifier leads.
-/

namespace ModulePack.Mappings

variable {fs : FileSystem} {base : Path} {rest specifier : String} {targets texts : List String}
  {rules : Dictionary (List String)} {m : Mappings}

/-- Nothing that a path is made of holds a character that no path can hold. -/
structure Usable (base : Path) (rules : Dictionary (List String)) (specifier : String) : Prop where
  base : base.isValid
  targets : ∀ key targets, (key, targets) ∈ rules → ∀ target ∈ targets, Path.isNameable target
  specifier : Path.isNameable specifier

theorem resolve_of_isValid {p : Path} (h : p.isValid) : fs.resolve p = .ok (p.resolve fs.cwd) :=
  if_pos h

theorem isNameable_dropStar {target : String} (h : Path.isNameable target) :
    Path.isNameable (dropStar target) := by
  by_cases hwildcard : isWildcard target
  · rw [eq_dropStar_append hwildcard] at h
    exact (Path.isNameable_append.1 h).1
  · rw [isWildcard, Text.endsWith, Bool.not_eq_true, Option.isSome_eq_false_iff,
      Option.isNone_iff_eq_none] at hwildcard
    rwa [dropStar, Text.dropEnd, hwildcard]

theorem exists_contribution_of_isNameable (hlook : ∀ p, fs.Answers p)
    (hrest : Path.isNameable rest) (htexts : ∀ text ∈ texts, Path.isNameable text) :
    ∃ answer, contribution? fs rest texts = .ok answer := by
  induction texts with
  | nil => exact ⟨none, rfl⟩
  | cons text texts ih =>
    rw [List.forall_mem_cons] at htexts
    obtain ⟨answer, hanswer⟩ := ih htexts.2
    have hvalid : (Path.ofString (text ++ rest)).isValid :=
      Path.isValid_ofString (Path.isNameable_append.2 ⟨htexts.1, hrest⟩)
    rw [contribution?, appendRest, resolve_of_isValid hvalid]
    simp only [bind, Except.bind, FileSystem.askSource_of_answers fun q _ => hlook q, orRefused,
      Except.mapError]
    split
    · exact ⟨_, rfl⟩
    · exact ⟨answer, hanswer⟩

section

variable (fs : FileSystem) (habsolute : base.start ≠ .here) (hbase : base.isValid)

include habsolute hbase

theorem exists_targetText {stem : String} (hstem : Path.isNameable stem) :
    ∃ text, targetText fs base stem = .ok text ∧ Path.isNameable text := by
  have hvalid : (base / stem).isValid := Path.isValid_join hbase (Path.isValid_ofString hstem)
  have hstart : (base / stem).start ≠ .here := Path.start_join habsolute
  have htext : Path.isNameable ((base / stem).resolve fs.cwd).toString :=
    Path.isNameable_toString (Path.isValid_resolve hstart hvalid)
  rw [targetText, resolve_of_isValid hvalid]
  simp only [bind, Except.bind]
  split
  · exact ⟨_, rfl, Path.isNameable_append.2 ⟨htext, by decide⟩⟩
  · exact ⟨_, rfl, htext⟩

theorem exists_texts (htargets : ∀ target ∈ targets, Path.isNameable target) :
    ∃ texts, targets.mapM (targetText fs base <| dropStar ·) = .ok texts := by
  refine exists_mapM_eq_ok_iff.2 fun target htarget => ?_
  obtain ⟨text, htext, -⟩ :=
    exists_targetText fs habsolute hbase (isNameable_dropStar (htargets target htarget))
  exact ⟨text, htext⟩

theorem isNameable_of_mem_texts (htargets : ∀ target ∈ targets, Path.isNameable target)
    (htexts : targets.mapM (targetText fs base <| dropStar ·) = .ok texts) :
    ∀ text ∈ texts, Path.isNameable text := by
  intro text htext
  obtain ⟨target, htarget, heq⟩ := (mem_iff_of_mapM_eq_ok htexts).1 htext
  obtain ⟨other, hother, hnameable⟩ :=
    exists_targetText fs habsolute hbase (isNameable_dropStar (htargets target htarget))
  obtain rfl : other = text := Except.ok.inj (hother.symm.trans heq)
  exact hnameable

theorem exists_addRule (hlook : ∀ p, fs.Answers p)
    (htargets : ∀ target ∈ targets, Path.isNameable target) (m : Mappings) (key : String) :
    ∃ m', (m.addRule fs base key targets).1 = .ok m' := by
  rw [addRule]
  split
  · obtain ⟨texts, htexts⟩ := exists_texts fs habsolute hbase htargets
    exact ⟨_, addWildcard_eq_ok_iff.2 ⟨texts, htexts, rfl⟩⟩
  · have hcandidates : ∃ candidates, fixedCandidates fs base targets = .ok candidates := by
      refine exists_mapM_eq_ok_iff.2 fun target htarget => ⟨_, resolve_of_isValid ?_⟩
      have hnameable := htargets target (List.mem_filter.1 htarget).1
      exact Path.isValid_join hbase (Path.isValid_ofString hnameable)
    obtain ⟨candidates, hcandidates⟩ := hcandidates
    have hsources := FileSystem.sourcesAmong_of_answers fun p (_ : p ∈ candidates) q _ => hlook q
    exact ⟨_, addFixed_eq_ok_iff.2 ⟨candidates, hcandidates, ⟨_, hsources⟩, rfl⟩⟩

/-- A table is made of rules all of whose targets can be used. -/
theorem exists_addRules (hlook : ∀ p, fs.Answers p)
    (htargets : ∀ key targets, (key, targets) ∈ rules → ∀ target ∈ targets, Path.isNameable target)
    (m : Mappings) : ∃ m', (m.addRules fs base rules).1 = .ok m' := by
  induction rules generalizing m with
  | nil => exact ⟨m, rfl⟩
  | cons rule rules ih =>
    obtain ⟨key, targets⟩ := rule
    obtain ⟨next, hnext⟩ :=
      exists_addRule fs habsolute hbase hlook (htargets key targets List.mem_cons_self) m key
    obtain ⟨m', hm'⟩ := ih (fun key targets hmem => htargets key targets (.tail _ hmem)) next
    refine ⟨m', ?_⟩
    rw [addRules]
    rcases hrule : m.addRule fs base key targets with ⟨_, warnings⟩
    rw [hrule] at hnext
    cases hnext
    exact hm'

theorem exists_searched (m : Mappings) (specifier : String) :
    ∃ searched, m.searched fs base specifier = .ok searched := by
  rw [searched]
  split
  · have hstem : Path.isNameable "./" := by decide
    obtain ⟨text, htext, -⟩ := exists_targetText fs habsolute hbase hstem
    rw [fallback, htext]
    exact ⟨_, rfl⟩
  · exact ⟨_, rfl⟩

end

theorem Usable.of_applies (h : Usable base rules specifier)
    (happlies : Applies rules specifier targets rest) :
    (∀ target ∈ targets, Path.isNameable target) ∧ Path.isNameable rest := by
  cases happlies with
  | rule hrule _ hstart =>
    have hspecifier := h.specifier
    rw [hstart, Path.isNameable_append] at hspecifier
    exact ⟨h.targets _ _ hrule, hspecifier.2⟩
  | implicit _ => exact ⟨by decide, h.specifier⟩

theorem Usable.exists_files (h : Usable base rules specifier) (habsolute : base.start ≠ .here)
    (hlook : ∀ p, fs.Answers p) (hm : Holds fs base rules m)
    {searched : List (String × List String × String)}
    (hsearched : m.searched fs base specifier = .ok searched) :
    ∃ found, files fs searched = .ok found := by
  have hanswers : ∃ answers,
      searched.mapM (fun rule => contribution? fs rule.2.2 rule.2.1) = .ok answers := by
    refine exists_mapM_eq_ok_iff.2 ?_
    rintro ⟨start, texts, rest⟩ hmem
    obtain ⟨targets, happlies, htexts⟩ := (hm.searched_spec hsearched).1 start texts rest hmem
    obtain ⟨htargets, hrest⟩ := h.of_applies happlies
    have hnameable := isNameable_of_mem_texts fs habsolute h.base htargets htexts
    exact exists_contribution_of_isNameable hlook hrest hnameable
  obtain ⟨answers, hanswers⟩ := hanswers
  exact ⟨_, bind_eq_ok_iff.2 ⟨answers, hanswers, rfl⟩⟩

/-- A look-up answers where all can be used that paths are made of and the host looks at all. -/
theorem Usable.exists_resolve (h : Usable base rules specifier) (habsolute : base.start ≠ .here)
    (hlook : ∀ p, fs.Answers p) (hm : Holds fs base rules m) :
    ∃ answer warnings, m.resolve fs base specifier = .ok (answer, warnings) := by
  rw [resolve]
  split
  · exact ⟨_, _, rfl⟩
  · obtain ⟨searched, hsearched⟩ := exists_searched fs habsolute h.base m specifier
    obtain ⟨found, hfound⟩ := h.exists_files habsolute hlook hm hsearched
    rw [hsearched]
    simp only [bind, Except.bind, hfound]
    rcases found with _ | ⟨first, _ | ⟨second, others⟩⟩ <;> exact ⟨_, _, rfl⟩

/-- In the table of rules with different keys a look-up answers the one file that the specifier
leads to, if there is one; and there is a table, and an answer, where nothing is in what paths are
made of that no path can hold and the host refuses to look at none. -/
theorem resolve_decides (fs : FileSystem) (base : Path) (rules : Dictionary (List String))
    (specifier : String) (habsolute : base.start ≠ .here) (hkeys : rules.keys.Nodup) :
    (Usable base rules specifier → (∀ p, fs.Answers p) → ∃ m warnings answer more,
      ofRules fs base rules = (.ok m, warnings) ∧
        m.resolve fs base specifier = .ok (answer, more)) ∧
    ∀ m warnings answer more, ofRules fs base rules = (.ok m, warnings) →
      m.resolve fs base specifier = .ok (answer, more) →
        ∀ file, answer = some file ↔ LeadsTo fs base rules specifier file := by
  constructor
  · intro husable hlook
    obtain ⟨m, hm⟩ := exists_addRules fs habsolute husable.base hlook husable.targets empty
    obtain ⟨answer, more, hanswer⟩ :=
      husable.exists_resolve habsolute hlook (holds_ofRules hkeys hm)
    exact ⟨m, _, answer, more, Prod.ext hm rfl, hanswer⟩
  · intro m warnings answer more hm hanswer file
    have hholds : Holds fs base rules m := holds_ofRules hkeys (by rw [hm])
    exact hholds.resolve_eq_some_iff hanswer

def oneSource (directory : String) : FileTree :=
  ⟨[], [(["p"], .directory), (["p", directory], .directory),
    (["p", directory, "b.ts"], .file .empty)]⟩

/-- A fixed rule that leads nowhere, and two wildcard rules that lead to one file. -/
def overlapping : Dictionary (List String) :=
  [("lib/b", ["gone", "x/*"]), ("lib/*", ["x/*", "y/*"]), ("lib/b*", ["y/b*"])]

theorem resolve_decides_overlapping :
    Usable ⟨.root, ["p"]⟩ overlapping "lib/b" ∧
      LeadsTo (oneSource "y") ⟨.root, ["p"]⟩ overlapping "lib/b" ⟨.root, ["p", "y", "b"]⟩ := by
  have husable : Usable ⟨.root, ["p"]⟩ overlapping "lib/b" := by
    refine ⟨by decide, fun key targets hmem => ?_, by decide⟩
    have hall : ∀ rule ∈ overlapping, ∀ target ∈ rule.2, Path.isNameable target := by decide
    exact hall _ hmem
  obtain ⟨hdefined, hdecides⟩ :=
    resolve_decides (oneSource "y") ⟨.root, ["p"]⟩ overlapping "lib/b" (by decide) (by decide)
  obtain ⟨m, warnings, answer, more, hm, hanswer⟩ := hdefined husable (FileSystem.answers_coe _)
  cases hm
  cases hanswer
  exact ⟨husable, (hdecides _ _ _ _ rfl rfl _).1 rfl⟩

/-- The second rule leaves the whole specifier to a path, the first one does not. -/
def zeroAtStart : Dictionary (List String) := [("a\x00*", ["x/*"]), ("*", ["y/*"])]

theorem leadsTo_zeroAtStart :
    LeadsTo (oneSource "x") ⟨.root, ["p"]⟩ zeroAtStart "a\x00b" ⟨.root, ["p", "x", "b"]⟩ := by
  refine .inr ⟨?_, fun other => ⟨?_, ?_⟩⟩
  · rintro other ⟨-, targets, found, hmem, -⟩
    simp [zeroAtStart] at hmem
  · rintro ⟨targets, rest, found, happlies, hlead, rfl⟩
    cases happlies with
    | rule hrule hkey hstart =>
      have hrest := Text.dropStart?_eq_some_iff.2 hstart
      simp only [zeroAtStart, List.mem_cons, Prod.mk.injEq, List.not_mem_nil, or_false] at hrule
      rcases hrule with ⟨rfl, rfl⟩ | ⟨rfl, rfl⟩
      · cases hrest
        simp only [firstLead_cons_iff, not_firstLead_nil, and_false, or_false] at hlead
        obtain ⟨text, htext, hfile, -⟩ := hlead
        cases htext
        cases hfile
        rfl
      · cases hrest
        simp only [firstLead_cons_iff, not_firstLead_nil, and_false, or_false] at hlead
        obtain ⟨text, htext, hfile, -⟩ := hlead
        cases htext
        cases hfile
    | implicit hnone => exact absurd rfl (hnone "*" ["y/*"] "a\x00b" (by decide) (by decide))
  · rintro rfl
    have hlead : WildcardLead (oneSource "x") ⟨.root, ["p"]⟩ "b" "x/*" ⟨.root, ["p", "x", "b"]⟩ :=
      ⟨_, rfl, rfl, by decide⟩
    exact ⟨["x/*"], "b", _, .rule List.mem_cons_self (by decide) rfl, .here [] hlead, rfl⟩

/-- A look-up fails where a specifier leads to one file, but is left to a path that cannot be. -/
theorem resolve_zeroAtStart :
    ∃ m, ofRules (oneSource "x") ⟨.root, ["p"]⟩ zeroAtStart = (.ok m, []) ∧
      m.resolve (oneSource "x") ⟨.root, ["p"]⟩ "a\x00b" = .error .badValue ∧
      LeadsTo (oneSource "x") ⟨.root, ["p"]⟩ zeroAtStart "a\x00b" ⟨.root, ["p", "x", "b"]⟩ :=
  ⟨_, rfl, rfl, leadsTo_zeroAtStart⟩

end ModulePack.Mappings
