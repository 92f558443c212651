import Mathlib.Data.List.Nodup
import ModulePack.Proofs.Mapping.Table

/-!
# Where specifiers are mapped

A specifier is mapped to the file of its fixed rule. Without one, all wildcard rules that match it
contribute a file each, and it is mapped if they all contribute the same. The order of the rules
plays no part in this, while that of the targets of a rule does.
-/

namespace ModulePack.Mappings

variable {fs : FileSystem} {base file : Path} {key rest specifier : String}
  {targets texts : List String} {rules : Dictionary (List String)} {m : Mappings}

/-- The targets that apply to a specifier with the rest of it: those of the wildcard rules that
match it, or the directory that is mapped from where no rule does. -/
inductive Applies (rules : Dictionary (List String)) (specifier : String) :
    List String → String → Prop
  | rule {key rest : String} {targets : List String} (hrule : (key, targets) ∈ rules)
    (hkey : isWildcard key) (hstart : specifier = dropStar key ++ rest) :
    Applies rules specifier targets rest
  | implicit (hnone : ∀ key targets rest, (key, targets) ∈ rules → isWildcard key →
    specifier ≠ dropStar key ++ rest) : Applies rules specifier ["./*"] specifier

def Contributed (fs : FileSystem) (base : Path) (rules : Dictionary (List String))
    (specifier : String) (file : Path) : Prop :=
  ∃ targets rest found, Applies rules specifier targets rest ∧
    FirstLead (WildcardLead fs base rest) targets found ∧ file = found.stripSource

/-- The one file that a specifier leads to: that of its fixed rule or, without one, the only file
that is contributed. -/
def LeadsTo (fs : FileSystem) (base : Path) (rules : Dictionary (List String))
    (specifier : String) (file : Path) : Prop :=
  FixedTo fs base rules specifier file ∨
    (∀ other, ¬ FixedTo fs base rules specifier other) ∧
      ∀ other, Contributed fs base rules specifier other ↔ other = file

/-- A rule contributes the file that the first of its targets leads to. -/
theorem contribution?_eq_some_iff
    (htexts : targets.mapM (targetText fs base <| dropStar ·) = .ok texts) {answer : Option Path}
    (h : contribution? fs rest texts = .ok answer) :
    answer = some file ↔
      ∃ found, FirstLead (WildcardLead fs base rest) targets found ∧ file = found.stripSource := by
  induction targets generalizing texts with
  | nil =>
    cases htexts
    cases h
    simp
  | cons target targets ih =>
    rw [mapM_eq_ok_iff, List.forall₂_cons_left_iff] at htexts
    obtain ⟨text, others, htext, hothers, rfl⟩ := htexts
    rw [contribution?, bind_eq_ok_iff] at h
    obtain ⟨candidate, hcandidate, h⟩ := h
    obtain ⟨there, hask, h⟩ := bind_eq_ok_iff.1 h
    obtain rfl : there = fs.sourceExists candidate :=
      FileSystem.eq_sourceExists_of_askSource (mapError_eq_ok_iff.1 hask)
    have hlead (other : Path) :
        WildcardLead fs base rest target other ↔ candidate = other ∧ fs.sourceExists other := by
      simp [WildcardLead, htext, hcandidate]
    simp only [firstLead_cons_of_candidate hlead]
    by_cases hexists : fs.sourceExists candidate
    · rw [if_pos hexists] at h
      cases h
      simp [hexists, eq_comm]
    · rw [if_neg hexists] at h
      rw [ih (mapM_eq_ok_iff.2 hothers) h]
      simp [hexists]

section

variable {start : String} {wildcard : Dictionary (List String)}
  {found : List (String × List String × String)}

theorem mem_matching_iff :
    (start, texts, rest) ∈ matching wildcard specifier ↔
      (start, texts) ∈ wildcard ∧ specifier = start ++ rest := by
  simp only [matching, List.mem_filterMap, Option.map_eq_some_iff, Text.dropStart?_eq_some_iff]
  constructor
  · rintro ⟨_, hmem, _, hstart, ⟨⟩⟩
    exact ⟨hmem, hstart⟩
  · rintro ⟨hmem, hstart⟩
    exact ⟨(start, texts), hmem, rest, hstart, rfl⟩

namespace Holds

theorem matching_eq_nil_iff (h : Holds fs base rules m) :
    matching m.wildcard specifier = [] ↔ ∀ key targets rest, (key, targets) ∈ rules →
      isWildcard key → specifier ≠ dropStar key ++ rest := by
  rw [List.eq_nil_iff_forall_not_mem]
  constructor
  · intro hnone key targets rest hrule hkey hstart
    obtain ⟨texts, -, hentry⟩ := h.complete key targets hrule hkey
    exact hnone _ (mem_matching_iff.2 ⟨hentry, hstart⟩)
  · rintro hnone ⟨start, texts, rest⟩ hmem
    obtain ⟨hentry, hstart⟩ := mem_matching_iff.1 hmem
    obtain ⟨key, targets, hrule, hkey, rfl, -⟩ := h.sound start texts hentry
    exact hnone key targets rest hrule hkey hstart

/-- What is searched are the targets that apply, and all of them. -/
theorem searched_spec (h : Holds fs base rules m) (hs : m.searched fs base specifier = .ok found) :
    (∀ start texts rest, (start, texts, rest) ∈ found → ∃ targets,
      Applies rules specifier targets rest ∧
        targets.mapM (targetText fs base <| dropStar ·) = .ok texts) ∧
    ∀ targets rest, Applies rules specifier targets rest → ∃ start texts,
      (start, texts, rest) ∈ found ∧
        targets.mapM (targetText fs base <| dropStar ·) = .ok texts := by
  rw [searched] at hs
  cases hmatching : matching m.wildcard specifier with
  | nil =>
    have hnone := h.matching_eq_nil_iff.1 hmatching
    rw [hmatching, fallback, bind_eq_ok_iff] at hs
    obtain ⟨text, htext, hs⟩ := hs
    cases hs
    have htexts : ["./*"].mapM (targetText fs base <| dropStar ·) = .ok [text] := by
      have hstem : dropStar "./*" = "./" := by decide
      simp [hstem, htext, bind, Except.bind, pure, Except.pure]
    constructor
    · intro start texts rest hmem
      cases List.mem_singleton.1 hmem
      exact ⟨_, .implicit hnone, htexts⟩
    · rintro targets rest (⟨hrule, hkey, hstart⟩ | -)
      · exact absurd hstart (hnone _ _ _ hrule hkey)
      · exact ⟨"", [text], List.mem_singleton_self _, htexts⟩
  | cons first others =>
    rw [hmatching] at hs
    cases hs
    rw [← hmatching]
    constructor
    · intro start texts rest hmem
      obtain ⟨hentry, hstart⟩ := mem_matching_iff.1 hmem
      obtain ⟨key, targets, hrule, hkey, rfl, htexts⟩ := h.sound start texts hentry
      exact ⟨targets, .rule hrule hkey hstart, htexts⟩
    · rintro targets rest (⟨hrule, hkey, hstart⟩ | hnone)
      · obtain ⟨texts, htexts, hentry⟩ := h.complete _ _ hrule hkey
        exact ⟨_, texts, mem_matching_iff.2 ⟨hentry, hstart⟩, htexts⟩
      · rw [h.matching_eq_nil_iff.2 hnone] at hmatching
        cases hmatching

end Holds

end

/-- What is collected once is there once. -/
theorem foldl_once (files found : List Path) (hfound : found.Nodup) :
    let once := files.foldl
      (fun found file => if file ∈ found then found else found ++ [file]) found
    once.Nodup ∧ ∀ file, file ∈ once ↔ file ∈ found ∨ file ∈ files := by
  induction files generalizing found with
  | nil => simp [hfound]
  | cons file files ih =>
    rw [List.foldl_cons]
    split
    · next hmem =>
      obtain ⟨hnodup, hiff⟩ := ih found hfound
      refine ⟨hnodup, fun other => ?_⟩
      rw [hiff, List.mem_cons]
      grind
    · next hmem =>
      have hnext : (found ++ [file]).Nodup :=
        hfound.append (List.nodup_singleton file) (List.disjoint_singleton.2 hmem)
      obtain ⟨hnodup, hiff⟩ := ih (found ++ [file]) hnext
      refine ⟨hnodup, fun other => ?_⟩
      rw [hiff, List.mem_append, List.mem_singleton, List.mem_cons, or_assoc]

theorem exists_contribution {searched : List (String × List String × String)} {found : List Path}
    (h : files fs searched = .ok found) {start : String} (hmem : (start, texts, rest) ∈ searched) :
    ∃ answer, contribution? fs rest texts = .ok answer := by
  rw [files, bind_eq_ok_iff] at h
  obtain ⟨answers, hanswers, -⟩ := h
  exact exists_mapM_eq_ok_iff.1 ⟨answers, hanswers⟩ _ hmem

/-- The files are those that are contributed, each once. -/
theorem files_spec {searched : List (String × List String × String)} {found : List Path}
    (h : files fs searched = .ok found) :
    found.Nodup ∧ ∀ file, file ∈ found ↔ ∃ start texts rest, (start, texts, rest) ∈ searched ∧
      contribution? fs rest texts = .ok (some file) := by
  rw [files, bind_eq_ok_iff] at h
  obtain ⟨answers, hanswers, h⟩ := h
  cases h
  obtain ⟨hnodup, hiff⟩ := foldl_once (answers.filterMap id) [] List.nodup_nil
  refine ⟨hnodup, fun file => ?_⟩
  rw [hiff]
  simp [mem_iff_of_mapM_eq_ok hanswers]

theorem eq_singleton_iff {found : List Path} (h : found.Nodup) :
    found = [file] ↔ ∀ other, other ∈ found ↔ other = file := by
  rw [← List.perm_singleton, List.perm_ext_iff_of_nodup h (List.nodup_singleton file)]
  simp only [List.mem_singleton]

namespace Holds

theorem mem_files_iff (h : Holds fs base rules m)
    {searched : List (String × List String × String)} {found : List Path}
    (hsearched : m.searched fs base specifier = .ok searched)
    (hfiles : files fs searched = .ok found) :
    file ∈ found ↔ Contributed fs base rules specifier file := by
  obtain ⟨hsound, hcomplete⟩ := h.searched_spec hsearched
  rw [(files_spec hfiles).2]
  constructor
  · rintro ⟨start, texts, rest, hmem, hcontribution⟩
    obtain ⟨targets, happlies, htexts⟩ := hsound start texts rest hmem
    obtain ⟨lead, hlead, hfile⟩ := (contribution?_eq_some_iff htexts hcontribution).1 rfl
    exact ⟨targets, rest, lead, happlies, hlead, hfile⟩
  · rintro ⟨targets, rest, lead, happlies, hlead, hfile⟩
    obtain ⟨start, texts, hmem, htexts⟩ := hcomplete targets rest happlies
    obtain ⟨answer, hcontribution⟩ := exists_contribution hfiles hmem
    obtain rfl : answer = some file :=
      (contribution?_eq_some_iff htexts hcontribution).2 ⟨lead, hlead, hfile⟩
    exact ⟨start, texts, rest, hmem, hcontribution⟩

/-- What a look-up answers is the one file that the specifier leads to. -/
theorem resolve_eq_some_iff (h : Holds fs base rules m) {answer : Option Path}
    {warnings : List String} (hresolve : m.resolve fs base specifier = .ok (answer, warnings)) :
    answer = some file ↔ LeadsTo fs base rules specifier file := by
  rw [resolve] at hresolve
  cases hfixed : m.fixed.find? specifier with
  | some found =>
    have hfound : FixedTo fs base rules specifier found := (h.fixed specifier found).1 hfixed
    rw [hfixed] at hresolve
    cases hresolve
    rw [LeadsTo, ← h.fixed, hfixed, or_iff_left]
    exact fun hnone => hnone.1 found hfound
  | none =>
    have hnone (other : Path) : ¬ FixedTo fs base rules specifier other := by
      rw [← h.fixed, hfixed]
      nofun
    simp only [hfixed, bind_eq_ok_iff] at hresolve
    obtain ⟨searched, hsearched, found, hfound, hresolve⟩ := hresolve
    have hanswer : answer = some file ↔ found = [file] := by
      rcases found with _ | ⟨first, _ | ⟨second, others⟩⟩ <;> cases hresolve <;> simp
    rw [hanswer, eq_singleton_iff (files_spec hfound).1, LeadsTo]
    simp only [h.mem_files_iff hsearched hfound, hnone, not_false_eq_true, implies_true, true_and,
      false_or]

end Holds

end ModulePack.Mappings
