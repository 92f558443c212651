import ModulePack.Mapping
import ModulePack.Proofs.FileSystem.Looking

/-!
# The table of path mappings

Where a rule leads is said of its targets in their order, without a table. A table is made of rules
one after the other; it holds where the fixed rules lead, and of the wildcard rules the starts and
the texts that the rest of a specifier is appended to.
-/

namespace ModulePack.Mappings

open FileSystem (eq_filter_of_sourcesAmong)

variable {fs : FileSystem} {base file other : Path} {key start rest specifier : String}
  {targets texts : List String} {rules more : Dictionary (List String)} {m m' : Mappings}

/-- Where the first item leads that leads anywhere. -/
inductive FirstLead {α : Type} (leads : α → Path → Prop) : List α → Path → Prop
  | here {item : α} {file : Path} (items : List α) (h : leads item file) :
    FirstLead leads (item :: items) file
  | later {item : α} {items : List α} {file : Path} (hnot : ∀ other, ¬ leads item other)
    (h : FirstLead leads items file) : FirstLead leads (item :: items) file

@[simp] theorem not_firstLead_nil {α : Type} {leads : α → Path → Prop} :
    ¬ FirstLead leads [] file := nofun

theorem firstLead_cons_iff {α : Type} {leads : α → Path → Prop} {item : α} {items : List α} :
    FirstLead leads (item :: items) file ↔
      leads item file ∨ (∀ other, ¬ leads item other) ∧ FirstLead leads items file := by
  constructor
  · rintro (⟨_, h⟩ | ⟨hnot, h⟩)
    · exact .inl h
    · exact .inr ⟨hnot, h⟩
  · rintro (h | ⟨hnot, h⟩)
    · exact .here items h
    · exact .later hnot h

/-- An item with one candidate leads to it if it is a source file, and to nothing otherwise. -/
theorem firstLead_cons_of_candidate {α : Type} {leads : α → Path → Prop} {item : α}
    {items : List α} {candidate : Path}
    (hlead : ∀ other, leads item other ↔ candidate = other ∧ fs.sourceExists other) :
    FirstLead leads (item :: items) file ↔
      if fs.sourceExists candidate then file = candidate else FirstLead leads items file := by
  rw [firstLead_cons_iff]
  split
  · next hexists =>
    constructor
    · rintro (h | ⟨hnot, -⟩)
      · exact ((hlead file).1 h).1.symm
      · exact absurd ((hlead candidate).2 ⟨rfl, hexists⟩) (hnot candidate)
    · rintro rfl
      exact .inl ((hlead file).2 ⟨rfl, hexists⟩)
  · next hmissing =>
    have hnot (other : Path) : ¬ leads item other := by
      intro h
      obtain ⟨rfl, hexists⟩ := (hlead other).1 h
      exact hmissing hexists
    simp [hnot]

structure FixedLead (fs : FileSystem) (base : Path) (target : String) (file : Path) : Prop where
  plain : isWildcard target = false
  resolved : fs.resolve (base / target) = .ok file
  found : fs.sourceExists file

def WildcardLead (fs : FileSystem) (base : Path) (rest target : String) (file : Path) : Prop :=
  ∃ text, targetText fs base (dropStar target) = .ok text ∧
    appendRest fs text rest = .ok file ∧ fs.sourceExists file

def FixedTo (fs : FileSystem) (base : Path) (rules : Dictionary (List String))
    (specifier : String) (file : Path) : Prop :=
  isWildcard specifier = false ∧ ∃ targets found, (specifier, targets) ∈ rules ∧
    FirstLead (FixedLead fs base) targets found ∧ file = found.stripSource

theorem eq_dropStar_append (h : isWildcard key) : key = dropStar key ++ "*" := by
  obtain ⟨stem, hstem⟩ := Option.isSome_iff_exists.1 h
  rw [dropStar, Text.dropEnd, hstem, Option.getD_some]
  exact Text.dropEnd?_eq_some_iff.1 hstem

theorem dropStar_inj {key other : String} (hkey : isWildcard key) (hother : isWildcard other)
    (h : dropStar key = dropStar other) : key = other := by
  rw [eq_dropStar_append hkey, h, ← eq_dropStar_append hother]

/-- The first candidate that is there is where the first target leads. -/
theorem find?_fixedCandidates {candidates : List Path}
    (h : fixedCandidates fs base targets = .ok candidates) :
    candidates.find? fs.sourceExists = some file ↔ FirstLead (FixedLead fs base) targets file := by
  rw [fixedCandidates] at h
  induction targets generalizing candidates with
  | nil =>
    cases h
    simp
  | cons target targets ih =>
    by_cases hplain : isWildcard target = false
    · rw [List.filter_cons_of_pos (by simp [hplain]), mapM_eq_ok_iff,
        List.forall₂_cons_left_iff] at h
      obtain ⟨found, others, hfound, hothers, rfl⟩ := h
      have hlead (other : Path) :
          FixedLead fs base target other ↔ found = other ∧ fs.sourceExists other := by
        constructor
        · rintro ⟨-, hresolved, hexists⟩
          exact ⟨Except.ok.inj (hfound.symm.trans hresolved), hexists⟩
        · rintro ⟨rfl, hexists⟩
          exact ⟨hplain, hfound, hexists⟩
      rw [firstLead_cons_of_candidate hlead, ← ih (mapM_eq_ok_iff.2 hothers), List.find?_cons]
      by_cases hexists : fs.sourceExists found <;> simp [hexists, eq_comm]
    · have hnot (other : Path) : ¬ FixedLead fs base target other := fun h => hplain h.plain
      rw [List.filter_cons_of_neg (by simpa using hplain)] at h
      simp [firstLead_cons_iff, ih h, hnot]

theorem fixedTo_append_iff :
    FixedTo fs base (rules ++ [(key, targets)]) specifier file ↔
      FixedTo fs base rules specifier file ∨ isWildcard specifier = false ∧ specifier = key ∧
        ∃ found, FirstLead (FixedLead fs base) targets found ∧ file = found.stripSource := by
  simp only [FixedTo, List.mem_append, List.mem_singleton, Prod.mk.injEq]
  constructor
  · rintro ⟨hplain, others, found, hmem | ⟨rfl, rfl⟩, hfound⟩
    · exact .inl ⟨hplain, others, found, hmem, hfound⟩
    · exact .inr ⟨hplain, rfl, found, hfound⟩
  · rintro (⟨hplain, others, found, hmem, hfound⟩ | ⟨hplain, rfl, found, hfound⟩)
    · exact ⟨hplain, others, found, .inl hmem, hfound⟩
    · exact ⟨hplain, targets, found, .inr ⟨rfl, rfl⟩, hfound⟩

theorem not_fixedTo_of_notMem (h : specifier ∉ rules.keys) :
    ¬ FixedTo fs base rules specifier file := by
  rintro ⟨-, targets, found, hmem, -⟩
  exact h (List.mem_map_of_mem hmem)

theorem addWildcard_eq_ok_iff :
    (m.addWildcard fs base key targets).1 = .ok m' ↔
      ∃ texts, targets.mapM (targetText fs base <| dropStar ·) = .ok texts ∧
        m' = { m with wildcard := m.wildcard.insert (dropStar key) texts } := by
  simp only [addWildcard]
  cases targets.mapM (targetText fs base <| dropStar ·) <;> simp [Except.map, eq_comm]

theorem addFixed_eq_ok_iff :
    (m.addFixed fs base key targets).1 = .ok m' ↔
      ∃ candidates, fixedCandidates fs base targets = .ok candidates ∧
        (∃ sources, fs.sourcesAmong candidates = .ok sources) ∧
          m' = match candidates.find? fs.sourceExists with
            | some file => { m with fixed := m.fixed.insert key file.stripSource }
            | none => m := by
  simp only [addFixed]
  cases fixedCandidates fs base targets with
  | error fault => simp
  | ok candidates =>
    simp only [Except.ok.injEq, exists_eq_left']
    cases hsources : fs.sourcesAmong candidates with
    | error r => simp
    | ok sources =>
      rw [← List.head?_filter, ← eq_filter_of_sourcesAmong hsources]
      cases sources <;> simp [eq_comm (b := m')]

structure Holds (fs : FileSystem) (base : Path) (rules : Dictionary (List String)) (m : Mappings) :
    Prop where
  fixed : ∀ key file, m.fixed.find? key = some file ↔ FixedTo fs base rules key file
  sound : ∀ start texts, (start, texts) ∈ m.wildcard → ∃ key targets, (key, targets) ∈ rules ∧
    isWildcard key ∧ start = dropStar key ∧
      targets.mapM (targetText fs base <| dropStar ·) = .ok texts
  complete : ∀ key targets, (key, targets) ∈ rules → isWildcard key → ∃ texts,
    targets.mapM (targetText fs base <| dropStar ·) = .ok texts ∧
      (dropStar key, texts) ∈ m.wildcard

namespace Holds

theorem empty : Holds fs base [] empty := by
  refine ⟨fun key file => ?_, fun start texts h => ?_, fun key targets h => ?_⟩
  · constructor
    · nofun
    · rintro ⟨-, targets, found, h, -⟩
      exact absurd h List.not_mem_nil
  · exact absurd h List.not_mem_nil
  · exact absurd h List.not_mem_nil

/-- Wildcard rules with different keys have different starts. -/
theorem find?_wildcard (h : Holds fs base rules m) (hnew : key ∉ rules.keys)
    (hkey : isWildcard key) : m.wildcard.find? (dropStar key) = none := by
  rw [Dictionary.find?_eq_none_iff]
  intro hmem
  obtain ⟨⟨start, texts⟩, hentry, hstart⟩ := List.mem_map.1 hmem
  obtain ⟨other, targets, hother, hwildcard, rfl, -⟩ := h.sound start texts hentry
  have hsame : other = key := dropStar_inj hwildcard hkey hstart
  exact hnew (hsame ▸ List.mem_map_of_mem hother)

theorem addWildcard (h : Holds fs base rules m) (hnew : key ∉ rules.keys) (hkey : isWildcard key)
    (hadd : (m.addWildcard fs base key targets).1 = .ok m') :
    Holds fs base (rules ++ [(key, targets)]) m' := by
  obtain ⟨texts, htexts, rfl⟩ := addWildcard_eq_ok_iff.1 hadd
  rw [Dictionary.insert_eq_append texts (h.find?_wildcard hnew hkey)]
  refine ⟨fun other file => ?_, fun start others hmem => ?_, fun other others hmem hother => ?_⟩
  · rw [fixedTo_append_iff, ← h.fixed other file, or_iff_left]
    rintro ⟨hplain, rfl, -⟩
    simp [hkey] at hplain
  · rcases List.mem_append.1 hmem with hmem | hmem
    · obtain ⟨rule, targets, hrule, hsound⟩ := h.sound start others hmem
      exact ⟨rule, targets, List.mem_append_left _ hrule, hsound⟩
    · cases List.mem_singleton.1 hmem
      exact ⟨key, targets, by simp, hkey, rfl, htexts⟩
  · rcases List.mem_append.1 hmem with hmem | hmem
    · obtain ⟨found, hfound, hentry⟩ := h.complete other others hmem hother
      exact ⟨found, hfound, List.mem_append_left _ hentry⟩
    · cases List.mem_singleton.1 hmem
      exact ⟨texts, htexts, by simp⟩

theorem addFixed (h : Holds fs base rules m) (hnew : key ∉ rules.keys)
    (hkey : isWildcard key = false) (hadd : (m.addFixed fs base key targets).1 = .ok m') :
    Holds fs base (rules ++ [(key, targets)]) m' := by
  obtain ⟨candidates, hcandidates, -, rfl⟩ := addFixed_eq_ok_iff.1 hadd
  have hlead (file : Path) : FirstLead (FixedLead fs base) targets file ↔
      candidates.find? fs.sourceExists = some file := (find?_fixedCandidates hcandidates).symm
  have hwildcard : (match candidates.find? fs.sourceExists with
      | some file => { m with fixed := m.fixed.insert key file.stripSource }
      | none => m).wildcard = m.wildcard := by
    split <;> rfl
  refine ⟨fun other file => ?_, fun start others hmem => ?_, fun other others hmem hother => ?_⟩
  · simp only [fixedTo_append_iff, ← h.fixed other file, hlead]
    cases candidates.find? fs.sourceExists with
    | none => simp
    | some found =>
      have hnone : m.fixed.find? key = none := by
        by_contra hsome
        obtain ⟨file, hfile⟩ := Option.ne_none_iff_exists'.1 hsome
        exact not_fixedTo_of_notMem hnew ((h.fixed key file).1 hfile)
      rw [Dictionary.find?_insert]
      by_cases hother : key = other
      · subst hother
        simp [hnone, hkey, eq_comm]
      · simp [hother, Ne.symm hother]
  · rw [hwildcard] at hmem
    obtain ⟨rule, targets, hrule, hsound⟩ := h.sound start others hmem
    exact ⟨rule, targets, List.mem_append_left _ hrule, hsound⟩
  · rw [hwildcard]
    rcases List.mem_append.1 hmem with hmem | hmem
    · exact h.complete other others hmem hother
    · cases List.mem_singleton.1 hmem
      simp [hkey] at hother

/-- With each rule a table holds one rule more. -/
theorem addRule (h : Holds fs base rules m) (hnew : key ∉ rules.keys)
    (hadd : (m.addRule fs base key targets).1 = .ok m') :
    Holds fs base (rules ++ [(key, targets)]) m' := by
  rw [Mappings.addRule] at hadd
  split at hadd
  · next hkey => exact h.addWildcard hnew hkey hadd
  · next hkey => exact h.addFixed hnew (by simpa using hkey) hadd

theorem addRules (h : Holds fs base rules m) (hkeys : Dictionary.keys (rules ++ more) |>.Nodup)
    (hadd : (m.addRules fs base more).1 = .ok m') : Holds fs base (rules ++ more) m' := by
  induction more generalizing rules m with
  | nil =>
    cases hadd
    rwa [List.append_nil]
  | cons rule more ih =>
    obtain ⟨key, targets⟩ := rule
    rw [Mappings.addRules] at hadd
    rcases hrule : m.addRule fs base key targets with ⟨fault | next, warnings⟩
    · rw [hrule] at hadd
      cases hadd
    · rw [hrule] at hadd
      rw [List.append_cons] at hkeys ⊢
      have hnew : key ∉ rules.keys := by
        simp only [Dictionary.keys, List.map_append, List.nodup_append] at hkeys
        exact fun hmem => hkeys.1.2.2 key hmem key (by simp) rfl
      exact ih (h.addRule hnew (by rw [hrule])) hkeys hadd

end Holds

theorem holds_ofRules (hkeys : rules.keys.Nodup) (h : (ofRules fs base rules).1 = .ok m) :
    Holds fs base rules m :=
  Holds.empty.addRules hkeys h

end ModulePack.Mappings
