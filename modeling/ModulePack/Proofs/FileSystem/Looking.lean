import ModulePack.Proofs.Except
import ModulePack.SourceFile

/-!
# Looking at files

A host answers as the tree has it, or refuses to look. What it answers about source files is then
what the tree has too, and where it refuses nothing there is always an answer.
-/

namespace ModulePack

namespace FileTree

variable {tree : FileTree} {p : Path} {r : Refusal}

theorem walk_ne_refused (place parts : List String) :
    tree.walk place parts ≠ .error (.refused r) := by
  induction parts generalizing place with
  | nil => nofun
  | cons part parts ih =>
    rw [walk]
    split
    · nofun
    · nofun
    · exact ih _

theorem refusal_withNameLimit {other : FileTree} {limit : Nat} {access : Access} :
    (tree.withNameLimit limit).refusal access other p =
      if other.meetsLongName limit (other.origin p) p.parts then some .nameTooLong else none := rfl

/-- Where parts lead to a place each of their names is met. -/
theorem meetsLongName_of_walk {limit : Nat} {place goal parts : List String} {part : String}
    (h : tree.walk place parts = .ok goal) (hpart : part ∈ parts)
    (hlong : limit < part.utf8ByteSize) : tree.meetsLongName limit place parts := by
  induction parts generalizing place with
  | nil => simp at hpart
  | cons first parts ih =>
    rw [walk] at h
    split at h
    · cases h
    · cases h
    · next hdirectory =>
      rw [meetsLongName, hdirectory]
      rcases List.mem_cons.1 hpart with rfl | hpart
      · simp [hlong]
      · simp [ih h hpart]

theorem find_ne_refused : tree.find p ≠ .error (.refused r) := by
  have hplace : tree.place p ≠ .error (.refused r) := walk_ne_refused _ _
  rw [find]
  cases hfound : tree.place p with
  | error fault => simpa [hfound, bind, Except.bind] using hplace
  | ok place =>
    simp only [bind, Except.bind]
    cases tree.node? place <;> nofun

end FileTree

namespace FileSystem

variable {fs : FileSystem} {tree : FileTree} {p : Path} {ps : List Path} {access : Access}
  {kind : Node → Bool} {b : Bool} {r : Refusal} {target : List String}

/-- Whether the host looks at a path when it is asked to. -/
def Answers (fs : FileSystem) (p : Path) : Prop := fs.refusal .look fs.toFileTree p = none

@[simp] theorem answers_coe (tree : FileTree) (p : Path) : Answers tree p := rfl

theorem reach_eq_ok_iff :
    fs.reach access p = .ok target ↔
      fs.refusal access fs.toFileTree p = none ∧ fs.place p = .ok target := by
  rw [reach]
  cases fs.refusal access fs.toFileTree p <;> simp

theorem find_eq (h : fs.Answers p) : fs.find p = fs.toFileTree.find p := by
  rw [find, reach, h, FileTree.find]

theorem find_eq_refused_iff :
    fs.find p = .error (.refused r) ↔ fs.refusal .look fs.toFileTree p = some r := by
  cases h : fs.refusal .look fs.toFileTree p with
  | none => simpa [find_eq h] using FileTree.find_ne_refused
  | some other => simp [find, reach, h, bind, Except.bind]

/-- A host refuses to look, or answers as the tree has it. -/
theorem ask_eq (kind : Node → Bool) (p : Path) :
    fs.ask kind p =
      match if p.isValid then fs.refusal .look fs.toFileTree p else none with
      | some r => .error r
      | none => .ok (fs.holds kind p) := by
  rw [ask, FileTree.holds]
  cases p.isValid with
  | false => rfl
  | true =>
    cases h : fs.refusal .look fs.toFileTree p with
    | some r => simp only [find_eq_refused_iff.2 h, if_true]
    | none =>
      simp only [find_eq h, if_true, Bool.true_and]
      cases hfind : fs.toFileTree.find p with
      | ok node => rfl
      | error fault =>
        cases fault with
        | refused r => exact absurd hfind FileTree.find_ne_refused
        | _ => rfl

theorem eq_holds_of_ask (h : fs.ask kind p = .ok b) : b = fs.holds kind p := by
  rw [ask_eq] at h
  split at h
  · cases h
  · exact (Except.ok.inj h).symm

theorem ask_of_answers (h : fs.Answers p) : fs.ask kind p = .ok (fs.holds kind p) := by
  rw [ask_eq, h, ite_self]

@[simp] theorem ask_coe (tree : FileTree) (kind : Node → Bool) (p : Path) :
    ask tree kind p = .ok (tree.holds kind p) :=
  ask_of_answers (answers_coe tree p)

theorem ask_eq_true_iff :
    fs.ask kind p = .ok true ↔ p.isValid ∧ ∃ node, fs.find p = .ok node ∧ kind node := by
  rw [ask]
  cases p.isValid with
  | false => simp
  | true =>
    cases fs.find p with
    | ok node => simp
    | error fault => cases fault <;> simp

theorem ask_eq_error_iff :
    fs.ask kind p = .error r ↔ p.isValid ∧ fs.refusal .look fs.toFileTree p = some r := by
  rw [ask_eq]
  cases p.isValid with
  | false => simp
  | true => cases fs.refusal .look fs.toFileTree p <;> simp

section Sources

variable {found : Option Path} {sources : List Path}

theorem eq_find?_of_firstFile? (h : fs.firstFile? ps = .ok found) : found = ps.find? fs.isFile := by
  induction ps with
  | nil => exact (Except.ok.inj h).symm
  | cons p ps ih =>
    obtain ⟨there, hask, h⟩ := bind_eq_ok_iff.1 h
    have hthere : there = fs.isFile p := eq_holds_of_ask hask
    rw [List.find?_cons, ← hthere]
    cases there with
    | true => exact (Except.ok.inj h).symm
    | false => exact ih h

theorem firstFile?_of_answers (h : ∀ p ∈ ps, fs.Answers p) :
    fs.firstFile? ps = .ok (ps.find? fs.isFile) := by
  induction ps with
  | nil => rfl
  | cons p ps ih =>
    obtain ⟨hp, hps⟩ := List.forall_mem_cons.1 h
    rw [firstFile?, ask_of_answers hp, ← FileTree.isFile, List.find?_cons, ih hps]
    cases fs.isFile p <;> rfl

theorem eq_sourceExists_of_askSource (h : fs.askSource p = .ok b) : b = fs.sourceExists p := by
  rw [askSource] at h
  cases hfirst : fs.firstFile? p.spellings with
  | error r => simp [hfirst, Except.map] at h
  | ok found =>
    simp only [hfirst, Except.map, Except.ok.injEq] at h
    rw [← h, eq_find?_of_firstFile? hfirst, List.isSome_find?, FileTree.sourceExists]

theorem askSource_of_answers (h : ∀ q ∈ p.spellings, fs.Answers q) :
    fs.askSource p = .ok (fs.sourceExists p) := by
  rw [askSource, firstFile?_of_answers h, FileTree.sourceExists, ← List.isSome_find?]
  rfl

theorem eq_filter_of_sourcesAmong (h : fs.sourcesAmong ps = .ok sources) :
    sources = ps.filter fs.sourceExists := by
  induction ps generalizing sources with
  | nil => exact (Except.ok.inj h).symm
  | cons p ps ih =>
    obtain ⟨there, hask, h⟩ := bind_eq_ok_iff.1 h
    obtain ⟨others, hothers, h⟩ := bind_eq_ok_iff.1 h
    have hthere : there = fs.sourceExists p := eq_sourceExists_of_askSource hask
    cases h
    rw [List.filter_cons, ← hthere, ih hothers]

theorem sourcesAmong_of_answers (h : ∀ p ∈ ps, ∀ q ∈ p.spellings, fs.Answers q) :
    fs.sourcesAmong ps = .ok (ps.filter fs.sourceExists) := by
  induction ps with
  | nil => rfl
  | cons p ps ih =>
    obtain ⟨hp, hps⟩ := List.forall_mem_cons.1 h
    rw [sourcesAmong, askSource_of_answers hp, ih hps, List.filter_cons]
    rfl

@[simp] theorem askSource_coe (tree : FileTree) (p : Path) :
    askSource tree p = .ok (tree.sourceExists p) :=
  askSource_of_answers fun q _ => answers_coe tree q

@[simp] theorem seekSource?_coe (tree : FileTree) (p : Path) :
    seekSource? tree p = .ok (tree.findSource? p) :=
  firstFile?_of_answers fun q _ => answers_coe tree q

end Sources

end FileSystem

end ModulePack
