import Mathlib.Data.List.Induction
import ModulePack.Proofs.FileSystem.Writing

/-!
# Making directories and writing files

In a file system everything lies in a directory. Along a path that leads up nowhere directories are
missing from some place on. They are made from the top, and once the first is made nothing in the
tree stands in the way of the others. So they are all made or none is, unless the host stops half
way. The same goes for the text of a file, which is written when its directories are there.
-/

namespace ModulePack

/-- A path from a root that leads up nowhere. -/
structure Path.Straight (p : Path) : Prop where
  absolute : p.start ≠ .here
  down : ".." ∉ p.parts

theorem Path.Straight.parent {p : Path} (h : p.Straight) : p.parent.Straight :=
  ⟨h.absolute, fun hup => h.down (List.dropLast_subset _ hup)⟩

namespace FileTree

variable {tree : FileTree} {p : Path} {place other parts : List String} {part : String}

@[simp] theorem node?_nil (tree : FileTree) : tree.node? [] = some .directory := rfl

/-- Whether everything lies in a directory. -/
def IsTree (tree : FileTree) : Prop :=
  ∀ place, (tree.node? place).isSome → tree.node? place.dropLast = some .directory

theorem isTree_of_forall_mem
    (h : ∀ entry ∈ tree.nodes, tree.node? entry.1.dropLast = some .directory) : tree.IsTree := by
  intro place hplace
  cases place with
  | nil => rfl
  | cons part parts =>
    obtain ⟨node, hnode⟩ := Option.isSome_iff_exists.1 hplace
    have hlookup : tree.nodes.lookup (part :: parts) = some node := hnode
    have hmem : (part :: parts, node) ∈ tree.nodes := by
      obtain ⟨before, after, hsplit, -⟩ := List.lookup_eq_some_iff.1 hlookup
      rw [hsplit]
      exact List.mem_append_right _ List.mem_cons_self
    exact h _ hmem

namespace IsTree

theorem directory_of_concat (h : tree.IsTree) (hpart : (tree.node? (parts ++ [part])).isSome) :
    tree.node? parts = some .directory := by
  have habove := h _ hpart
  rwa [List.dropLast_concat] at habove

/-- All that a place lies in are directories. -/
theorem directory_of_under (h : tree.IsTree) (hplace : (tree.node? place).isSome)
    (hunder : other <+: place) (hne : other ≠ place) : tree.node? other = some .directory := by
  induction place using List.reverseRecOn with
  | nil => exact absurd (List.prefix_nil.1 hunder) hne
  | append_singleton place part ih =>
    have habove : tree.node? place = some .directory := h.directory_of_concat hplace
    have hunder : other <+: place := (List.prefix_concat_iff.1 hunder).resolve_left hne
    by_cases hplace : other = place
    · rw [hplace, habove]
    · exact ih (Option.isSome_of_eq_some habove) hunder hplace

theorem directory_of_under_directory (h : tree.IsTree) (hplace : tree.node? place = some .directory)
    (hunder : other <+: place) : tree.node? other = some .directory := by
  by_cases hother : other = place
  · rw [hother, hplace]
  · exact h.directory_of_under (Option.isSome_of_eq_some hplace) hunder hother

end IsTree

theorem walk_append (tree : FileTree) (start parts others : List String) :
    tree.walk start (parts ++ others) = (tree.walk start parts).bind fun place =>
      tree.walk place others := by
  induction parts generalizing start with
  | nil => rfl
  | cons part parts ih =>
    rw [List.cons_append, walk, walk]
    rcases tree.node? start with _ | _ | bytes
    · rfl
    · exact ih _
    · rfl

/-- Where parts lead in a tree they lead without a look at it. -/
theorem eq_foldl_climb_of_walk {start parts : List String} (h : tree.walk start parts = .ok place) :
    place = parts.foldl Path.climb start := by
  induction parts generalizing start with
  | nil => exact (Except.ok.inj h).symm
  | cons part parts ih =>
    rw [walk] at h
    split at h
    · cases h
    · cases h
    · exact ih h

/-- A straight path names its own place if it lies in a directory, and none otherwise. -/
theorem place_eq_ok_iff (htree : tree.IsTree) (hp : p.Straight) :
    tree.place p = .ok place ↔ place = p.parts ∧ tree.node? p.parts.dropLast = some .directory := by
  obtain ⟨start, parts⟩ := p
  have horigin : tree.origin ⟨start, parts⟩ = [] := if_neg hp.absolute
  rw [FileTree.place, horigin]
  -- The last part is looked up in what the others name.
  induction parts using List.reverseRecOn generalizing place with
  | nil => simp [walk, eq_comm]
  | append_singleton parts part ih =>
    have hparts : Path.Straight ⟨start, parts⟩ :=
      ⟨hp.absolute, fun hup => hp.down (List.mem_append_left _ hup)⟩
    have hpart : part ≠ ".." := by
      rintro rfl
      exact hp.down (by simp)
    have ih {above : List String} : tree.walk [] parts = .ok above ↔
        above = parts ∧ tree.node? parts.dropLast = some .directory :=
      ih hparts (if_neg hp.absolute)
    simp only [walk_append, List.dropLast_concat]
    constructor
    · intro h
      cases hwalk : tree.walk [] parts with
      | error fault => simp [hwalk, Except.bind] at h
      | ok above =>
        obtain ⟨rfl, -⟩ := ih.1 hwalk
        simp only [hwalk, Except.bind, walk, Path.climb_of_ne hpart] at h
        split at h
        · cases h
        · cases h
        · next hdirectory => exact ⟨(Except.ok.inj h).symm, hdirectory⟩
    · rintro ⟨rfl, hdirectory⟩
      have hwalk : tree.walk [] parts = .ok parts :=
        ih.2 ⟨rfl, htree parts (Option.isSome_of_eq_some hdirectory)⟩
      simp only [hwalk, Except.bind, walk, hdirectory, Path.climb_of_ne hpart]

theorem holds_isDirectory (htree : tree.IsTree) (hp : p.Straight)
    (h : tree.holds Node.isDirectory p) : tree.node? p.parts = some .directory := by
  rw [holds, find] at h
  cases hplace : tree.place p with
  | error fault => simp [hplace, bind, Except.bind] at h
  | ok place =>
    obtain ⟨rfl, -⟩ := (place_eq_ok_iff htree hp).1 hplace
    rcases hnode : tree.node? p.parts with _ | _ | bytes
    · simp [hplace, bind, Except.bind, hnode] at h
    · rfl
    · simp [hplace, bind, Except.bind, hnode, pure, Except.pure, Node.isDirectory] at h

end FileTree

namespace FileSystem

variable {fs fs' : FileSystem} {p : Path} {place target parts above : List String} {part : String}
  {bytes : ByteArray} {fault : FileFault}

theorem node?_put_concat (fs : FileSystem) (parts : List String) (part : String) (node : Node)
    (place : List String) :
    (fs.put (parts ++ [part]) node).node? place =
      if place = parts ++ [part] then some node else fs.node? place :=
  node?_put (by simp) place

theorem settleDirectory_cases (htree : fs.IsTree) (hp : p.Straight) (fault : FileFault) :
    (∃ e, fs.settleDirectory p fault = .error e) ∨
      fs.settleDirectory p fault = .ok () ∧ fs.node? p.parts = some .directory := by
  rw [settleDirectory]
  cases hask : fs.ask Node.isDirectory p with
  | error r => exact .inl ⟨_, rfl⟩
  | ok there =>
    cases there with
    | false => exact .inl ⟨_, rfl⟩
    | true => exact .inr ⟨rfl, FileTree.holds_isDirectory htree hp (eq_holds_of_ask hask).symm⟩

/-- The directories along a place are there, and nothing else has changed. -/
structure MadeAlong (fs fs' : FileSystem) (target : List String) : Prop where
  cwd : fs'.cwd = fs.cwd
  refusal : fs'.refusal = fs.refusal
  free : ∀ place, place <+: target → fs.node? place = none ∨ fs.node? place = some .directory
  made : ∀ place, place <+: target → fs'.node? place = some .directory
  kept : ∀ place, ¬ place <+: target → fs'.node? place = fs.node? place

namespace MadeAlong

theorem refl (htree : fs.IsTree) (h : fs.node? target = some .directory) :
    fs.MadeAlong fs target := by
  have hdirectory (place : List String) (hplace : place <+: target) :
      fs.node? place = some .directory := htree.directory_of_under_directory h hplace
  exact ⟨rfl, rfl, fun place hplace => .inr (hdirectory place hplace), hdirectory, fun _ _ => rfl⟩

theorem isTree (h : fs.MadeAlong fs' target) (htree : fs.IsTree) : fs'.IsTree := by
  intro place hplace
  by_cases habove : place.dropLast <+: target
  · exact h.made _ habove
  · have hnot : ¬ place <+: target := fun hunder => habove (place.dropLast_prefix.trans hunder)
    rw [h.kept _ hnot] at hplace
    rw [h.kept _ habove]
    exact htree place hplace

theorem node?_concat (h : fs.MadeAlong fs' parts) (part : String) :
    fs'.node? (parts ++ [part]) = fs.node? (parts ++ [part]) := by
  refine h.kept _ fun hunder => ?_
  have hle := hunder.length_le
  rw [List.length_append, List.length_singleton] at hle
  omega

theorem directory_of_concat (h : fs.MadeAlong fs' parts) (part : String) :
    fs'.node? (parts ++ [part]).dropLast = some .directory := by
  rw [List.dropLast_concat]
  exact h.made parts (List.prefix_refl parts)

/-- One more directory is made where there is nothing. -/
theorem concat (h : fs.MadeAlong fs' parts) (hnone : fs.node? (parts ++ [part]) = none) :
    fs.MadeAlong (fs'.put (parts ++ [part]) .directory) (parts ++ [part]) := by
  refine ⟨h.cwd, h.refusal, fun place hplace => ?_, fun place hplace => ?_, fun place hplace => ?_⟩
  · rcases List.prefix_concat_iff.1 hplace with rfl | hplace
    · exact .inl hnone
    · exact h.free place hplace
  · rw [node?_put_concat]
    rcases List.prefix_concat_iff.1 hplace with rfl | hplace
    · rw [if_pos rfl]
    · split
      · rfl
      · exact h.made place hplace
  · rw [List.prefix_concat_iff, not_or] at hplace
    rw [node?_put_concat, if_neg hplace.1, h.kept place hplace.2]

end MadeAlong

/-- In a directory that is there one more is made, unless something is there already or the host
refuses it. -/
theorem ensureDirectory_of_open (htree : fs.IsTree) (hp : p.Straight)
    (hopen : fs.node? p.parts.dropLast = some .directory)
    (above : FileSystem → FileSystem × Except FileError Unit) :
    (∃ e, fs.ensureDirectory p above = (fs, .error e) ∧
        (fs.node? p.parts = none → (fs.refusal .make fs.toFileTree p).isSome)) ∨
      (fs.node? p.parts = some .directory ∧ fs.ensureDirectory p above = (fs, .ok ())) ∨
      fs.node? p.parts = none ∧
        fs.ensureDirectory p above = (fs.put p.parts .directory, .ok ()) := by
  have hplace : fs.place p = .ok p.parts := (FileTree.place_eq_ok_iff htree hp).2 ⟨rfl, hopen⟩
  -- What could not be made is settled by a look at what is there.
  have hsettle {fault : FileFault} (hmake : fs.makeDirectory p = (fs, .error fault))
      (hfault : fault ≠ .notFound) :
      fs.ensureDirectory p above = (fs, fs.settleDirectory p fault) := by
    cases fault with
    | notFound => exact absurd rfl hfault
    | _ => rw [ensureDirectory, hmake]
  cases hrefusal : fs.refusal .make fs.toFileTree p with
  | some r =>
    have hmake : fs.makeDirectory p = (fs, .error (.refused r)) := by
      simp [makeDirectory, reach, hrefusal]
    rw [hsettle hmake (by simp)]
    rcases settleDirectory_cases htree hp (.refused r) with ⟨e, herror⟩ | ⟨hok, hnode⟩
    · exact .inl ⟨e, by rw [herror], fun _ => rfl⟩
    · exact .inr (.inl ⟨hnode, by rw [hok]⟩)
  | none =>
    cases hnode : fs.node? p.parts with
    | none =>
      have hmake : fs.makeDirectory p = (fs.put p.parts .directory, .ok ()) := by
        simp [makeDirectory, reach, hrefusal, hplace, hnode]
      exact .inr (.inr ⟨rfl, by rw [ensureDirectory, hmake]⟩)
    | some node =>
      have hmake : fs.makeDirectory p = (fs, .error .exists) := by
        simp [makeDirectory, reach, hrefusal, hplace, hnode]
      rw [hsettle hmake (by simp), ← hnode]
      rcases settleDirectory_cases htree hp .exists with ⟨e, herror⟩ | ⟨hok, hdirectory⟩
      · exact .inl ⟨e, by rw [herror], by simp [hnode]⟩
      · exact .inr (.inl ⟨hdirectory, by rw [hok]⟩)

/-- Where there is no directory to make another in, the ones above are made first, or nothing is
done. -/
theorem ensureDirectory_of_not_open (htree : fs.IsTree) (hp : p.Straight)
    (hnot : fs.node? p.parts.dropLast ≠ some .directory)
    (above : FileSystem → FileSystem × Except FileError Unit) :
    (∃ e, fs.ensureDirectory p above = (fs, .error e)) ∨
      fs.ensureDirectory p above =
        match above fs with
        | (made, .error e) => (made, .error e)
        | (made, .ok ()) => made.ensureDirectory p fun fs => (fs, .error ⟨.notFound, p⟩) := by
  have hmissing : fs.node? p.parts ≠ some .directory := fun hnode =>
    hnot (htree _ (Option.isSome_of_eq_some hnode))
  cases hreach : fs.reach .make p with
  | ok place =>
    exact absurd ((FileTree.place_eq_ok_iff htree hp).1 (reach_eq_ok_iff.1 hreach).2).2 hnot
  | error fault =>
    have hmake : fs.makeDirectory p = (fs, .error fault) := by rw [makeDirectory, hreach]
    by_cases hfault : fault = .notFound
    · right
      subst hfault
      rcases habove : above fs with ⟨made, e | ⟨⟩⟩
      · simp only [ensureDirectory, hmake, habove]
      · rcases hagain : made.makeDirectory p with ⟨again, (_ | _ | _ | _ | _) | ⟨⟩⟩ <;>
          simp only [ensureDirectory, hmake, habove, hagain]
    · left
      obtain ⟨e, hsettle⟩ :=
        (settleDirectory_cases htree hp fault).resolve_right fun hok => hmissing hok.2
      refine ⟨e, ?_⟩
      cases fault <;> simp [ensureDirectory, hmake, hsettle] at hfault ⊢

theorem ensureParts_concat (start : PathStart) (parts : List String) (part : String) :
    ensureParts start (parts ++ [part]).reverse fs =
      fs.ensureDirectory ⟨start, parts ++ [part]⟩ (ensureParts start parts.reverse) := by
  rw [List.reverse_concat, ensureParts, List.reverse_cons, List.reverse_reverse]

/-- The missing directories along `above` are made, and the host refuses to make the next one on
the way. -/
structure StoppedBelow (fs fs' : FileSystem) (p : Path) (above : List String) : Prop where
  missing : fs.node? above = none
  made : fs.MadeAlong fs' above
  refused : ∃ part, above ++ [part] <+: p.parts ∧
    (fs'.refusal .make fs'.toFileTree ⟨p.start, above ++ [part]⟩).isSome

/-- Directories are made all the way along a path, or nothing is changed, unless the host refuses
to make one below another that was made. -/
theorem ensureParts_cases (htree : fs.IsTree) {start : PathStart}
    (hp : Path.Straight ⟨start, parts⟩) :
    (∃ e, ensureParts start parts.reverse fs = (fs, .error e)) ∨
      (∃ fs' e above, ensureParts start parts.reverse fs = (fs', .error e) ∧
        fs.StoppedBelow fs' ⟨start, parts⟩ above) ∨
      ∃ fs', ensureParts start parts.reverse fs = (fs', .ok ()) ∧ fs.MadeAlong fs' parts ∧
        (fs.node? parts = some .directory → fs' = fs) := by
  induction parts using List.reverseRecOn with
  | nil =>
    rw [List.reverse_nil, ensureParts]
    rcases ensureDirectory_of_open htree hp rfl fun fs => (fs, .error ⟨.notFound, ⟨start, []⟩⟩) with
      ⟨e, herror, -⟩ | ⟨-, hok⟩ | ⟨hnone, -⟩
    · exact .inl ⟨e, herror⟩
    · exact .inr (.inr ⟨fs, hok, .refl htree rfl, fun _ => rfl⟩)
    · cases hnone
  | append_singleton parts part ih =>
    have hparts : Path.Straight ⟨start, parts⟩ := by simpa [Path.parent] using hp.parent
    rw [ensureParts_concat]
    by_cases hopen : fs.node? parts = some .directory
    · have hmade : fs.MadeAlong fs parts := .refl htree hopen
      rcases ensureDirectory_of_open htree hp (hmade.directory_of_concat part)
        (ensureParts start parts.reverse) with ⟨e, herror, -⟩ | ⟨hnode, hok⟩ | ⟨hnone, hok⟩
      · exact .inl ⟨e, herror⟩
      · exact .inr (.inr ⟨fs, hok, .refl htree hnode, fun _ => rfl⟩)
      · exact .inr (.inr ⟨_, hok, hmade.concat hnone, fun hnode => by simp [hnone] at hnode⟩)
    · -- What does not lie in a directory is not there.
      have hnone : fs.node? (parts ++ [part]) = none := by
        by_contra hsome
        exact hopen (htree.directory_of_concat (Option.ne_none_iff_isSome.1 hsome))
      have hnot : fs.node? (parts ++ [part]).dropLast ≠ some .directory := by
        rwa [List.dropLast_concat]
      rcases ensureDirectory_of_not_open htree hp hnot (ensureParts start parts.reverse) with
        herror | heq
      · exact .inl herror
      rw [heq]
      rcases ih hparts with
        ⟨e, habove⟩ | ⟨made, e, above, habove, hstopped⟩ | ⟨made, habove, hmade, -⟩
      · exact .inl ⟨e, by rw [habove]⟩
      · obtain ⟨next, hnext, hrefused⟩ := hstopped.refused
        exact .inr (.inl ⟨made, e, above, by rw [habove], hstopped.missing, hstopped.made, next,
          hnext.trans (List.prefix_append _ _), hrefused⟩)
      · -- Below directories that were made the last one is made at once.
        have hmadeNone : made.node? (parts ++ [part]) = none := by rw [hmade.node?_concat, hnone]
        rw [habove]
        rcases ensureDirectory_of_open (hmade.isTree htree) hp (hmade.directory_of_concat part)
          (fun fs => (fs, .error ⟨.notFound, ⟨start, parts ++ [part]⟩⟩)) with
          ⟨e, herror, hrefused⟩ | ⟨hnode, -⟩ | ⟨-, hok⟩
        · refine .inr (.inl ⟨made, e, parts, herror, ?_, hmade, part, List.prefix_rfl,
            hrefused hmadeNone⟩)
          exact (hmade.free parts List.prefix_rfl).resolve_right hopen
        · rw [hmadeNone] at hnode
          cases hnode
        · exact .inr (.inr ⟨_, hok, hmade.concat hnone, by simp [hnone]⟩)

theorem ensureDirectories_cases (htree : fs.IsTree) (hp : p.Straight) :
    (∃ e, fs.ensureDirectories p = (fs, .error e)) ∨
      (∃ fs' e above, fs.ensureDirectories p = (fs', .error e) ∧ fs.StoppedBelow fs' p above) ∨
      ∃ fs', fs.ensureDirectories p = (fs', .ok ()) ∧ fs.MadeAlong fs' p.parts ∧
        (fs.node? p.parts = some .directory → fs' = fs) :=
  ensureParts_cases htree hp

/-- A file is written at a place, the directories that it lies in are there, and nothing else has
changed. -/
structure Written (fs fs' : FileSystem) (target : List String) (bytes : ByteArray) : Prop where
  cwd : fs'.cwd = fs.cwd
  refusal : fs'.refusal = fs.refusal
  file : fs'.node? target = some (.file bytes)
  replaced : fs.node? target ≠ some .directory
  free : ∀ place, place <+: target → place ≠ target →
    fs.node? place = none ∨ fs.node? place = some .directory
  made : ∀ place, place <+: target → place ≠ target → fs'.node? place = some .directory
  kept : ∀ place, ¬ place <+: target → fs'.node? place = fs.node? place

theorem Written.isTree (h : fs.Written fs' target bytes) (htree : fs.IsTree) : fs'.IsTree := by
  intro place hplace
  by_cases hunder : place <+: target
  · have habove : place.dropLast <+: target := place.dropLast_prefix.trans hunder
    by_cases hall : place.dropLast = target
    · have hroot : place = [] := by
        have hle := hunder.length_le
        have hlength := congrArg List.length hall
        rw [List.length_dropLast] at hlength
        exact List.eq_nil_of_length_eq_zero (by omega)
      rw [hroot]
      rfl
    · exact h.made _ habove hall
  · rw [h.kept place hunder] at hplace
    have hdirectory := htree place hplace
    by_cases habove : place.dropLast <+: target
    · refine h.made _ habove ?_
      rintro rfl
      exact h.replaced hdirectory
    · rwa [h.kept _ habove]

theorem MadeAlong.written (h : fs.MadeAlong fs' parts)
    (hreplaced : fs.node? (parts ++ [part]) ≠ some .directory) (bytes : ByteArray) :
    fs.Written (fs'.put (parts ++ [part]) (.file bytes)) (parts ++ [part]) bytes := by
  have habove {place : List String} (hplace : place <+: parts ++ [part])
      (hne : place ≠ parts ++ [part]) : place <+: parts :=
    (List.prefix_concat_iff.1 hplace).resolve_left hne
  refine ⟨h.cwd, h.refusal, by rw [node?_put_concat, if_pos rfl], hreplaced,
    fun place hplace hne => ?_, fun place hplace hne => ?_, fun place hplace => ?_⟩
  · exact h.free place (habove hplace hne)
  · rw [node?_put_concat, if_neg hne]
    exact h.made place (habove hplace hne)
  · rw [List.prefix_concat_iff, not_or] at hplace
    rw [node?_put_concat, if_neg hplace.1, h.kept place hplace.2]

/-- Below directories that were made a file is written, unless a directory was there before or the
host refuses it. -/
theorem MadeAlong.writeBytes_concat (h : fs.MadeAlong fs' parts) (htree : fs.IsTree)
    {start : PathStart} (hp : Path.Straight ⟨start, parts ++ [part]⟩) (bytes : ByteArray) :
    (∃ e, fs'.writeBytes ⟨start, parts ++ [part]⟩ bytes = (fs', .error e) ∧
        (fs.node? (parts ++ [part]) = some .directory ∨
          (fs'.refusal .write fs'.toFileTree ⟨start, parts ++ [part]⟩).isSome)) ∨
      ∃ written, fs'.writeBytes ⟨start, parts ++ [part]⟩ bytes = (written, .ok ()) ∧
        fs.Written written (parts ++ [part]) bytes := by
  have hplace : fs'.place ⟨start, parts ++ [part]⟩ = .ok (parts ++ [part]) :=
    (FileTree.place_eq_ok_iff (h.isTree htree) hp).2 ⟨rfl, h.directory_of_concat part⟩
  rw [writeBytes, reach]
  cases hrefusal : fs'.refusal .write fs'.toFileTree ⟨start, parts ++ [part]⟩ with
  | some r => exact .inl ⟨_, rfl, .inr rfl⟩
  | none =>
    simp only [hplace, h.node?_concat]
    by_cases hdirectory : fs.node? (parts ++ [part]) = some .directory
    · exact .inl ⟨_, by rw [if_pos hdirectory], .inl hdirectory⟩
    · exact .inr ⟨_, by rw [if_neg hdirectory], h.written hdirectory bytes⟩

/-- Missing directories were made for a file that is not there in the end: the host refuses to make
one of them below another or to write the file, or no file can have its name. -/
inductive CutShort (fs fs' : FileSystem) (p : Path) : Prop
  | directory (above : List String) (stopped : fs.StoppedBelow fs' p.parent above)
  | file (missing : fs.node? p.parts.dropLast = none) (made : fs.MadeAlong fs' p.parts.dropLast)
      (refused : (fs'.refusal .write fs'.toFileTree p).isSome)
  | name (missing : fs.node? p.parts.dropLast = none) (made : fs.MadeAlong fs' p.parts.dropLast)
      (last : String) (hlast : p.parts.getLast? = some last) (hname : ¬ Path.isNameable last)

theorem CutShort.isTree (h : fs.CutShort fs' p) (htree : fs.IsTree) : fs'.IsTree := by
  cases h with
  | directory _ stopped => exact stopped.made.isTree htree
  | file _ made => exact made.isTree htree
  | name _ made => exact made.isTree htree

/-- The root is a directory. -/
theorem writeBytes_root (htree : fs.IsTree) {start : PathStart} (hp : Path.Straight ⟨start, []⟩)
    (bytes : ByteArray) : ∃ e, fs.writeBytes ⟨start, []⟩ bytes = (fs, .error e) := by
  have hplace : fs.place ⟨start, []⟩ = .ok [] := (FileTree.place_eq_ok_iff htree hp).2 ⟨rfl, rfl⟩
  rw [writeBytes, reach]
  cases fs.refusal .write fs.toFileTree ⟨start, []⟩ with
  | some r => exact ⟨_, rfl⟩
  | none => exact ⟨⟨.isDirectory, ⟨start, []⟩⟩, by simp [hplace]⟩

/-- Along a path that leads up nowhere a text is written, or nothing is changed, unless the way is
cut short after directories were made. -/
theorem writeText_cases (htree : fs.IsTree) (hp : p.Straight) (s : String) :
    (∃ e, fs.writeText p s = (fs, .error e)) ∨
      (∃ fs' e, fs.writeText p s = (fs', .error e) ∧ fs.CutShort fs' p) ∨
      ∃ fs', fs.writeText p s = (fs', .ok ()) ∧ fs.Written fs' p.parts s.toUTF8 := by
  rw [writeText]
  by_cases hparent : p.parent.isValid
  swap
  · exact .inl ⟨_, by rw [if_neg hparent]⟩
  rw [if_pos hparent]
  rcases ensureDirectories_cases htree hp.parent with
    ⟨e, hensure⟩ | ⟨made, e, above, hensure, hstopped⟩ | ⟨made, hensure, hmade, hsame⟩
  · exact .inl ⟨_, by rw [hensure]⟩
  · exact .inr (.inl ⟨made, _, by rw [hensure], .directory above hstopped⟩)
  simp only [hensure]
  obtain ⟨start, parts⟩ := p
  rcases List.eq_nil_or_concat parts with rfl | ⟨parts, part, rfl⟩
  · obtain rfl : made = fs := hsame rfl
    obtain ⟨e, hwrite⟩ := writeBytes_root htree hp s.toUTF8
    have hvalid : Path.isValid ⟨start, []⟩ := hparent
    exact .inl ⟨.file e, by rw [if_pos hvalid, hwrite]⟩
  · rw [List.concat_eq_append] at hp hparent hmade hsame ⊢
    simp only [Path.parent, List.dropLast_concat] at hparent hmade hsame
    have hvalid : Path.isValid ⟨start, parts ++ [part]⟩ ↔ Path.isNameable part := by
      simp only [Path.isValid] at hparent ⊢
      simp [hparent]
    have hdirectories : fs.MadeAlong made (parts ++ [part]).dropLast := by
      rwa [List.dropLast_concat]
    -- Either no directory had to be made, or the last of them was missing.
    have hbefore : made = fs ∨ fs.node? (parts ++ [part]).dropLast = none := by
      rw [List.dropLast_concat]
      exact (hmade.free parts List.prefix_rfl).symm.imp_left hsame
    by_cases hname : Path.isNameable part
    · rw [if_pos (hvalid.2 hname)]
      rcases hmade.writeBytes_concat htree hp s.toUTF8 with
        ⟨e, hwrite, hreason⟩ | ⟨written, hwrite, hwritten⟩
      · rw [hwrite]
        rcases hbefore with rfl | hmissing
        · exact .inl ⟨_, rfl⟩
        · rcases hreason with hdirectory | hrefused
          · cases hmissing.symm.trans (htree _ (Option.isSome_of_eq_some hdirectory))
          · exact .inr (.inl ⟨made, _, rfl, .file hmissing hdirectories hrefused⟩)
      · exact .inr (.inr ⟨written, by rw [hwrite], hwritten⟩)
    · rw [if_neg (mt hvalid.1 hname)]
      rcases hbefore with rfl | hmissing
      · exact .inl ⟨_, rfl⟩
      · exact .inr (.inl ⟨made, _, rfl, .name hmissing hdirectories part (by simp) hname⟩)

end FileSystem

end ModulePack
