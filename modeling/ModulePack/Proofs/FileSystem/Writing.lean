import Mathlib.Tactic.SplitIfs
import ModulePack.FileSystem.Text
import ModulePack.Proofs.FileSystem.Looking

/-!
# Reading a written file

What is written to a path is read from it again, unless the host refuses to look: the way to a file
leads through directories only, so it is the same after the file is there. A text without carriage
returns is read as it was written, and whether a text can be written hangs on the path alone.
-/

namespace ModulePack

namespace Text

theorem unifyNewlines_eq_self {cs : List Char} (h : '\r' ∉ cs) : unifyNewlines cs = cs := by
  induction cs with
  | nil => rfl
  | cons c cs ih =>
    simp only [List.mem_cons, not_or] at h
    rw [unifyNewlines]
    · rw [ih h.2]
    · rintro rest rfl
      exact absurd rfl h.1
    · rintro rfl
      exact absurd rfl h.1

theorem decode?_toUTF8 {s : String} (h : '\r' ∉ s.toList) : decode? s.toUTF8 = some s := by
  have hbytes : String.fromUTF8? s.toUTF8 = some s := dif_pos s.isValidUTF8
  rw [decode?, hbytes, Option.map_some, unifyNewlines_eq_self h, String.ofList_toList]

end Text

namespace FileSystem

variable {fs fs' : FileSystem} {p : Path} {start target : List String} {node : Node}
  {bytes : ByteArray} {s : String}

theorem lookup_filter_ne {nodes : List (List String × Node)} {other : List String}
    (h : other ≠ target) :
    (nodes.filter (·.1 != target)).lookup other = nodes.lookup other := by
  induction nodes with
  | nil => rfl
  | cons entry nodes ih =>
    obtain ⟨place, node⟩ := entry
    by_cases hplace : place = target
    · rw [hplace, List.filter_cons_of_neg (by simp), ih, List.lookup_cons,
        beq_false_of_ne h]
    · rw [List.filter_cons_of_pos (by simpa using hplace), List.lookup_cons, List.lookup_cons, ih]

theorem node?_put (h : target ≠ []) (other : List String) :
    (fs.put target node).node? other = if other = target then some node else fs.node? other := by
  rw [FileTree.node?, FileTree.node?]
  by_cases hother : other = target
  · subst hother
    simp [put, h]
  · have hlookup : (fs.put target node).nodes.lookup other = fs.nodes.lookup other := by
      rw [put, List.lookup_cons, beq_false_of_ne hother]
      exact lookup_filter_ne hother
    rw [hlookup, if_neg hother]

/-- A way through directories does not lead over a place where there is none. -/
theorem walk_put {parts : List String} {goal : List String} (hroot : target ≠ [])
    (hnone : fs.node? target ≠ some .directory) (h : fs.walk start parts = .ok goal) :
    (fs.put target node).walk start parts = .ok goal := by
  induction parts generalizing start with
  | nil => exact h
  | cons part parts ih =>
    rw [FileTree.walk] at h ⊢
    cases hnode : fs.node? start with
    | none => simp [hnode] at h
    | some found =>
      cases found with
      | file _ => simp [hnode] at h
      | directory =>
        have hne : start ≠ target := by
          rintro rfl
          exact hnone hnode
        rw [hnode] at h
        rw [node?_put hroot, if_neg hne, hnode]
        exact ih h

/-- A write that succeeds puts a file where there is no directory. -/
theorem writeBytes_eq_ok_iff :
    fs.writeBytes p bytes = (fs', .ok ()) ↔
      ∃ target, fs.reach .write p = .ok target ∧ fs.node? target ≠ some .directory ∧
        fs' = fs.put target (.file bytes) := by
  rw [writeBytes]
  cases hplace : fs.reach .write p with
  | error fault => simp
  | ok target =>
    by_cases hdirectory : fs.node? target = some .directory
    · simp [hdirectory]
    · simp [hdirectory, eq_comm (a := fs')]

theorem readBytes_writeBytes (h : fs.writeBytes p bytes = (fs', .ok ())) (hlook : fs'.Answers p) :
    fs'.readBytes p = .ok bytes := by
  obtain ⟨target, hreach, hnone, rfl⟩ := writeBytes_eq_ok_iff.1 h
  have hroot : target ≠ [] := by
    rintro rfl
    exact hnone rfl
  have hplace : (fs.put target (.file bytes)).place p = .ok target :=
    walk_put hroot hnone (reach_eq_ok_iff.1 hreach).2
  have hfind : (fs.put target (.file bytes)).find p = .ok (.file bytes) := by
    rw [find_eq hlook, FileTree.find, hplace]
    simp only [bind, Except.bind, node?_put hroot, if_true]
    rfl
  rw [readBytes, hfind]

section Refusal

/-! What a host refuses is up to the host: nothing that is written changes it. -/

@[simp] theorem refusal_put : (fs.put target node).refusal = fs.refusal := rfl

theorem refusal_makeDirectory (fs : FileSystem) (p : Path) :
    (fs.makeDirectory p).1.refusal = fs.refusal := by
  rw [makeDirectory]
  split
  · rfl
  · split <;> rfl

theorem refusal_ensureDirectory {above : FileSystem → FileSystem × Except FileError Unit}
    (habove : ∀ fs, (above fs).1.refusal = fs.refusal) (fs : FileSystem) (p : Path) :
    (fs.ensureDirectory p above).1.refusal = fs.refusal := by
  have hmake {fs made : FileSystem} {result : Except FileFault Unit}
      (h : fs.makeDirectory p = (made, result)) : made.refusal = fs.refusal := by
    rw [← refusal_makeDirectory fs p, h]
  have habove {fs made : FileSystem} {result : Except FileError Unit}
      (h : above fs = (made, result)) : made.refusal = fs.refusal := by rw [← habove fs, h]
  rw [ensureDirectory]
  split
  · next h => exact hmake h
  · next h =>
    split
    · next hfirst => exact (habove hfirst).trans (hmake h)
    · next hfirst =>
      have hfirst := (habove hfirst).trans (hmake h)
      split <;> next hagain => exact (hmake hagain).trans hfirst
  · next h => exact hmake h

theorem refusal_ensureParts (start : PathStart) (reversed : List String) (fs : FileSystem) :
    (ensureParts start reversed fs).1.refusal = fs.refusal := by
  induction reversed generalizing fs with
  | nil => exact refusal_ensureDirectory (fun _ => rfl) fs _
  | cons part rest ih => exact refusal_ensureDirectory ih fs _

theorem refusal_writeBytes (fs : FileSystem) (p : Path) (bytes : ByteArray) :
    (fs.writeBytes p bytes).1.refusal = fs.refusal := by
  rw [writeBytes]
  split
  · rfl
  · split <;> rfl

theorem refusal_writeText (fs : FileSystem) (p : Path) (s : String) :
    (fs.writeText p s).1.refusal = fs.refusal := by
  have hmake : (fs.ensureDirectories p.parent).1.refusal = fs.refusal := refusal_ensureParts ..
  rw [writeText]
  split
  · cases hmade : fs.ensureDirectories p.parent with
    | mk made result =>
      rw [hmade] at hmake
      cases result with
      | error e => exact hmake
      | ok _ =>
        simp only
        split
        · have hwrite := (refusal_writeBytes made p s.toUTF8).trans hmake
          split <;> next hwritten => rw [hwritten] at hwrite; exact hwrite
        · exact hmake
  · rfl

end Refusal

/-- What a write of a text that succeeds has done. -/
theorem writeText_eq_ok_iff :
    fs.writeText p s = (fs', .ok ()) ↔
      p.parent.isValid ∧ p.isValid ∧
        ∃ made, fs.ensureDirectories p.parent = (made, .ok ()) ∧
          made.writeBytes p s.toUTF8 = (fs', .ok ()) := by
  rw [writeText]
  cases hparent : p.parent.isValid with
  | false => simp
  | true =>
    rcases hmade : fs.ensureDirectories p.parent with ⟨made, e | ⟨⟩⟩
    · simp
    · cases hvalid : p.isValid with
      | false => simp
      | true =>
        simp only [if_true, true_and, Prod.mk.injEq, and_true, exists_eq_left']
        rcases made.writeBytes p s.toUTF8 with ⟨written, e | ⟨⟩⟩ <;> simp

/-- A text without carriage returns is read as it was written. -/
theorem readText_writeText (h : fs.writeText p s = (fs', .ok ())) (hlook : fs'.Answers p)
    (hs : '\r' ∉ s.toList) : fs'.readText p = .ok s := by
  obtain ⟨-, hvalid, made, -, hwrite⟩ := writeText_eq_ok_iff.1 h
  rw [readText, if_pos hvalid, readBytes_writeBytes hwrite hlook]
  simp only [Text.decode?_toUTF8 hs]

/-- Where a host refuses nothing it looks at what was written. -/
theorem answers_of_writeText {tree : FileTree} (h : writeText tree p s = (fs', .ok ())) :
    fs'.Answers p := by
  have hrefusal : fs'.refusal = (tree : FileSystem).refusal := by
    rw [← refusal_writeText tree p s, h]
  rw [Answers, hrefusal]

end FileSystem

def FileTree.Writable (tree : FileTree) (p : Path) : Prop :=
  ∃ s fs', FileSystem.writeText tree p s = (fs', .ok ())

/-- Where some text can be written every text can. -/
theorem FileTree.Writable.exists_writeText {tree : FileTree} {p : Path} (h : tree.Writable p)
    (s : String) : ∃ fs', FileSystem.writeText tree p s = (fs', .ok ()) := by
  obtain ⟨t, ft, ht⟩ := h
  obtain ⟨hparent, hvalid, made, hmade, hwrite⟩ := FileSystem.writeText_eq_ok_iff.1 ht
  obtain ⟨target, hreach, hnone, -⟩ := FileSystem.writeBytes_eq_ok_iff.1 hwrite
  have hwritten : made.writeBytes p s.toUTF8 = (made.put target (.file s.toUTF8), .ok ()) :=
    FileSystem.writeBytes_eq_ok_iff.2 ⟨target, hreach, hnone, rfl⟩
  exact ⟨_, FileSystem.writeText_eq_ok_iff.2 ⟨hparent, hvalid, made, hmade, hwritten⟩⟩

end ModulePack
