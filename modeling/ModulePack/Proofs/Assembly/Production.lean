import ModulePack.Proofs.Assembly.Emitted
import ModulePack.Proofs.FileSystem.Directories

/-!
# Producing a bundle as a whole or not at all

Nothing is written before the text of a bundle is complete, and what is written then is the file of
the bundle with the directories that it lies in. So a production that fails leaves no trace in the
file system, whatever it failed for, unless the host stops it between the first of the directories
and the file: what it has made by then is not removed again.
-/

namespace ModulePack

namespace Assembler

open Build

variable {a : Assembler} {s : BuildState} {files : FileSystem} {code : String}

theorem outcome_writeBundle_of_ok
    (h : s.files.writeText a.config.outFile code = (files, .ok ())) :
    (a.writeBundle code).outcome s = (.ok (), { s with files }) := by
  simp only [writeBundle, outcome_bind, outcome_get, outcome_set, h, outcome_pure]

theorem outcome_writeBundle_of_error {fault : TextFault}
    (h : s.files.writeText a.config.outFile code = (files, .error fault)) :
    ∃ e, (a.writeBundle code).outcome s = (.error e, { s with files }) := by
  simp only [writeBundle, outcome_bind, outcome_get, outcome_set, h]
  cases fault <;> exact ⟨_, rfl⟩

theorem outcome_writeBundle_of_fileError {e : FileError}
    (h : s.files.writeText a.config.outFile code = (files, .error (.file e))) :
    (a.writeBundle code).outcome s =
      (.error (.bundle (.notWritten a.config.outFile e)), { s with files }) := by
  simp only [writeBundle, outcome_bind, outcome_get, outcome_set, h, outcome_throw]

theorem outcome_produce_of_error {p : LaunchParameters} {t u : BuildState} {e : Error}
    (hcode : (a.assembleCode p).outcome s = (.ok code, t))
    (hwrite : (a.writeBundle code).outcome t = (.error e, u)) :
    (a.produce p).outcome s = (.error e, u) := by
  simp only [produce, outcome_bind, hcode, hwrite]

/-- A bundle is produced as a whole or not at all: where it fails the files are as they were, and
where it succeeds its text is in its file, the directories that the file lies in are there, and
nothing else has changed. Only where a directory or the file is refused after missing directories
were made may some of these be left behind. -/
theorem produce_allOrNothing (a : Assembler) (p : LaunchParameters) (s s' : BuildState)
    (result : Except Error String) (htree : s.files.IsTree) (hfile : a.config.outFile.Straight)
    (h : (a.produce p).outcome s = (result, s')) :
    s'.files.IsTree ∧
      (∀ e, result = .error e →
        s'.files = s.files ∨ s.files.CutShort s'.files a.config.outFile) ∧
      ∀ text, result = .ok text →
        s.files.Written s'.files a.config.outFile.parts text.toUTF8 := by
  rw [produce, outcome_bind] at h
  rcases hcode : (a.assembleCode p).outcome s with ⟨assembled, t⟩
  have hfiles : t.files = s.files := ((a.onlyLoads_assembleCode p).loadsInto hcode).files
  rw [hcode] at h
  rcases assembled with e | code
  · cases h
    exact ⟨hfiles ▸ htree, fun _ _ => .inl hfiles, nofun⟩
  simp only [outcome_bind] at h
  rcases FileSystem.writeText_cases htree hfile code with
    ⟨fault, hwrite⟩ | ⟨files, fault, hwrite, hshort⟩ | ⟨files, hwrite, hwritten⟩
  · rw [← hfiles] at hwrite
    obtain ⟨e, hout⟩ := outcome_writeBundle_of_error hwrite
    rw [hout] at h
    cases h
    exact ⟨hfiles ▸ htree, fun _ _ => .inl hfiles, nofun⟩
  · rw [← hfiles] at hwrite
    obtain ⟨e, hout⟩ := outcome_writeBundle_of_error hwrite
    rw [hout] at h
    cases h
    exact ⟨hshort.isTree htree, fun _ _ => .inr hshort, nofun⟩
  · rw [← hfiles] at hwrite
    rw [outcome_writeBundle_of_ok hwrite] at h
    cases h
    refine ⟨hwritten.isTree htree, nofun, ?_⟩
    rintro text ⟨⟩
    exact hwritten

def circleWriter (name : String) : Assembler :=
  { circleAssembler with
    config :=
      { circleAssembler.config with
        outFile := ⟨.root, ["p", "dist", name]⟩
        noLoaderCode := .bool true } }

theorem isTree_circleState : circleState.files.IsTree :=
  FileTree.isTree_of_forall_mem (by decide)

theorem straight_circleWriter : (circleWriter "out.js").config.outFile.Straight :=
  ⟨by decide, by decide⟩

theorem outcome_produce_circle :
    ∃ s', ((circleWriter "out.js").produce {}).outcome circleState =
      (.ok (serializeEntries circleEntries), s') := by
  rw [circleEntries, sorted_circle]
  exact ⟨_, rfl⟩

theorem produce_allOrNothing_circle :
    ∃ s', ((circleWriter "out.js").produce {}).outcome circleState =
        (.ok (serializeEntries circleEntries), s') ∧
      circleState.files.node? ["p", "dist"] = none ∧
      s'.files.node? ["p", "dist"] = some .directory ∧
      s'.files.node? ["p", "dist", "out.js"] =
        some (.file (serializeEntries circleEntries).toUTF8) := by
  obtain ⟨s', hout⟩ := outcome_produce_circle
  obtain ⟨-, -, hwritten⟩ := produce_allOrNothing (circleWriter "out.js") {} circleState s' _
    isTree_circleState straight_circleWriter hout
  have hwritten := hwritten _ rfl
  exact ⟨s', hout, rfl, hwritten.made ["p", "dist"] (by decide) (by decide), hwritten.file⟩

/-- A name of one byte more than the most that a name can have. -/
def longName : String := String.ofList (List.replicate (nameLimit + 1) 'a')

def longFile : Path := ⟨.root, ["p", "dist", longName]⟩

theorem nameLimit_lt_longName : nameLimit < longName.utf8ByteSize := by
  decide +kernel

theorem straight_longFile : longFile.Straight := ⟨by decide, by decide +kernel⟩

def limitedState : BuildState where
  files := (FileTree.mk [] [(["p"], .directory)]).withNameLimit nameLimit
  store := .ofRecords [{ name := "/main", code := some "m" }]
  calls := []
  minifiedLoader := none

/-- What is there when the directory of the file is made. -/
def limitedTree : FileTree := ⟨[], [(["p", "dist"], .directory), (["p"], .directory)]⟩

theorem isTree_limitedTree : limitedTree.IsTree := FileTree.isTree_of_forall_mem (by decide)

theorem refusal_longFile {access : Access} :
    (limitedTree.withNameLimit nameLimit).refusal access limitedTree longFile =
      some .nameTooLong := by
  have hparent : limitedTree.node? longFile.parts.dropLast = some .directory := rfl
  have hplace : limitedTree.place longFile = .ok longFile.parts :=
    (FileTree.place_eq_ok_iff isTree_limitedTree straight_longFile).2 ⟨rfl, hparent⟩
  have hlong : limitedTree.meetsLongName nameLimit (limitedTree.origin longFile) longFile.parts :=
    FileTree.meetsLongName_of_walk hplace (by simp [longFile]) nameLimit_lt_longName
  rw [FileTree.refusal_withNameLimit, if_pos hlong]

theorem writeText_longFile (s : String) :
    limitedState.files.writeText longFile s =
      (limitedTree.withNameLimit nameLimit,
        .error (.file ⟨.refused .nameTooLong, longFile⟩)) := by
  have hmade : limitedState.files.ensureDirectories longFile.parent =
      (limitedTree.withNameLimit nameLimit, .ok ()) := rfl
  have hvalid : longFile.isValid := by
    simp [longFile, Path.isValid_iff, Path.isNameable_iff, longName]
  have hreach : (limitedTree.withNameLimit nameLimit).reach .write longFile =
      .error (.refused .nameTooLong) := by
    have htree : (limitedTree.withNameLimit nameLimit).toFileTree = limitedTree := rfl
    rw [FileSystem.reach, htree, refusal_longFile]
  rw [FileSystem.writeText, if_pos (by decide)]
  simp only [hmade, if_pos hvalid, FileSystem.writeBytes, hreach]

/-- A file whose name is too long is found out after its directories are made. -/
theorem produce_nameTooLong :
    (circleWriter longName).config.outFile.Straight ∧ limitedState.files.IsTree ∧
      ∃ s', ((circleWriter longName).produce {}).outcome limitedState =
          (.error (.bundle (.notWritten longFile ⟨.refused .nameTooLong, longFile⟩)), s') ∧
        limitedState.files.node? ["p", "dist"] = none ∧
        s'.files.node? ["p", "dist"] = some .directory := by
  have hcode : ((circleWriter longName).assembleCode {}).outcome limitedState =
      (.ok (serializeEntries [⟨"/main", [], none, "m"⟩]), limitedState) := rfl
  have hout : ((circleWriter longName).produce {}).outcome limitedState =
      (.error (.bundle (.notWritten longFile ⟨.refused .nameTooLong, longFile⟩)),
        { limitedState with files := limitedTree.withNameLimit nameLimit }) :=
    outcome_produce_of_error hcode (outcome_writeBundle_of_fileError (writeText_longFile _))
  exact ⟨straight_longFile, FileTree.isTree_of_forall_mem (by decide), _, hout, rfl, rfl⟩

end Assembler

end ModulePack
