import ModulePack.Fault
import ModulePack.FileSystem.Text

/-!
# What is read as text

The text of a file is read if its path can name a file, if a file is there and if its bytes are
UTF-8. A way that leads to no file is an error of files. The other two are faults, and nothing that
waits for errors of files is told of them.
-/

namespace ModulePack

def Text.unified (s : String) : String := String.ofList (unifyNewlines s.toList)

def TextFault.fault? : TextFault → Option Fault
  | .file _ => none
  | .badEncoding => some .badEncoding
  | .badName => some .badValue

namespace FileSystem

/-- The fault of reading a text where the path can name no file or the bytes are no text. -/
inductive Garbled (fs : FileSystem) (p : Path) : Fault → Prop
  | name (hname : ¬ p.isValid) : Garbled fs p .badValue
  | encoding {bytes : ByteArray} (hname : p.isValid) (hbytes : fs.readBytes p = .ok bytes)
      (hencoding : ¬ bytes.IsValidUTF8) : Garbled fs p .badEncoding

variable {fs : FileSystem} {p : Path} {s : String} {e : FileError} {fault : Fault}

theorem decode?_eq_some_iff {bytes : ByteArray} :
    Text.decode? bytes = some s ↔ ∃ content : String, bytes = content.toUTF8 ∧
      s = Text.unified content := by
  rw [Text.decode?, String.fromUTF8?]
  split
  · next h =>
    constructor
    · intro hs
      exact ⟨String.fromUTF8 bytes h, rfl, (Option.some.inj hs).symm⟩
    · rintro ⟨content, rfl, rfl⟩
      rfl
  · next h =>
    constructor
    · intro hs
      cases hs
    · rintro ⟨content, rfl, -⟩
      exact absurd content.isValidUTF8 h

theorem decode?_eq_none_iff {bytes : ByteArray} :
    Text.decode? bytes = none ↔ ¬ bytes.IsValidUTF8 := by
  simp [Text.decode?, String.fromUTF8?]

theorem readText_eq_ok_iff :
    fs.readText p = .ok s ↔ p.isValid ∧ ∃ content : String,
      fs.readBytes p = .ok content.toUTF8 ∧ s = Text.unified content := by
  rw [readText]
  by_cases hname : p.isValid
  · simp only [hname, if_true, true_and]
    cases hbytes : fs.readBytes p with
    | error e => simp
    | ok bytes =>
      simp only [Except.ok.injEq, ← decode?_eq_some_iff]
      cases Text.decode? bytes <;> simp
  · simp [hname]

theorem readText_eq_file_iff :
    fs.readText p = .error (.file e) ↔ p.isValid ∧ fs.readBytes p = .error e := by
  rw [readText]
  by_cases hname : p.isValid
  · simp only [hname, if_true, true_and]
    cases hbytes : fs.readBytes p with
    | error e => simp
    | ok bytes =>
      simp only [reduceCtorEq, iff_false]
      cases Text.decode? bytes <;> simp
  · simp [hname]

theorem garbled_iff :
    fs.Garbled p fault ↔ ∃ e, fs.readText p = .error e ∧ e.fault? = some fault := by
  rw [readText]
  constructor
  · rintro (hname | ⟨hname, hbytes, hencoding⟩)
    · exact ⟨.badName, by rw [if_neg hname], rfl⟩
    · refine ⟨.badEncoding, ?_, rfl⟩
      rw [if_pos hname, hbytes]
      simp only [decode?_eq_none_iff.2 hencoding]
  · rintro ⟨e, he, hfault⟩
    by_cases hname : p.isValid
    · rw [if_pos hname] at he
      cases hbytes : fs.readBytes p with
      | error e' =>
        rw [hbytes] at he
        cases he
        cases hfault
      | ok bytes =>
        rw [hbytes] at he
        cases hdecoded : Text.decode? bytes with
        | some s => simp [hdecoded] at he
        | none =>
          simp only [hdecoded, Except.error.injEq] at he
          subst he
          cases hfault
          exact .encoding hname hbytes (decode?_eq_none_iff.1 hdecoded)
    · rw [if_neg hname] at he
      cases he
      cases hfault
      exact .name hname

end FileSystem

end ModulePack
