import Mathlib.Data.List.Induction
import ModulePack.Proofs.FileSystem.Writing
import ModulePack.Proofs.Json.Characters
import ModulePack.Proofs.Store.Agreement
import ModulePack.Store.Snapshot

/-!
# Snapshots and the stores that they describe

A store is read back from its snapshot, all but the code of its modules. Two stores have the same
snapshot if they agree but for code, and only then.
-/

namespace ModulePack

namespace Store

variable {s : Store} {name : String}

theorem ofRecords_append (records : List Record) (r : Record) :
    ofRecords (records ++ [r]) = (ofRecords records).set r := by
  rw [ofRecords, List.foldl_append]
  rfl

/-- Of several records of one name the last one stays. -/
theorem get?_ofRecords (records : List Record) (name : String) :
    (ofRecords records).get? name = records.reverse.find? (·.name = name) := by
  induction records using List.reverseRecOn with
  | nil => rfl
  | append_singleton records r ih =>
    rw [ofRecords_append, get?_set, ih, List.reverse_concat, List.find?_cons]
    by_cases h : r.name = name <;> simp [h]

def bareRecords (s : Store) : List Record :=
  s.names.filterMap fun name => (s.get? name).map Record.withoutCode

theorem name_of_map_get? {r : Record} (h : (s.get? name).map Record.withoutCode = some r) :
    r.name = name := by
  obtain ⟨q, hq, rfl⟩ := Option.map_eq_some_iff.1 h
  have hname : q.name = name := name_of_get? hq
  exact hname

theorem mem_bareRecords_iff {r : Record} :
    r ∈ s.bareRecords ↔ (s.get? r.name).map Record.withoutCode = some r := by
  rw [bareRecords, List.mem_filterMap]
  constructor
  · rintro ⟨name, -, h⟩
    rwa [name_of_map_get? h]
  · intro h
    obtain ⟨q, hq, -⟩ := Option.map_eq_some_iff.1 h
    exact ⟨r.name, mem_names_iff.2 (by rw [hq]; rfl), h⟩

theorem get?_ofRecords_bareRecords (s : Store) (name : String) :
    (ofRecords s.bareRecords).get? name = (s.get? name).map Record.withoutCode := by
  have hfound {r : Record} (h : s.bareRecords.reverse.find? (·.name = name) = some r) :
      (s.get? name).map Record.withoutCode = some r := by
    have hname : r.name = name := by simpa using List.find?_some h
    rw [← hname]
    exact mem_bareRecords_iff.1 (List.mem_reverse.1 (List.mem_of_find?_eq_some h))
  rw [get?_ofRecords]
  cases hfind : s.bareRecords.reverse.find? (·.name = name) with
  | some r => exact (hfound hfind).symm
  | none =>
    cases hr : (s.get? name).map Record.withoutCode with
    | none => rfl
    | some r =>
      have hmem : r ∈ s.bareRecords := mem_bareRecords_iff.2 (by rwa [name_of_map_get? hr])
      have hne := List.find?_eq_none.1 hfind r (List.mem_reverse.2 hmem)
      simp [name_of_map_get? hr] at hne

end Store

namespace Snapshot

theorem ofStore_eq (s : Store) :
    ofStore s = .table [("version", .int version),
      ("modules", .list (s.bareRecords.map fun r => .table r.toFields))] := by
  have hfields (name : String) :
      ((s.get? name).map Record.withoutCode).map (fun r => Value.table r.toFields) =
        (s.get? name).map fun r => .table r.toFields := by
    rw [Option.map_map]
    rfl
  simp only [ofStore, Store.bareRecords, List.map_filterMap, hfields]

theorem readRecords_toFields (p : Path) (records : List Record) :
    readRecords p (records.map fun r => .table r.toFields) =
      .ok (records.map Record.withoutCode) := by
  induction records with
  | nil => rfl
  | cons r records ih =>
    simp only [List.map_cons, readRecords, Record.ofValue, Record.ofFields_toFields, ih]
    rfl

theorem toStore_ofStore (s : Store) (p : Path) :
    toStore p (ofStore s) = .ok (.ofRecords s.bareRecords) := by
  have hbare : s.bareRecords.map Record.withoutCode = s.bareRecords := by
    rw [Store.bareRecords, List.map_filterMap]
    congr
    funext name
    rw [Option.map_map]
    rfl
  have hread := readRecords_toFields p s.bareRecords
  rw [hbare] at hread
  simp [toStore, ofStore_eq, Value.field?, Dictionary.find?, Value.isNumber, Value.elements?,
    hread, Except.map]

end Snapshot

namespace Json.Plain

variable {levels : Nat}

theorem record (r : Record) : Plain (levels + 2) (.table r.toFields) := by
  refine .table ?_ ?_
  · simp [Dictionary.keys, Record.toFields]
  · intro key v hv
    have haltName : Plain (levels + 1) (Record.optionalText r.altName) := by
      cases r.altName with
      | none => exact .null
      | some name => exact .text name
    simp only [Record.toFields, List.mem_cons, Prod.mk.injEq, List.not_mem_nil, or_false] at hv
    rcases hv with ⟨-, rfl⟩ | ⟨-, rfl⟩ | ⟨-, rfl⟩ | ⟨-, rfl⟩ | ⟨-, rfl⟩ | ⟨-, rfl⟩ | ⟨-, rfl⟩
    · exact .text _
    · exact .texts _
    · exact .texts _
    · exact .texts _
    · exact .bool _
    · exact haltName
    · exact .bool _

theorem snapshot (s : Store) : Plain (levels + 4) (Snapshot.ofStore s) := by
  have hversion : isLongNumber Snapshot.version = false := by
    have hpow (limit : Nat) (hlimit : limit ≠ 0) : 1 < Nat.pow 10 limit :=
      Nat.one_lt_pow hlimit (by decide)
    rw [isLongNumber, decide_eq_false_iff_not, Nat.not_le, longNumberBound_eq]
    exact hpow digitLimit (by decide)
  rw [Snapshot.ofStore_eq]
  refine .table (by simp [Dictionary.keys]) ?_
  intro key v hv
  simp only [List.mem_cons, Prod.mk.injEq, List.not_mem_nil, or_false] at hv
  rcases hv with ⟨-, rfl⟩ | ⟨-, rfl⟩
  · exact .int hversion
  · refine .list fun v hv => ?_
    obtain ⟨r, -, rfl⟩ := List.mem_map.1 hv
    exact .record r

end Json.Plain

namespace Snapshot

variable {s t : Store} {fs fs' : FileSystem} {tree : FileTree} {p : Path}

theorem text_eq (s : Store) :
    text s = String.ofList (Json.render .snapshot 0 (ofStore s) ++ ['\n']) := by
  rw [String.ofList_append]
  rfl

/-- The text of a snapshot is that of a store without code. -/
theorem parse_text (s : Store) : Json.parse (text s) = .ok (ofStore s) := by
  rw [text_eq]
  exact Json.parse_render .snapshot (.snapshot s) (Json.followsValue_cons (by tauto)) rfl

theorem notMem_text (s : Store) : '\r' ∉ (text s).toList := by
  rw [text_eq, String.toList_ofList, List.mem_append]
  rintro (h | h)
  · rcases Json.allowsAll_render 0 _ '\r' h with hcontrol | ⟨-, hfeed⟩
    · exact absurd hcontrol (by decide)
    · exact absurd hfeed (by decide)
  · simp at h

theorem save_eq_ok_iff : save fs s p = (fs', .ok ()) ↔ fs.writeText p (text s) = (fs', .ok ()) := by
  rw [save]
  rcases fs.writeText p (text s) with ⟨written, (e | _) | ⟨⟩⟩ <;> simp

theorem answers_of_save (h : save tree s p = (fs', .ok ())) : fs'.Answers p :=
  FileSystem.answers_of_writeText (save_eq_ok_iff.1 h)

theorem load_save (h : save fs s p = (fs', .ok ())) (hlook : fs'.Answers p) :
    load fs' p = .ok (.ofRecords s.bareRecords) := by
  have hread := FileSystem.readText_writeText (save_eq_ok_iff.1 h) hlook (notMem_text s)
  simp only [load, hread, parse_text, toStore_ofStore]

theorem readBytes_save (h : save fs s p = (fs', .ok ())) (hlook : fs'.Answers p) :
    fs'.readBytes p = .ok (text s).toUTF8 := by
  obtain ⟨-, -, made, -, hwrite⟩ := FileSystem.writeText_eq_ok_iff.1 (save_eq_ok_iff.1 h)
  exact FileSystem.readBytes_writeBytes hwrite hlook

/-- Stores have one text if they agree but for code, and only then. -/
theorem text_eq_text_iff : text s = text t ↔ s.AgreesButCode t := by
  constructor
  · intro h
    have hstore : ofStore s = ofStore t :=
      Except.ok.inj ((parse_text s).symm.trans ((congrArg Json.parse h).trans (parse_text t)))
    have hrecords : Store.ofRecords s.bareRecords = Store.ofRecords t.bareRecords := by
      have hread := congrArg (toStore default) hstore
      rw [toStore_ofStore, toStore_ofStore] at hread
      exact Except.ok.inj hread
    intro name
    rw [← Store.get?_ofRecords_bareRecords, hrecords, Store.get?_ofRecords_bareRecords]
  · intro h
    have hrecords : s.bareRecords = t.bareRecords := by
      rw [Store.bareRecords, Store.bareRecords, h.names_eq]
      congr
      funext name
      exact h name
    rw [text_eq, text_eq, ofStore_eq, ofStore_eq, hrecords]

/-- At each path that can be written a store is saved and loaded again, with the same names and
all but the code of its records. Two stores are saved as the same bytes if they agree but for code,
and only then. -/
theorem save_load (fs gs : FileTree) (p q : Path) (s t : Store) (hp : fs.Writable p)
    (hq : gs.Writable q) :
    ∃ fs' gs', save fs s p = (fs', .ok ()) ∧ save gs t q = (gs', .ok ()) ∧
      (∃ loaded, load fs' p = .ok loaded ∧ loaded.names = s.names ∧
        ∀ name, loaded.get? name = (s.get? name).map Record.withoutCode) ∧
      ∃ bytes others, fs'.readBytes p = .ok bytes ∧ gs'.readBytes q = .ok others ∧
        (bytes = others ↔ s.names = t.names ∧
          ∀ name, (s.get? name).map Record.withoutCode = (t.get? name).map Record.withoutCode) := by
  obtain ⟨fs', hfs⟩ := hp.exists_writeText (text s)
  obtain ⟨gs', hgs⟩ := hq.exists_writeText (text t)
  have hs : save fs s p = (fs', .ok ()) := save_eq_ok_iff.2 hfs
  have ht : save gs t q = (gs', .ok ()) := save_eq_ok_iff.2 hgs
  have hloaded : (Store.ofRecords s.bareRecords).AgreesButCode s := by
    intro name
    rw [Store.get?_ofRecords_bareRecords, Option.map_map]
    rfl
  have hlook : fs'.Answers p := answers_of_save hs
  have hlook' : gs'.Answers q := answers_of_save ht
  refine ⟨fs', gs', hs, ht, ⟨_, load_save hs hlook, hloaded.names_eq,
    s.get?_ofRecords_bareRecords⟩, _, _, readBytes_save hs hlook, readBytes_save ht hlook', ?_⟩
  rw [String.toUTF8_eq_toByteArray, String.toUTF8_eq_toByteArray, String.toByteArray_inj,
    text_eq_text_iff]
  exact ⟨fun h => ⟨h.names_eq, h⟩, fun h => h.2⟩

def givenTwice : Store × Store :=
  (.ofRecords
    [{ name := "/b", exports := .ofList ["y", "é😀", "x"], code := some "b" },
      { name := "/a", altName := some "\r\n" }],
   .ofRecords
    [{ name := "/a", altName := some "\r\n" },
      { name := "/b", exports := .ofList ["x", "y", "é😀", "y"] }])

theorem agreesButCode_givenTwice : givenTwice.1.AgreesButCode givenTwice.2 := by
  intro name
  have hexports : NameSet.ofList ["y", "é😀", "x"] = .ofList ["x", "y", "é😀", "y"] := by decide
  simp only [givenTwice, Store.get?_ofRecords, List.reverse_cons, List.reverse_nil,
    List.nil_append, List.cons_append, List.find?_cons, List.find?_nil]
  by_cases ha : "/a" = name
  · subst ha
    rfl
  · by_cases hb : "/b" = name
    · subst hb
      simp [Record.withoutCode, hexports]
    · simp [ha, hb]

theorem save_load_givenTwice :
    (FileTree.mk [] []).Writable (Path.ofString "/out/modules.json") ∧
      ∃ fs' gs' loaded bytes,
        save (FileTree.mk [] []) givenTwice.1 (Path.ofString "/out/modules.json") = (fs', .ok ()) ∧
        save (FileTree.mk [] []) givenTwice.2 (Path.ofString "/out/modules.json") = (gs', .ok ()) ∧
        load fs' (Path.ofString "/out/modules.json") = .ok loaded ∧
        loaded.names = givenTwice.1.names ∧
        fs'.readBytes (Path.ofString "/out/modules.json") = .ok bytes ∧
        gs'.readBytes (Path.ofString "/out/modules.json") = .ok bytes := by
  have h : (FileTree.mk [] []).Writable (Path.ofString "/out/modules.json") := ⟨"", _, rfl⟩
  have hagree := agreesButCode_givenTwice
  obtain ⟨fs', gs', hs, ht, ⟨loaded, hload, hnames, -⟩, bytes, others, hbytes, hothers, hiff⟩ :=
    save_load _ _ _ _ givenTwice.1 givenTwice.2 h h
  obtain rfl := hiff.2 ⟨hagree.names_eq, hagree⟩
  exact ⟨h, fs', gs', loaded, bytes, hs, ht, hload, hnames, hbytes, hothers⟩

end Snapshot

end ModulePack
