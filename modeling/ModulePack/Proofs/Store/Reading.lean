import ModulePack.Proofs.Except
import ModulePack.Proofs.FileSystem.Reading
import ModulePack.Proofs.Store.Snapshot

/-!
# What a snapshot is read as

A snapshot gives a store where the file holds JSON of an object with the version and a list of valid
records, and for each name the last record counts. All that is wrong with a path, with JSON or with
a record is an error of stores. What no error of stores stands for is a fault: a path that is no
name, bytes that are no text, a number with too many digits, values that are nested too deep, and
modules that have no elements. Modules that have elements and none of them are read as an empty
list. All this is said of files in which no half of a pair of UTF-16 units stands alone: such a half
is no character, and nothing is known here of texts with one.
-/

namespace ModulePack

namespace Store

/-- Of several records of one name the last one stays. -/
theorem get?_ofRecords_eq_some_iff {records : List Record} {name : String} {r : Record} :
    (ofRecords records).get? name = some r ↔
      ∃ before after, records = before ++ r :: after ∧ r.name = name ∧
        ∀ q ∈ after, q.name ≠ name := by
  rw [get?_ofRecords, List.find?_eq_some_iff_append]
  constructor
  · rintro ⟨hr, after, before, h, hafter⟩
    refine ⟨before.reverse, after.reverse, ?_, by simpa using hr, by simpa using hafter⟩
    simpa using congrArg List.reverse h
  · rintro ⟨before, after, rfl, hr, hafter⟩
    exact ⟨by simpa using hr, after.reverse, before.reverse, by simp, by simpa using hafter⟩

end Store

namespace Snapshot

variable {fs : FileSystem} {p : Path} {store : Store} {records : List Record} {v : Value}
  {items : List Value} {fault : Fault} {e : Error}

/-- Whether the file `p` holds UTF-8, which is JSON of the value. -/
structure Holds (fs : FileSystem) (p : Path) (v : Value) : Prop where
  name : p.isValid
  json : ∃ content : String, fs.readBytes p = .ok content.toUTF8 ∧
    Json.parse (Text.unified content) = .ok v

/-- Whether no half of a pair of UTF-16 units is met alone where the file is read as JSON. -/
def Paired (fs : FileSystem) (p : Path) : Prop :=
  ∀ content : String, fs.readBytes p = .ok content.toUTF8 →
    Json.parse (Text.unified content) ≠ .error .halfPair

def Versioned (v : Value) : Prop :=
  ∃ fields n, v = .table fields ∧ Dictionary.find? fields "version" = some n ∧ n.isNumber version

/-- What the modules of a snapshot may be: nothing, a list of valid records, or a text or an object
that has no elements. -/
inductive Lists : Option Value → List Record → Prop
  | absent : Lists none []
  | items {items : List Value} {records : List Record}
      (h : List.Forall₂ (fun item r => Record.ofValue item = .valid r) items records) :
      Lists (some (.list items)) records
  | emptyText : Lists (some (.text "")) []
  | emptyTable : Lists (some (.table [])) []

/-- The faults of reading a snapshot, none of which is an error of stores. -/
inductive Escapes (fs : FileSystem) (p : Path) : Fault → Prop
  | garbled {fault : Fault} (h : fs.Garbled p fault) : Escapes fs p fault
  | unreadable {content : String} {e : ReadError} {fault : Fault} (hname : p.isValid)
      (hbytes : fs.readBytes p = .ok content.toUTF8)
      (hjson : Json.parse (Text.unified content) = .error e) (hpaired : e ≠ .halfPair)
      (hfault : e.fault? = some fault) : Escapes fs p fault
  | modules {v modules : Value} (hholds : Holds fs p v) (hversion : Versioned v)
      (hmodules : v.field? "modules" = some modules)
      (hkind : (∀ items, modules ≠ .list items) ∧ (∀ s, modules ≠ .text s) ∧
        ∀ fields, modules ≠ .table fields) : Escapes fs p .wrongKind

theorem versioned_iff : Versioned v ↔ (v.field? "version").any (Value.isNumber version) := by
  cases v with
  | table fields => simp [Versioned, Value.field?, Option.any_eq_true]
  | _ => simp [Versioned, Value.field?]

theorem readRecords_eq_ok_iff :
    readRecords p items = .ok records ↔
      List.Forall₂ (fun item r => Record.ofValue item = .valid r) items records := by
  induction items generalizing records with
  | nil => simp [readRecords, eq_comm]
  | cons item items ih =>
    rw [readRecords, List.forall₂_cons_left_iff]
    cases hitem : Record.ofValue item with
    | invalid issues => simp
    | valid r =>
      cases hrest : readRecords p items with
      | error e => simp [Except.map, ← ih, hrest]
      | ok rest =>
        simp only [Except.map, Except.ok.injEq, Checked.valid.injEq, ← ih, hrest]
        grind

theorem exists_store_of_readRecords (h : readRecords p items = .error e) :
    ∃ issues, e = .store (.malformedRecord p issues) := by
  induction items with
  | nil => cases h
  | cons item items ih =>
    rw [readRecords] at h
    cases hitem : Record.ofValue item with
    | invalid issues =>
      rw [hitem] at h
      cases h
      exact ⟨issues, rfl⟩
    | valid r =>
      rw [hitem] at h
      cases hrest : readRecords p items with
      | ok rest => simp [hrest, Except.map] at h
      | error e' =>
        simp only [hrest, Except.map, Except.error.injEq] at h
        exact ih (hrest.trans (congrArg _ h))

theorem ofValue_text_ne (s : String) (r : Record) : Record.ofValue (.text s) ≠ .valid r := by
  simp [Record.ofValue, Checked.issue]

/-- Elements that are texts are no records. -/
theorem forall₂_texts_iff {texts : List String} :
    List.Forall₂ (fun item r => Record.ofValue item = .valid r) (texts.map .text) records ↔
      texts = [] ∧ records = [] := by
  cases texts with
  | nil => simp
  | cons s texts => simp [List.forall₂_cons_left_iff, ofValue_text_ne]

theorem lists_iff {modules : Option Value} :
    Lists modules records ↔ ∃ items, (modules.getD (.list [])).elements? = some items ∧
      List.Forall₂ (fun item r => Record.ofValue item = .valid r) items records := by
  constructor
  · rintro (_ | h | _ | _)
    · exact ⟨[], rfl, .nil⟩
    · exact ⟨_, rfl, h⟩
    · exact ⟨[], rfl, .nil⟩
    · exact ⟨[], rfl, .nil⟩
  · rintro ⟨items, hitems, h⟩
    rcases modules with _ | modules
    · cases hitems
      cases h
      exact .absent
    cases modules with
    | list others =>
      cases hitems
      exact .items h
    | text s =>
      have hchars : items = (s.toList.map String.singleton).map .text := by
        simpa [Value.elements?, Function.comp_def, eq_comm] using hitems
      rw [hchars, forall₂_texts_iff] at h
      obtain ⟨hs, rfl⟩ := h
      obtain rfl : s = "" := by simpa using hs
      exact .emptyText
    | table fields =>
      have hkeys : items = (fields.map (·.1)).map .text := by
        simpa [Value.elements?, Function.comp_def, eq_comm] using hitems
      rw [hkeys, forall₂_texts_iff] at h
      obtain ⟨hfields, rfl⟩ := h
      obtain rfl : fields = [] := by simpa using hfields
      exact .emptyTable
    | _ => cases hitems

theorem elements?_eq_none_iff :
    v.elements? = none ↔
      (∀ items, v ≠ .list items) ∧ (∀ s, v ≠ .text s) ∧ ∀ fields, v ≠ .table fields := by
  cases v <;> simp [Value.elements?]

theorem toStore_eq_ok_iff :
    toStore p v = .ok store ↔
      Versioned v ∧ ∃ records, Lists (v.field? "modules") records ∧ store = .ofRecords records := by
  rw [toStore, versioned_iff]
  split
  next hversion =>
    simp only [hversion, true_and, lists_iff]
    cases ((v.field? "modules").getD (.list [])).elements? with
    | none => simp
    | some items =>
      simp only [Option.some.injEq, exists_eq_left', ← readRecords_eq_ok_iff (p := p)]
      cases readRecords p items <;> simp [Except.map, eq_comm]
  next hversion => simp [hversion]

/-- A snapshot that is no store is an error of stores, but for modules that have no elements. -/
theorem exists_store_of_toStore (h : toStore p v = .error e) :
    (∃ e', e = .store e') ∨ e = .fault .wrongKind ∧ Versioned v ∧
      ∃ modules, v.field? "modules" = some modules ∧ modules.elements? = none := by
  rw [toStore] at h
  split at h
  next hversion =>
    cases hmodules : v.field? "modules" with
    | none =>
      rw [hmodules] at h
      cases h
    | some modules =>
      simp only [hmodules, Option.getD_some] at h
      cases hitems : modules.elements? with
      | none =>
        simp only [hitems, Except.error.injEq] at h
        exact .inr ⟨h.symm, versioned_iff.2 hversion, modules, rfl, hitems⟩
      | some items =>
        simp only [hitems] at h
        cases hread : readRecords p items with
        | ok records => simp [hread, Except.map] at h
        | error e' =>
          simp only [hread, Except.map, Except.error.injEq] at h
          obtain ⟨issues, hissues⟩ := exists_store_of_readRecords hread
          exact .inl ⟨_, h.symm.trans hissues⟩
  next hversion =>
    cases h
    exact .inl ⟨_, rfl⟩

theorem exists_holds_iff {f : Value → Prop} :
    (∃ s v, fs.readText p = .ok s ∧ Json.parse s = .ok v ∧ f v) ↔ ∃ v, Holds fs p v ∧ f v := by
  constructor
  · rintro ⟨s, v, hread, hparse, hv⟩
    obtain ⟨hname, content, hbytes, rfl⟩ := FileSystem.readText_eq_ok_iff.1 hread
    exact ⟨v, ⟨hname, content, hbytes, hparse⟩, hv⟩
  · rintro ⟨v, ⟨hname, content, hbytes, hparse⟩, hv⟩
    exact ⟨_, v, FileSystem.readText_eq_ok_iff.2 ⟨hname, content, hbytes, rfl⟩, hparse, hv⟩

theorem load_eq_ok_iff :
    load fs p = .ok store ↔ ∃ v, Holds fs p v ∧ toStore p v = .ok store := by
  rw [← exists_holds_iff, load]
  cases hread : fs.readText p with
  | error e => cases e <;> simp
  | ok s =>
    cases hparse : Json.parse s with
    | error e => simp [hparse]
    | ok v => simp [hparse]

/-- What is refused and is no error of stores is one of the faults. -/
theorem exists_store_or_escapes (hpaired : Paired fs p) (h : load fs p = .error e) :
    (∃ e', e = .store e') ∨ ∃ fault, e = .fault fault ∧ Escapes fs p fault := by
  rw [load] at h
  cases hread : fs.readText p with
  | error unread =>
    have hgarbled {fault : Fault} (hfault : unread.fault? = some fault) : Escapes fs p fault :=
      .garbled (FileSystem.garbled_iff.2 ⟨unread, hread, hfault⟩)
    rw [hread] at h
    cases unread with
    | file =>
      cases h
      exact .inl ⟨_, rfl⟩
    | badEncoding | badName =>
      cases h
      exact .inr ⟨_, rfl, hgarbled rfl⟩
  | ok s =>
    obtain ⟨hname, content, hbytes, rfl⟩ := FileSystem.readText_eq_ok_iff.1 hread
    simp only [hread] at h
    cases hparse : Json.parse (Text.unified content) with
    | error unread =>
      simp only [hparse, Except.error.injEq] at h
      cases hfault : unread.fault? with
      | none =>
        simp only [hfault, Option.map_none, Option.getD_none] at h
        exact .inl ⟨_, h.symm⟩
      | some fault =>
        simp only [hfault, Option.map_some, Option.getD_some] at h
        have hother : unread ≠ .halfPair := fun heq => hpaired content hbytes (heq ▸ hparse)
        exact .inr ⟨fault, h.symm, .unreadable hname hbytes hparse hother hfault⟩
    | ok v =>
      simp only [hparse] at h
      obtain hstore | ⟨rfl, hversion, modules, hmodules, hkind⟩ := exists_store_of_toStore h
      · exact .inl hstore
      · exact .inr ⟨_, rfl, .modules ⟨hname, content, hbytes, hparse⟩ hversion hmodules
          (elements?_eq_none_iff.1 hkind)⟩

theorem load_of_escapes (h : Escapes fs p fault) : load fs p = .error (.fault fault) := by
  have hread {content : String} (hname : p.isValid)
      (hbytes : fs.readBytes p = .ok content.toUTF8) :
      fs.readText p = .ok (Text.unified content) :=
    FileSystem.readText_eq_ok_iff.2 ⟨hname, content, hbytes, rfl⟩
  cases h with
  | garbled h =>
    obtain ⟨unread, hunread, hfault⟩ := FileSystem.garbled_iff.1 h
    rw [load, hunread]
    cases unread <;> cases hfault <;> rfl
  | unreadable hname hbytes hjson _ hfault =>
    rw [load, hread hname hbytes]
    simp only [hjson, hfault, Option.map_some, Option.getD_some]
  | modules hholds hversion hmodules hkind =>
    obtain ⟨hname, content, hbytes, hjson⟩ := hholds
    rw [load, hread hname hbytes]
    simp only [hjson, toStore, versioned_iff.1 hversion, if_true, hmodules, Option.getD_some,
      elements?_eq_none_iff.2 hkind]

/-- A snapshot is read as a store where the file holds an object with the version and with modules
that are valid records, if there are any, and only there; the last record of each name counts. A
text or an object without elements passes for a list of modules without records. Where it is not
read as a store there is an error of stores, unless one of the faults is there, and each of them
escapes. A path that can name a file is such an error where no file is there to be read. -/
theorem load_answers (fs : FileSystem) (p : Path) (hpaired : Paired fs p) :
    (∀ store, load fs p = .ok store ↔
      ∃ v records, Holds fs p v ∧ Versioned v ∧ Lists (v.field? "modules") records ∧
        store = .ofRecords records ∧
        ∀ name r, store.get? name = some r ↔
          ∃ before after, records = before ++ r :: after ∧ r.name = name ∧
            ∀ q ∈ after, q.name ≠ name) ∧
    (∀ e, load fs p = .error e →
      (∃ e', e = .store e') ∨ ∃ fault, e = .fault fault ∧ Escapes fs p fault) ∧
    (∀ fault, Escapes fs p fault → load fs p = .error (.fault fault)) ∧
    ∀ e, p.isValid → fs.readBytes p = .error e →
      load fs p =
        .error (.store (if e.fault = .notFound then .notFound p else .unreadable p e)) := by
  refine ⟨fun store => ?_, fun e => exists_store_or_escapes hpaired, fun fault => load_of_escapes,
    fun e hname hbytes => ?_⟩
  · simp only [load_eq_ok_iff, toStore_eq_ok_iff]
    constructor
    · rintro ⟨v, hholds, hversion, records, hlists, rfl⟩
      exact ⟨v, records, hholds, hversion, hlists, rfl, fun _ _ => Store.get?_ofRecords_eq_some_iff⟩
    · rintro ⟨v, records, hholds, hversion, hlists, hstore, -⟩
      exact ⟨v, hholds, hversion, records, hlists, hstore⟩
  · rw [load, FileSystem.readText_eq_file_iff.2 ⟨hname, hbytes⟩]

def snapshotAlone (bytes : ByteArray) : FileTree := ⟨[], [(["m.json"], .file bytes)]⟩

theorem holds_snapshotAlone {content : String} (h : Json.parse (Text.unified content) = .ok v) :
    Holds (snapshotAlone content.toUTF8) ⟨.root, ["m.json"]⟩ v := ⟨rfl, content, rfl, h⟩

theorem paired_snapshotAlone {content : String} (h : Json.parse (Text.unified content) = .ok v) :
    Paired (snapshotAlone content.toUTF8) ⟨.root, ["m.json"]⟩ := by
  intro other hbytes hhalf
  obtain rfl : content = other := String.toByteArray_inj.1 (Except.ok.inj hbytes)
  cases h.symm.trans hhalf

/-- Two modules of one name, which is written in two ways as a pair of units. -/
def pairedText : String :=
  "\x7b\"version\":1,\"modules\":[\x7b\"name\":\"\\ud83d\\ude00\"\x7d," ++
    "\x7b\"name\":\"\\uD83D\\uDE00\",\"alt_name\":\"m\"\x7d]\x7d"

def pairedRecords : List Record := [{ name := "😀" }, { name := "😀", altName := some "m" }]

theorem load_answers_paired :
    Paired (snapshotAlone pairedText.toUTF8) ⟨.root, ["m.json"]⟩ ∧
      ∃ store, load (snapshotAlone pairedText.toUTF8) ⟨.root, ["m.json"]⟩ = .ok store ∧
        store.get? "😀" = some { name := "😀", altName := some "m" } := by
  have hparse : Json.parse (Text.unified pairedText) = .ok (.table [("version", .int 1),
      ("modules", .list [.table [("name", .text "😀")],
        .table [("name", .text "😀"), ("alt_name", .text "m")]])]) := rfl
  have hpaired := paired_snapshotAlone hparse
  have hlists : Lists (some (.list [.table [("name", .text "😀")],
      .table [("name", .text "😀"), ("alt_name", .text "m")]])) pairedRecords :=
    .items (.cons rfl (.cons rfl .nil))
  obtain ⟨hloads, -⟩ := load_answers _ _ hpaired
  have hload := (hloads (.ofRecords pairedRecords)).2 ⟨_, _, holds_snapshotAlone hparse,
    ⟨_, _, rfl, rfl, rfl⟩, hlists, rfl, fun _ _ => Store.get?_ofRecords_eq_some_iff⟩
  exact ⟨hpaired, _, hload, rfl⟩

/-- A byte that is no text is no error of stores, and no more are modules that are nothing. An
object without fields passes for a list of modules. -/
theorem load_escapes_alone :
    load (snapshotAlone ⟨#[0xff]⟩) ⟨.root, ["m.json"]⟩ = .error (.fault .badEncoding) ∧
      load (snapshotAlone "\x7b\"version\":1,\"modules\":null\x7d".toUTF8) ⟨.root, ["m.json"]⟩ =
        .error (.fault .wrongKind) ∧
      load (snapshotAlone "\x7b\"version\":1,\"modules\":\x7b\x7d\x7d".toUTF8)
          ⟨.root, ["m.json"]⟩ =
        .ok .empty := by
  have hversioned (modules : Value) :
      Versioned (.table [("version", .int 1), ("modules", modules)]) := ⟨_, _, rfl, rfl, rfl⟩
  refine ⟨rfl, ?_, ?_⟩
  · refine load_of_escapes (.modules (holds_snapshotAlone rfl) (hversioned .null) rfl ?_)
    simp
  · exact load_eq_ok_iff.2 ⟨_, holds_snapshotAlone rfl, toStore_eq_ok_iff.2
      ⟨hversioned (.table []), _, .emptyTable, rfl⟩⟩

end Snapshot

end ModulePack
