import ModulePack.Entry
import ModulePack.Proofs.Json.RoundTrip
import ModulePack.Proofs.Record.Fields

/-!
# Reading the entries of a bundle

The array of a bundle is read back entry by entry. An empty second name is not written, so it is
read back as none; nothing else is lost. An array that is read as an entry is written in one form
only, which is no longer than the array.
-/

namespace ModulePack

open Value

namespace Dictionary

variable {α : Type} {names : List (String × String)} {field : String}

theorem find?_append (d e : Dictionary α) (key : String) :
    find? (d ++ e) key = (find? d key).or (find? e key) := by
  induction d with
  | nil => rfl
  | cons p d ih =>
    obtain ⟨k, v⟩ := p
    rw [List.cons_append, find?, find?, ih]
    split_ifs <;> rfl

theorem find?_rename_eq_none (d : Dictionary α) (h : field ∉ names.map (·.2)) :
    find? (names.filterMap fun (key, field) => (d.find? key).map (field, ·)) field = none := by
  rw [find?_eq_none_iff, keys, List.mem_map]
  rintro ⟨⟨_, value⟩, hmem, rfl⟩
  obtain ⟨⟨key, name⟩, hname, hvalue⟩ := List.mem_filterMap.1 hmem
  obtain ⟨_, -, heq⟩ := Option.map_eq_some_iff.1 hvalue
  exact h (List.mem_map.2 ⟨_, hname, congrArg Prod.fst heq⟩)

/-- A field that is named after a key has the value of the key. -/
theorem find?_rename (d : Dictionary α) {key : String} (distinct : (names.map (·.2)).Nodup)
    (h : (key, field) ∈ names) :
    find? (names.filterMap fun (key, field) => (d.find? key).map (field, ·)) field =
      d.find? key := by
  induction names with
  | nil => simp at h
  | cons name names ih =>
    obtain ⟨first, other⟩ := name
    simp only [List.map_cons, List.nodup_cons] at distinct
    rcases List.mem_cons.1 h with heq | hmem
    · cases heq
      have hnone := find?_rename_eq_none d distinct.1
      cases hd : d.find? key with
      | none => simpa [List.filterMap_cons, hd] using hnone
      | some value => simp [hd, find?]
    · have hne : other ≠ field := by
        rintro rfl
        exact distinct.1 (List.mem_map_of_mem hmem)
      have hrest := ih distinct.2 hmem
      cases hd : d.find? first with
      | none => simpa [List.filterMap_cons, hd] using hrest
      | some value => simpa [List.filterMap_cons, hd, find?, hne] using hrest

end Dictionary

namespace EntryMeta

/-- The metadata as it is read back: an empty second name is none. -/
def settled (m : EntryMeta) : EntryMeta := { m with altName := m.altName.filter (· ≠ "") }

theorem find?_toFields (m : EntryMeta) :
    Dictionary.find? m.toFields "exportRefs" =
        (if m.reexports = [] then none else some (.list (m.reexports.map .text))) ∧
      Dictionary.find? m.toFields "exports" =
        (if m.exports = [] then none else some (.list (m.exports.map .text))) ∧
      Dictionary.find? m.toFields "arbitraryType" =
        (if m.opaqueExport then some (.bool true) else none) ∧
      Dictionary.find? m.toFields "altName" =
        if m.altName.getD "" = "" then none else some (.text (m.altName.getD "")) := by
  simp only [toFields, Dictionary.find?_append, List.isEmpty_iff]
  refine ⟨?_, ?_, ?_, ?_⟩ <;> split_ifs <;> simp [Dictionary.find?]

def wireKeys : List (String × String) :=
  [("exportRefs", "export_refs"), ("exports", "exports"), ("arbitraryType", "arbitrary_type"),
    ("altName", "alt_name")]

theorem ofWire_eq (wire : Dictionary Value) :
    ofWire wire =
      ofFields (wireKeys.filterMap fun (key, field) => (wire.find? key).map (field, ·)) := rfl

/-- Metadata is read back as it was written, with no empty second name. -/
theorem ofWire_toFields (m : EntryMeta) : ofWire m.toFields = .valid m.settled := by
  have hfind (key field : String) (h : (key, field) ∈ wireKeys) :=
    Dictionary.find?_rename m.toFields (by decide) h
  obtain ⟨hreexports, hexports, hopaque, haltName⟩ := m.find?_toFields
  rw [ofWire_eq]
  generalize (wireKeys.filterMap fun (key, field) =>
    (Dictionary.find? m.toFields key).map (field, ·)) = fields at hfind
  have hreexports : Value.optional fields "export_refs" asTexts [] = .valid m.reexports := by
    rw [Value.optional, hfind "exportRefs" _ (by decide), hreexports]
    split_ifs with h <;> simp [h, Checked.within]
  have hexports : Value.optional fields "exports" asTexts [] = .valid m.exports := by
    rw [Value.optional, hfind "exports" _ (by decide), hexports]
    split_ifs with h <;> simp [h, Checked.within]
  have hopaque : Value.optional fields "arbitrary_type" asTruth false = .valid m.opaqueExport := by
    rw [Value.optional, hfind "arbitraryType" _ (by decide), hopaque]
    split_ifs with h <;> simp [h, Checked.within, asTruth]
  have haltName : Value.optional fields "alt_name" asOptionalText none =
      .valid (m.altName.filter (· ≠ "")) := by
    rw [Value.optional, hfind "altName" _ (by decide), haltName]
    split_ifs with h <;> cases hname : m.altName <;>
      simp_all [Checked.within, asOptionalText, asText, Checked.map, Option.filter]
  rw [ofFields, hreexports, hexports, hopaque, haltName]
  rfl

theorem toFields_settled (m : EntryMeta) : m.settled.toFields = m.toFields := by
  have haltName : m.settled.altName.getD "" = m.altName.getD "" := by
    rw [settled]
    cases m.altName with
    | none => rfl
    | some name => by_cases h : name = "" <;> simp [Option.filter, h]
  rw [toFields, haltName]
  rfl

end EntryMeta

namespace Entry

def settled (e : Entry) : Entry := { e with metadata := e.metadata.map EntryMeta.settled }

theorem toItems_settled (e : Entry) : e.settled.toItems = e.toItems := by
  unfold toItems settled
  cases e.metadata with
  | none => rfl
  | some m => simp only [Option.map_some, m.toFields_settled]

theorem ofFields_texts (name code : String) (dependencies : List String) :
    ofFields [("name", .text name), ("dependencies", .list (dependencies.map .text)),
      ("code", .text code)] = .valid ⟨name, dependencies, none, code⟩ := by
  simp [ofFields, Value.required, Value.optional, Dictionary.find?, asText, Checked.within,
    Checked.both, Checked.map]

/-- An entry is read back from the items that it is written with. -/
theorem ofItems_toItems (e : Entry) : ofItems e.toItems = .ok e.settled := by
  obtain ⟨name, dependencies, metadata, code⟩ := e
  cases metadata with
  | some m =>
    simp only [toItems, ofItems, m.ofWire_toFields, ofFields_texts]
    rfl
  | none =>
    by_cases hdependencies : dependencies = []
    · rw [hdependencies]
      rfl
    · simp only [toItems, List.isEmpty_iff, hdependencies, if_false, ofItems, ofFields_texts]
      rfl

theorem ofWire_toWire (e : Entry) : ofWire e.toWire = .ok e.settled := e.ofItems_toItems

/-- Fields that are read as an entry without dependencies or metadata give it none. -/
theorem of_ofFields {fields : Dictionary Value} {e : Entry} (h : ofFields fields = .valid e) :
    (fields.find? "dependencies" = none → e.dependencies = []) ∧
      (fields.find? "meta" = none → e.metadata = none) := by
  obtain ⟨⟨name, dependencies, metadata, code⟩, hparts, rfl⟩ := Checked.map_eq_valid_iff.1 h
  obtain ⟨-, hparts⟩ := Checked.both_eq_valid_iff.1 hparts
  obtain ⟨hdependencies, hparts⟩ := Checked.both_eq_valid_iff.1 hparts
  obtain ⟨hmetadata, -⟩ := Checked.both_eq_valid_iff.1 hparts
  rw [Value.optional] at hdependencies hmetadata
  constructor
  · intro hnone
    rw [hnone] at hdependencies
    exact (Checked.valid.inj hdependencies).symm
  · intro hnone
    rw [hnone] at hmetadata
    exact (Checked.valid.inj hmetadata).symm

theorem ofChecked_eq_ok_iff {α : Type} {c : Checked α} {a : α} :
    ofChecked c = .ok a ↔ c = .valid a := by cases c <;> simp [ofChecked]

theorem length_toItems (e : Entry) : e.toItems.length =
    if e.metadata.isSome then 4 else if e.dependencies = [] then 2 else 3 := by
  unfold toItems
  cases e.metadata with
  | some m => rfl
  | none => by_cases h : e.dependencies = [] <;> simp [h]

/-- What is read as an entry is not written with more items. -/
theorem length_toItems_le {items : List Value} {e : Entry} (h : ofItems items = .ok e) :
    e.toItems.length ≤ items.length := by
  rw [length_toItems]
  unfold ofItems at h
  split at h
  · obtain ⟨hdependencies, hmetadata⟩ := of_ofFields (ofChecked_eq_ok_iff.1 h)
    simp [hmetadata rfl, hdependencies rfl]
  · obtain ⟨-, hmetadata⟩ := of_ofFields (ofChecked_eq_ok_iff.1 h)
    rw [hmetadata rfl, if_neg (by decide)]
    split_ifs <;> simp
  · split_ifs <;> simp
  · simp at h
  · simp at h

end Entry

namespace Json.Plain

variable {levels : Nat}

theorem metadata (m : EntryMeta) : Plain (levels + 2) (.table m.toFields) := by
  refine .table ?_ ?_
  · unfold EntryMeta.toFields
    split_ifs <;> simp [Dictionary.keys]
  · intro key v hv
    simp only [EntryMeta.toFields, List.mem_append, List.mem_ite_nil_left, List.mem_ite_nil_right,
      List.mem_singleton, Prod.mk.injEq] at hv
    rcases hv with ((⟨-, -, rfl⟩ | ⟨-, -, rfl⟩) | ⟨-, -, rfl⟩) | ⟨-, -, rfl⟩
    · exact .texts _
    · exact .texts _
    · exact .bool _
    · exact .text _

theorem entry (e : Entry) : Plain (levels + 3) e.toWire := by
  refine .list fun v hv => ?_
  have hitem : v = .text e.name ∨ v = .list (e.dependencies.map .text) ∨
      (∃ m, v = .table (EntryMeta.toFields m)) ∨ v = .text e.code := by
    unfold Entry.toItems at hv
    cases hmeta : e.metadata with
    | some m =>
      simp only [hmeta, List.mem_cons, List.not_mem_nil, or_false] at hv
      grind
    | none =>
      simp only [hmeta] at hv
      split_ifs at hv <;> simp only [List.mem_cons, List.not_mem_nil, or_false] at hv <;> tauto
  rcases hitem with rfl | rfl | ⟨m, rfl⟩ | rfl
  · exact .text _
  · exact .texts _
  · exact .metadata _
  · exact .text _

end Json.Plain

/-- The text of a bundle reads as the array of its entries as they are written. -/
theorem parse_serializeEntries (entries : List Entry) :
    Json.parse (serializeEntries entries) = .ok (.list (entries.map Entry.toWire)) := by
  refine Json.parse_print .compact (.list fun v hv => ?_)
  obtain ⟨e, -, rfl⟩ := List.mem_map.1 hv
  exact .entry e

/-- The entries are read back from the text of a bundle in their order, as they were but for empty
second names. What is read as an entry is written with no more items, and read again it is written
the same way. -/
theorem serializeEntries_roundTrip :
    (∀ entries : List Entry, ∃ items,
      Json.parse (serializeEntries entries) = .ok (.list items) ∧
        items.length = entries.length ∧
        ∀ (i : Nat) (e : Entry), entries[i]? = some e →
          ∃ item, items[i]? = some item ∧ Entry.ofWire item = .ok e.settled) ∧
      ∀ (wire : Value) (e : Entry), Entry.ofWire wire = .ok e →
        (∃ again, Entry.ofWire e.toWire = .ok again ∧ again.toWire = e.toWire) ∧
          ∃ items, wire.elements? = some items ∧ e.toItems.length ≤ items.length := by
  constructor
  · intro entries
    refine ⟨_, parse_serializeEntries entries, List.length_map _, fun i e he => ?_⟩
    exact ⟨e.toWire, by rw [List.getElem?_map, he, Option.map_some], e.ofWire_toWire⟩
  · intro wire e he
    refine ⟨⟨_, e.ofWire_toWire, congrArg Value.list e.toItems_settled⟩, ?_⟩
    rw [Entry.ofWire] at he
    split at he
    · next items hitems => exact ⟨items, hitems, Entry.length_toItems_le he⟩
    · simp at he

def escapedEntry : Entry where
  name := "a\"b\\c"
  dependencies := ["\n", "\x01é😀", "\n"]
  metadata := some { opaqueExport := true, altName := some "" }
  code := "\x7f\t\r"

theorem serializeEntries_roundTrip_escapedEntry :
    (∃ items, Json.parse (serializeEntries [escapedEntry]) = .ok (.list items) ∧
      ∃ item, items[0]? = some item ∧ Entry.ofWire item = .ok escapedEntry.settled) ∧
      Entry.ofWire (.list [.text "m", .list [],
        .table [("altName", .text ""), ("arbitraryType", .text "Yes")], .text "c"]) =
        .ok ⟨"m", [], some ⟨[], [], true, some ""⟩, "c"⟩ ∧
      (Entry.mk "m" [] (some ⟨[], [], true, some ""⟩) "c").toItems.length ≤ 4 := by
  obtain ⟨hforth, hback⟩ := serializeEntries_roundTrip
  obtain ⟨items, hitems, -, hread⟩ := hforth [escapedEntry]
  have hwire : Entry.ofWire (.list [.text "m", .list [],
      .table [("altName", .text ""), ("arbitraryType", .text "Yes")], .text "c"]) =
      .ok ⟨"m", [], some ⟨[], [], true, some ""⟩, "c"⟩ := by rfl
  obtain ⟨-, parts, hparts, hlength⟩ := hback _ _ hwire
  cases hparts
  exact ⟨⟨items, hitems, hread 0 escapedEntry rfl⟩, hwire, hlength⟩

end ModulePack
