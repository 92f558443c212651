import ModulePack.Proofs.Assembly.Entries

/-!
# The shortest form of an entry

That an entry has metadata is decided apart from what its metadata says, and both apart from what is
written of it. The three agree: metadata is written exactly if there is something to tell, it is
never empty, and no array that reads as the same entry has fewer items.
-/

namespace ModulePack

namespace Dictionary

variable {α : Type}

theorem keys_append (d e : Dictionary α) : keys (d ++ e) = keys d ++ keys e := List.map_append

theorem keys_ite_sublist (p : Prop) [Decidable p] (key : String) (value : α) :
    (keys (if p then [] else [(key, value)])).Sublist [key] := by
  split
  · exact List.nil_sublist _
  · exact List.Sublist.refl _

end Dictionary

def EntryMeta.keyOrder : List String := ["exportRefs", "exports", "arbitraryType", "altName"]

theorem EntryMeta.keys_toFields_sublist (m : EntryMeta) :
    (Dictionary.keys m.toFields).Sublist keyOrder := by
  have hsingle : (Dictionary.keys
      (if m.opaqueExport then [("arbitraryType", Value.bool true)] else [])).Sublist
        ["arbitraryType"] := by
    split
    · exact List.Sublist.refl _
    · exact List.nil_sublist _
  rw [toFields, Dictionary.keys_append, Dictionary.keys_append, Dictionary.keys_append]
  exact (((Dictionary.keys_ite_sublist _ _ _).append (Dictionary.keys_ite_sublist _ _ _)).append
    hsingle).append (Dictionary.keys_ite_sublist _ _ _)

namespace Record

variable {r : Record} {circular : Bool} {fields : Dictionary Value} {m : EntryMeta}

/-- Whether there is more to tell of a module than what it depends on. -/
def Remarkable (r : Record) (circular : Bool) : Prop :=
  (∃ name, r.altName = some name ∧ name ≠ "") ∨ r.opaqueExport ∨
    circular ∧ (r.exports.names ≠ [] ∨ r.reexports ≠ [])

/-- Whether a table tells all that there is to tell of a module, and nothing else. -/
structure ToldBy (r : Record) (circular : Bool) (fields : Dictionary Value) : Prop where
  keys : fields.keys.Sublist EntryMeta.keyOrder
  reexports : ∀ v, fields.find? "exportRefs" = some v ↔
    circular ∧ r.reexports ≠ [] ∧ ∃ sorted : List String, sorted.Pairwise (· ≤ ·) ∧
      sorted.Perm r.reexports ∧ v = .list (sorted.map .text)
  exports : ∀ v, fields.find? "exports" = some v ↔
    circular ∧ r.exports.names ≠ [] ∧ v = .list (r.exports.names.map .text)
  opaqueExport : ∀ v, fields.find? "arbitraryType" = some v ↔ r.opaqueExport ∧ v = .bool true
  altName : ∀ v, fields.find? "altName" = some v ↔
    ∃ name, r.altName = some name ∧ name ≠ "" ∧ v = .text name

theorem getD_altName_ne_iff :
    r.altName.getD "" ≠ "" ↔ ∃ name, r.altName = some name ∧ name ≠ "" := by
  cases r.altName <;> simp

theorem needsMeta_iff : r.needsMeta circular ↔ r.Remarkable circular := by
  have hexports : r.exports.isEmpty = false ↔ r.exports.names ≠ [] := by simp [NameSet.isEmpty]
  have hreexports : r.reexports.isEmpty = false ↔ r.reexports ≠ [] := by simp
  simp only [needsMeta, Remarkable, ← getD_altName_ne_iff, Bool.or_eq_true, Bool.and_eq_true,
    Bool.not_eq_true', bne_iff_ne, hexports, hreexports]
  tauto

theorem isSome_entryMeta_iff : (r.entryMeta circular).isSome ↔ r.Remarkable circular := by
  rw [← needsMeta_iff, entryMeta]
  split <;> simp_all

theorem toldBy_toFields (h : r.entryMeta circular = some m) : r.ToldBy circular m.toFields := by
  obtain ⟨hreexports, hexports, hsingle, haltName⟩ := m.find?_toFields
  rw [entryMeta] at h
  split at h
  swap
  · cases h
  cases h
  refine ⟨EntryMeta.keys_toFields_sublist _, fun v => ?_, fun v => ?_, fun v => ?_, fun v => ?_⟩
  · have hsorted (sorted : List String) : sorted.Pairwise (· ≤ ·) ∧ sorted.Perm r.reexports ∧
        v = .list (sorted.map .text) ↔
          sorted = sortNames r.reexports ∧ v = .list (sorted.map .text) := by
      rw [← and_assoc, eq_sortNames_iff]
    rw [hreexports]
    simp only [hsorted, exists_eq_left]
    cases circular <;> simp [sortNames_eq_nil_iff, @eq_comm _ v]
  · rw [hexports]
    cases circular <;> simp [@eq_comm _ v]
  · rw [hsingle]
    simp [@eq_comm _ v]
  · rw [haltName]
    cases r.altName <;> simp [@eq_comm _ v]

/-- The table of a module of which there is something to tell is not empty. -/
theorem ToldBy.ne_nil (h : r.ToldBy circular fields) (hr : r.Remarkable circular) :
    fields ≠ [] := by
  rintro rfl
  rcases hr with ⟨name, hname, hne⟩ | hsingle | ⟨hcircular, hexports | hreexports⟩
  · cases (h.altName (.text name)).2 ⟨name, hname, hne, rfl⟩
  · cases (h.opaqueExport (.bool true)).2 ⟨hsingle, rfl⟩
  · cases (h.exports _).2 ⟨hcircular, hexports, rfl⟩
  · cases (h.reexports _).2
      ⟨hcircular, hreexports, _, pairwise_sortNames _, perm_sortNames _, rfl⟩

end Record

/-- An array that is read as what the items of an entry are read as has no fewer items. -/
theorem Entry.length_toItems_le_of_same {e decoded : Entry} {wire : Value} {items : List Value}
    (he : ofItems e.toItems = .ok decoded) (hitems : wire.elements? = some items)
    (h : ofWire wire = .ok decoded) : e.toItems.length ≤ items.length := by
  obtain rfl : e.settled = decoded := Except.ok.inj (e.ofItems_toItems.symm.trans he)
  rw [ofWire, hitems] at h
  have hle : e.settled.toItems.length ≤ items.length := length_toItems_le h
  rwa [e.toItems_settled] at hle

namespace Record

/-- A module that has its code is written with four items exactly if there is something to tell of
it, which its metadata tells and which is not empty, and otherwise with three items or two, as it
has dependencies or none. No array that reads as the same entry has fewer items. -/
theorem toEntry_shortest (r : Record) (circular : Bool) (hcode : r.hasCode) :
    ∃ items, (r.toEntry circular).map Entry.toItems = .ok items ∧
      (items.length = 4 ↔ r.Remarkable circular) ∧
      (r.Remarkable circular → ∃ fields, fields ≠ [] ∧ r.ToldBy circular fields ∧
        items = [.text r.name, .list (r.dependencies.map .text), .table fields,
          .text (r.code.getD "")]) ∧
      (¬ r.Remarkable circular → items.length = if r.dependencies = [] then 2 else 3) ∧
      ∃ decoded, Entry.ofWire (.list items) = .ok decoded ∧
        ∀ wire others, wire.elements? = some others → Entry.ofWire wire = .ok decoded →
          items.length ≤ others.length := by
  let e : Entry := ⟨r.name, r.dependencies, r.entryMeta circular, r.code.getD ""⟩
  have hne : r.code.getD "" ≠ "" := by simpa [hasCode] using hcode
  have hentry : r.toEntry circular = .ok e := by rw [toEntry_eq, if_neg hne]
  have hlength : e.toItems.length =
      if (r.entryMeta circular).isSome then 4 else if r.dependencies = [] then 2 else 3 :=
    e.length_toItems
  refine ⟨e.toItems, by rw [hentry]; rfl, ?_, fun hr => ?_, fun hr => ?_, e.settled,
    e.ofItems_toItems, fun wire others hothers hread => ?_⟩
  · rw [hlength, ← isSome_entryMeta_iff]
    split_ifs <;> simp_all
  · obtain ⟨m, hm⟩ := Option.isSome_iff_exists.1 (isSome_entryMeta_iff.2 hr)
    have htold : r.ToldBy circular m.toFields := toldBy_toFields hm
    refine ⟨m.toFields, htold.ne_nil hr, htold, ?_⟩
    rw [Entry.toItems]
    simp only [e, hm]
  · rw [hlength, if_neg (fun hsome => hr (isSome_entryMeta_iff.1 hsome))]
  · exact Entry.length_toItems_le_of_same e.ofItems_toItems hothers hread

def forwarding : Record where
  name := "/a"
  reexports := ["z", "/b"]
  altName := some ""
  code := some "c"

theorem toEntry_shortest_forwarding :
    forwarding.hasCode ∧
      (∃ fields, (forwarding.toEntry true).map Entry.toItems =
          .ok [.text "/a", .list [], .table fields, .text "c"] ∧
        Dictionary.find? fields "exportRefs" = some (.list [.text "/b", .text "z"]) ∧
        Dictionary.find? fields "altName" = none) ∧
      ∃ items, (forwarding.toEntry false).map Entry.toItems = .ok items ∧ items.length = 2 := by
  have hcode : forwarding.hasCode := by decide
  have hr : forwarding.Remarkable true := .inr (.inr ⟨rfl, .inr (by decide)⟩)
  have hplain : ¬ forwarding.Remarkable false := by simp [Remarkable, forwarding]
  obtain ⟨_, hitems, -, hremarkable, -⟩ := toEntry_shortest forwarding true hcode
  obtain ⟨fields, -, htold, rfl⟩ := hremarkable hr
  obtain ⟨items, hothers, -, -, hlength, -⟩ := toEntry_shortest forwarding false hcode
  have hrefs : Dictionary.find? fields "exportRefs" = some (.list [.text "/b", .text "z"]) :=
    (htold.reexports _).2 ⟨rfl, by decide, ["/b", "z"], by decide, .swap "z" "/b" [], rfl⟩
  refine ⟨hcode, ⟨fields, hitems, hrefs, ?_⟩, items, hothers, hlength hplain⟩
  refine Option.eq_none_iff_forall_ne_some.2 fun v hv => ?_
  obtain ⟨name, hname, hne, -⟩ := (htold.altName v).1 hv
  cases hname
  exact hne rfl

end Record

end ModulePack
