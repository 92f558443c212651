import Mathlib.Data.List.Sort
import Mathlib.Data.String.Basic
import ModulePack.Record

/-!
# Reading the fields of a record

Lists of texts are read back from values as they were. A record is read back from its fields, all
but its code, which is none of them.
-/

namespace ModulePack

namespace NameSet

/-- Sets with the same members are the same. -/
theorem eq_of_mem_iff {s t : NameSet} (h : ∀ name, name ∈ s ↔ name ∈ t) : s = t := by
  have hnames : s.names = t.names := s.sorted.eq_of_mem_iff t.sorted h
  cases s
  cases t
  cases hnames
  rfl

@[simp] theorem ofList_names (s : NameSet) : ofList s.names = s :=
  eq_of_mem_iff fun _ => mem_ofList

end NameSet

namespace Checked

variable {α β : Type} {a : Checked α} {b : Checked β}

theorem both_eq_valid_iff {x : α} {y : β} :
    a.both b = .valid (x, y) ↔ a = .valid x ∧ b = .valid y := by
  cases a <;> cases b <;> simp [both]

theorem map_eq_valid_iff {f : α → β} {y : β} :
    a.map f = .valid y ↔ ∃ x, a = .valid x ∧ f x = y := by
  cases a <;> simp [map]

end Checked

namespace Value

theorem items_asText (index : Nat) (names : List String) :
    Checked.items asText index (names.map .text) = .valid names := by
  induction names generalizing index with
  | nil => rfl
  | cons name names ih =>
    simp only [List.map_cons, Checked.items, ih]
    rfl

@[simp] theorem asTexts_texts (names : List String) :
    asTexts (.list (names.map .text)) = .valid names := items_asText 0 names

@[simp] theorem asTextSet_texts (names : List String) :
    asTextSet (.list (names.map .text)) = .valid (.ofList names) := by
  rw [asTextSet, items_asText]
  rfl

end Value

namespace Record

def withoutCode (r : Record) : Record := { r with code := none }

@[simp] theorem withoutCode_withoutCode (r : Record) : r.withoutCode.withoutCode = r.withoutCode :=
  rfl

theorem asOptionalText_optionalText (text : Option String) :
    Value.asOptionalText (optionalText text) = .valid text := by cases text <;> rfl

/-- A record is read back from its fields without its code. -/
theorem ofFields_toFields (r : Record) : ofFields r.toFields = .valid r.withoutCode := by
  simp [ofFields, toFields, Value.required, Value.optional, Dictionary.find?, Checked.within,
    Checked.both, Checked.map, Value.asText, Value.asTruth, asOptionalText_optionalText,
    withoutCode]

end Record

end ModulePack
