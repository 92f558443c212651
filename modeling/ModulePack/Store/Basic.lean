import ModulePack.Error
import ModulePack.Record

/-!
# Stores of modules

A store holds at most one record of each name. Setting a record replaces the one of its name.
-/

namespace ModulePack

/-- The records with `r` in the place of the one of its name, or at the end. -/
def setRecord (r : Record) : List Record → List Record
  | [] => [r]
  | q :: rest => if q.name = r.name then r :: rest else q :: setRecord r rest

theorem mem_names_setRecord {r : Record} {records : List Record} {name : String} :
    name ∈ (setRecord r records).map Record.name ↔
      name = r.name ∨ name ∈ records.map Record.name := by
  induction records with
  | nil => simp [setRecord]
  | cons q rest ih => grind [setRecord]

theorem nodup_setRecord {r : Record} {records : List Record}
    (h : (records.map Record.name).Nodup) : ((setRecord r records).map Record.name).Nodup := by
  induction records with
  | nil => simp [setRecord]
  | cons q rest ih =>
    simp only [List.map_cons, List.nodup_cons] at h
    by_cases hq : q.name = r.name
    · simp only [setRecord, hq, if_true, List.map_cons, List.nodup_cons]
      exact ⟨hq ▸ h.1, h.2⟩
    · simp only [setRecord, hq, if_false, List.map_cons, List.nodup_cons]
      refine ⟨fun hmem => ?_, ih h.2⟩
      rcases mem_names_setRecord.1 hmem with heq | hmem
      · exact hq heq
      · exact h.1 hmem

structure Store where
  records : List Record
  distinct : (records.map Record.name).Nodup

namespace Store

def empty : Store := ⟨[], by simp⟩

instance : Inhabited Store := ⟨empty⟩

def get? (s : Store) (name : String) : Option Record := s.records.find? (·.name = name)

def fetch (s : Store) (name : String) : Except Error Record :=
  match s.get? name with
  | some r => .ok r
  | none => .error (.unknownModule name)

def has (s : Store) (name : String) : Bool := (s.get? name).isSome

def set (s : Store) (r : Record) : Store := ⟨setRecord r s.records, nodup_setRecord s.distinct⟩

def delete (s : Store) (name : String) : Store :=
  ⟨s.records.filter (·.name ≠ name), s.distinct.sublist (List.filter_sublist.map _)⟩

def ofRecords (records : List Record) : Store := records.foldl set empty

def names (s : Store) : List String := sortNames (s.records.map Record.name)

def size (s : Store) : Nat := s.records.length

def dependencies? (s : Store) (name : String) : Option (List String) :=
  (s.get? name).map Record.dependencies

def setCode (s : Store) (name code : String) : Store :=
  match s.get? name with
  | some r => s.set { r with code := some code }
  | none => s

theorem find?_setRecord {r : Record} {records : List Record} {name : String} :
    (setRecord r records).find? (·.name = name) =
      if r.name = name then some r else records.find? (·.name = name) := by
  induction records with
  | nil => by_cases h : r.name = name <;> simp [setRecord, h]
  | cons q rest ih => grind [setRecord]

@[simp] theorem get?_set (s : Store) (r : Record) (name : String) :
    (s.set r).get? name = if r.name = name then some r else s.get? name := find?_setRecord

theorem name_of_get? {s : Store} {name : String} {r : Record} (h : s.get? name = some r) :
    r.name = name := by simpa using List.find?_some h

end Store

end ModulePack
