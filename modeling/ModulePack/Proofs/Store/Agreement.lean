import ModulePack.Proofs.Order.Reachability
import ModulePack.Proofs.Record.Fields

/-!
# Stores that agree but for code

Two stores agree but for code if they hold the same names and the records of each name differ in
their code at most. The order in which records were inserted plays no part. Such stores have the
same names in the same order and the same dependencies.
-/

namespace ModulePack

theorem pairwise_sortNames (names : List String) : (sortNames names).Pairwise (· ≤ ·) := by
  have htrans (a b c : String) (hab : decide (a ≤ b)) (hbc : decide (b ≤ c)) : decide (a ≤ c) :=
    decide_eq_true (String.le_trans (of_decide_eq_true hab) (of_decide_eq_true hbc))
  have htotal (a b : String) : decide (a ≤ b) || decide (b ≤ a) := by
    simpa using String.le_total a b
  exact (List.pairwise_mergeSort htrans htotal names).imp of_decide_eq_true

theorem perm_sortNames (names : List String) : (sortNames names).Perm names :=
  List.mergeSort_perm names _

/-- There is one list of names in order. -/
theorem eq_sortNames_iff {names sorted : List String} :
    sorted = sortNames names ↔ sorted.Pairwise (· ≤ ·) ∧ sorted.Perm names := by
  constructor
  · rintro rfl
    exact ⟨pairwise_sortNames names, perm_sortNames names⟩
  · rintro ⟨hsorted, hperm⟩
    exact (hperm.trans (perm_sortNames names).symm).eq_of_pairwise' hsorted
      (pairwise_sortNames names)

theorem sortNames_eq_nil_iff {names : List String} : sortNames names = [] ↔ names = [] := by
  rw [← List.length_eq_zero_iff, (perm_sortNames names).length_eq, List.length_eq_zero_iff]

/-- The order in which names are given plays no part when they are sorted. -/
theorem sortNames_eq_of_perm {names others : List String} (h : names.Perm others) :
    sortNames names = sortNames others :=
  eq_sortNames_iff.2 ⟨pairwise_sortNames names, (perm_sortNames names).trans h⟩

namespace Store

variable {s t u : Store} {name : String}

/-- For each name both stores hold no record, or records that differ in their code at most. -/
def AgreesButCode (s t : Store) : Prop :=
  ∀ name, (s.get? name).map Record.withoutCode = (t.get? name).map Record.withoutCode

theorem fetch_eq_ok_iff {r : Record} : s.fetch name = .ok r ↔ s.get? name = some r := by
  rw [fetch]
  cases s.get? name <;> simp

theorem mem_map_name_iff : name ∈ s.records.map Record.name ↔ (s.get? name).isSome := by
  rw [get?, List.find?_isSome]
  simp

theorem mem_names_iff : name ∈ s.names ↔ (s.get? name).isSome :=
  mem_sortNames.trans mem_map_name_iff

theorem nodup_names (s : Store) : s.names.Nodup := (perm_sortNames _).nodup_iff.2 s.distinct

namespace AgreesButCode

theorem refl (s : Store) : s.AgreesButCode s := fun _ => rfl

theorem symm (h : s.AgreesButCode t) : t.AgreesButCode s := fun name => (h name).symm

theorem trans (h : s.AgreesButCode t) (h' : t.AgreesButCode u) : s.AgreesButCode u :=
  fun name => (h name).trans (h' name)

theorem isSome_get? (h : s.AgreesButCode t) (name : String) :
    (s.get? name).isSome = (t.get? name).isSome := by
  simpa using congrArg Option.isSome (h name)

theorem exists_get? {r : Record} (h : s.AgreesButCode t) (ht : t.get? name = some r) :
    ∃ q, s.get? name = some q ∧ q.withoutCode = r.withoutCode := by
  have hname := h name
  rw [ht] at hname
  exact Option.map_eq_some_iff.1 hname

theorem names_eq (h : s.AgreesButCode t) : s.names = t.names := by
  refine sortNames_eq_of_perm ((List.perm_ext_iff_of_nodup s.distinct t.distinct).2 fun name => ?_)
  rw [mem_map_name_iff, mem_map_name_iff, h.isSome_get?]

theorem graph_eq (h : s.AgreesButCode t) : s.graph = t.graph := by
  funext name
  have hname := congrArg (Option.map Record.dependencies) (h name)
  rw [Option.map_map, Option.map_map] at hname
  exact hname

end AgreesButCode

theorem agreesButCode_setCode (s : Store) (name code : String) :
    s.AgreesButCode (s.setCode name code) := by
  intro other
  rw [setCode]
  cases h : s.get? name with
  | none => rfl
  | some r =>
    have hname := name_of_get? h
    rw [get?_set]
    split_ifs with hother
    · obtain rfl : other = name := hother.symm.trans hname
      rw [h]
      rfl
    · rfl

end Store

end ModulePack
