import Mathlib.Data.List.Induction
import ModulePack.Proofs.Store.Agreement

/-!
# Stores under operations

A store goes through a sequence of operations, each of which sets a record or deletes a name. What
it then holds under a name is what was last set under it, unless the name was deleted since, and all
that can be asked of it agrees on that. It is the dictionary that the same operations make of the
records by their names, and operations on different names can change places.
-/

namespace ModulePack

namespace Store

inductive Operation
  | set (r : Record)
  | delete (name : String)

namespace Operation

def name : Operation → String
  | .set r => r.name
  | .delete name => name

def record? : Operation → Option Record
  | .set r => some r
  | .delete _ => none

def change (d : Dictionary Record) : Operation → Dictionary Record
  | .set r => d.insert r.name r
  | .delete name => d.erase name

theorem record?_eq_some_iff {o : Operation} {r : Record} : o.record? = some r ↔ o = .set r := by
  cases o <;> simp [record?]

end Operation

/-- Whether `r` is what operations have set last under a name that they have not deleted since. -/
def SetLast (operations : List Operation) (name : String) (r : Record) : Prop :=
  ∃ before after, operations = before ++ .set r :: after ∧ r.name = name ∧
    ∀ o ∈ after, o.name ≠ name

theorem setLast_concat_iff {operations : List Operation} {o : Operation} {name : String}
    {r : Record} :
    SetLast (operations ++ [o]) name r ↔
      if o.name = name then o.record? = some r else SetLast operations name r := by
  rw [Operation.record?_eq_some_iff]
  constructor
  · rintro ⟨before, after, h, hr, hafter⟩
    obtain rfl | ⟨after, last, rfl⟩ := after.eq_nil_or_concat'
    · obtain rfl := List.singleton_inj.1 (List.append_inj' h rfl).2
      simp [Operation.name, hr]
    · have hsplit : operations ++ [o] = (before ++ .set r :: after) ++ [last] := by simpa using h
      obtain ⟨rfl, hlast⟩ := List.append_inj' hsplit rfl
      obtain rfl := List.singleton_inj.1 hlast
      rw [List.forall_mem_append, List.forall_mem_singleton] at hafter
      rw [if_neg hafter.2]
      exact ⟨before, after, rfl, hr, hafter.1⟩
  · split_ifs with hname
    · rintro rfl
      exact ⟨operations, [], rfl, hname, by simp⟩
    · rintro ⟨before, after, rfl, hr, hafter⟩
      refine ⟨before, after ++ [o], by simp, hr, ?_⟩
      exact List.forall_mem_append.2 ⟨hafter, List.forall_mem_singleton.2 hname⟩

def perform (s : Store) : Operation → Store
  | .set r => s.set r
  | .delete name => s.delete name

def performAll (s : Store) (operations : List Operation) : Store := operations.foldl perform s

def table (s : Store) : Dictionary Record := s.records.map fun r => (r.name, r)

/-- Whether nothing that can be asked tells two stores apart. -/
structure Indistinct (s t : Store) : Prop where
  fetch : ∀ name, s.fetch name = t.fetch name
  has : ∀ name, s.has name = t.has name
  names : s.names = t.names
  size : s.size = t.size

variable {s t : Store} {name : String} {r : Record} {o o' : Operation}
  {operations : List Operation}

theorem find?_table (s : Store) (name : String) : s.table.find? name = s.get? name := by
  rw [table, get?]
  induction s.records with
  | nil => rfl
  | cons r records ih => by_cases h : r.name = name <;> simp [Dictionary.find?, h, ih]

theorem table_set (s : Store) (r : Record) : (s.set r).table = s.table.insert r.name r := by
  have hrecords : (s.set r).records = setRecord r s.records := rfl
  rw [table, table, hrecords]
  induction s.records with
  | nil => rfl
  | cons q records ih => by_cases h : q.name = r.name <;> simp [setRecord, Dictionary.insert, h, ih]

theorem table_delete (s : Store) (name : String) : (s.delete name).table = s.table.erase name := by
  have hrecords : (s.delete name).records = s.records.filter (·.name ≠ name) := rfl
  rw [table, table, hrecords]
  induction s.records with
  | nil => rfl
  | cons q records ih => by_cases h : q.name = name <;> simp [Dictionary.erase, h, ← ih]

theorem table_perform (s : Store) (o : Operation) : (s.perform o).table = o.change s.table := by
  cases o with
  | set r => exact s.table_set r
  | delete name => exact s.table_delete name

theorem get?_perform (s : Store) (o : Operation) (name : String) :
    (s.perform o).get? name = if o.name = name then o.record? else s.get? name := by
  rw [← find?_table, table_perform, ← find?_table]
  cases o with
  | set r => exact Dictionary.find?_insert _ _ _ _
  | delete name => exact Dictionary.find?_erase _ _ _

theorem performAll_concat (s : Store) (operations : List Operation) (o : Operation) :
    s.performAll (operations ++ [o]) = (s.performAll operations).perform o := by
  rw [performAll, List.foldl_append]
  rfl

/-- A store that was empty first holds what operations have set last. -/
theorem get?_performAll_eq_some_iff :
    (empty.performAll operations).get? name = some r ↔ SetLast operations name r := by
  induction operations using List.reverseRecOn with
  | nil => simp [performAll, empty, get?, SetLast]
  | append_singleton operations o ih =>
    rw [performAll_concat, get?_perform, setLast_concat_iff]
    split_ifs
    · exact Iff.rfl
    · exact ih

theorem table_performAll (operations : List Operation) :
    (empty.performAll operations).table = operations.foldl Operation.change [] := by
  induction operations using List.reverseRecOn with
  | nil => rfl
  | append_singleton operations o ih =>
    rw [performAll_concat, table_perform, ih, List.foldl_append]
    rfl

theorem performAll_ofRecords (records : List Record) (operations : List Operation) :
    (ofRecords records).performAll operations =
      empty.performAll (records.map .set ++ operations) := by
  rw [performAll, performAll, List.foldl_append, List.foldl_map]
  rfl

theorem fetch_eq_error_iff {e : Error} :
    s.fetch name = .error e ↔ s.get? name = none ∧ e = .unknownModule name := by
  rw [fetch]
  cases s.get? name <;> simp [eq_comm]

theorem sorted_names (s : Store) : s.names.Pairwise (· < ·) := by
  have hle : s.names.Pairwise (· ≤ ·) := pairwise_sortNames _
  refine (hle.and s.nodup_names).imp ?_
  rintro a b ⟨hab, hne⟩
  exact lt_of_le_of_ne hab hne

theorem size_eq (s : Store) : s.size = s.names.length := by
  rw [size, names, (perm_sortNames _).length_eq, List.length_map]

/-- Stores that hold the same record under each name cannot be told apart. -/
theorem indistinct_of_get?_eq (h : ∀ name, s.get? name = t.get? name) : Indistinct s t := by
  have hnames : s.names = t.names := AgreesButCode.names_eq fun name => by rw [h name]
  refine ⟨fun name => ?_, fun name => ?_, hnames, ?_⟩
  · rw [fetch, fetch, h name]
  · rw [has, has, h name]
  · rw [size_eq, size_eq, hnames]

theorem get?_performAll_congr (h : ∀ name, s.get? name = t.get? name) (name : String) :
    (s.performAll operations).get? name = (t.performAll operations).get? name := by
  induction operations using List.reverseRecOn generalizing name with
  | nil => exact h name
  | append_singleton operations o ih =>
    rw [performAll_concat, performAll_concat, get?_perform, get?_perform, ih]

theorem get?_perform_comm (hne : o.name ≠ o'.name) (name : String) :
    ((s.perform o).perform o').get? name = ((s.perform o').perform o).get? name := by
  simp only [get?_perform]
  split_ifs with h h' h'
  · exact absurd (h'.trans h.symm) hne
  all_goals rfl

/-- What a store holds after operations, the first of which set the records that it was made of.
What it gives for a name is what was set last, and it refuses the name where there is nothing; the
ways to ask whether a name is there agree with that. It lists its names in code point order, each
once, and counts them. It is the dictionary that the operations make, and each record of that has
its key for a name. Two operations on different names can change places, whatever comes after. -/
theorem performAll_keeps_last (records : List Record) (operations : List Operation) :
    let s := (ofRecords records).performAll operations
    let history := records.map .set ++ operations
    let made := history.foldl Operation.change []
    (∀ name,
      (∀ r, s.fetch name = .ok r ↔ SetLast history name r) ∧
      (s.fetch name = .error (.unknownModule name) ↔ ¬ ∃ r, SetLast history name r) ∧
      (s.has name ↔ ∃ r, s.fetch name = .ok r) ∧
      (s.table.contains name ↔ ∃ r, s.fetch name = .ok r) ∧
      (name ∈ s.names ↔ ∃ r, s.fetch name = .ok r)) ∧
    s.names.Pairwise (· < ·) ∧ s.size = s.names.length ∧
    s.table = made ∧ (∀ name r, made.find? name = some r → r.name = name) ∧
    ∀ o o' : Operation, o.name ≠ o'.name → ∀ later,
      Indistinct (((s.perform o).perform o').performAll later)
        (((s.perform o').perform o).performAll later) := by
  intro s history made
  have hs : s = empty.performAll history := performAll_ofRecords records operations
  have htable : s.table = made := by rw [hs, table_performAll]
  have hfetch (name : String) (r : Record) : s.fetch name = .ok r ↔ SetLast history name r := by
    rw [fetch_eq_ok_iff, hs, get?_performAll_eq_some_iff]
  have hsome (name : String) : (s.get? name).isSome ↔ ∃ r, s.fetch name = .ok r := by
    simp only [fetch_eq_ok_iff, Option.isSome_iff_exists]
  refine ⟨fun name => ⟨hfetch name, ?_, hsome name, ?_, mem_names_iff.trans (hsome name)⟩,
    s.sorted_names, s.size_eq, htable, fun name r hr => ?_, fun o o' hne later => ?_⟩
  · simp only [fetch_eq_error_iff, and_true, ← hfetch, ← hsome, Option.not_isSome_iff_eq_none]
  · rw [Dictionary.contains, find?_table]
    exact hsome name
  · rw [← htable, find?_table] at hr
    exact name_of_get? hr
  · exact indistinct_of_get?_eq (get?_performAll_congr (get?_perform_comm hne))

/-- A record that is set again after its name was deleted is there, and its neighbour is not. -/
example : ((ofRecords [{ name := "/a" }, { name := "/b" }]).performAll
    [.delete "/b", .delete "/a", .set { name := "/a", code := some "a" }]).table =
      [("/a", { name := "/a", code := some "a" })] := by decide

end Store

end ModulePack
