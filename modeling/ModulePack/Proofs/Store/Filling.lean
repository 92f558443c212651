import ModulePack.Proofs.Store.Agreement

/-!
# Filling in code

Code that is known by the names of modules is filled into all records of a store at once. To set the
code of one module is to fill it in, and what is filled in twice can be filled in once, so the order
in which codes are set shows in no store.
-/

namespace ModulePack

def Record.fill (r : Record) (code? : String → Option String) : Record :=
  { r with code := (code? r.name).or r.code }

theorem Record.fill_of_eq_none {r : Record} {code? : String → Option String}
    (h : code? r.name = none) : r.fill code? = r := by simp [Record.fill, h]

theorem setRecord_eq_map {r : Record} {records : List Record}
    (hdistinct : (records.map Record.name).Nodup) (hr : r.name ∈ records.map Record.name) :
    setRecord r records = records.map fun q => if q.name = r.name then r else q := by
  induction records with
  | nil => simp at hr
  | cons q rest ih =>
    rw [List.map_cons, List.nodup_cons] at hdistinct
    by_cases hq : q.name = r.name
    · have hrest : ∀ x ∈ rest, (if x.name = r.name then r else x) = x := by
        intro x hx
        have hne : x.name ≠ r.name := fun he =>
          hdistinct.1 (hq.trans he.symm ▸ List.mem_map_of_mem hx)
        rw [if_neg hne]
      rw [setRecord, if_pos hq, List.map_cons, if_pos hq, List.map_congr_left hrest, List.map_id']
    · have hmem : r.name ∈ rest.map Record.name := by
        rw [List.map_cons] at hr
        exact (List.mem_cons.1 hr).resolve_left (Ne.symm hq)
      rw [setRecord, if_neg hq, List.map_cons, if_neg hq, ih hdistinct.2 hmem]

namespace Store

variable {s : Store} {name : String} {code? others? : String → Option String}

def fill (s : Store) (code? : String → Option String) : Store :=
  ⟨s.records.map (·.fill code?), by rw [List.map_map]; exact s.distinct⟩

theorem ext_records {s t : Store} (h : s.records = t.records) : s = t := by
  cases s
  cases t
  cases h
  rfl

theorem records_fill (s : Store) (code? : String → Option String) :
    (s.fill code?).records = s.records.map (·.fill code?) := rfl

@[simp] theorem get?_fill (s : Store) (code? : String → Option String) (name : String) :
    (s.fill code?).get? name = (s.get? name).map (·.fill code?) := by
  rw [get?, fill, List.find?_map]
  rfl

@[simp] theorem fill_none (s : Store) : s.fill (fun _ => none) = s :=
  ext_records (List.map_id' s.records)

theorem fill_fill (s : Store) (code? others? : String → Option String) :
    (s.fill code?).fill others? = s.fill fun name => (others? name).or (code? name) := by
  refine ext_records ?_
  simp only [records_fill, List.map_map]
  refine List.map_congr_left fun r _ => ?_
  simp [Record.fill, Option.or_assoc]

theorem agreesButCode_fill (s : Store) (code? : String → Option String) :
    s.AgreesButCode (s.fill code?) := by
  intro name
  rw [get?_fill, Option.map_map]
  rfl

theorem get?_eq_some_iff {r : Record} : s.get? name = some r ↔ r ∈ s.records ∧ r.name = name := by
  constructor
  · exact fun h => ⟨List.mem_of_find?_eq_some h, name_of_get? h⟩
  · rintro ⟨hr, rfl⟩
    have hsome : (s.get? r.name).isSome := mem_map_name_iff.1 (List.mem_map_of_mem hr)
    obtain ⟨q, hq⟩ := Option.isSome_iff_exists.1 hsome
    rw [hq, List.inj_on_of_nodup_map s.distinct (List.mem_of_find?_eq_some hq) hr
      (name_of_get? hq)]

/-- The code of one module is filled in where it is set. -/
theorem setCode_eq_fill (s : Store) (name code : String) :
    s.setCode name code = s.fill fun other => if other = name then some code else none := by
  refine ext_records ?_
  rw [setCode, records_fill]
  cases hr : s.get? name with
  | none =>
    have hsame : ∀ q ∈ s.records,
        q.fill (fun other => if other = name then some code else none) = q := by
      intro q hq
      refine Record.fill_of_eq_none (if_neg ?_)
      rintro rfl
      rw [get?_eq_some_iff.2 ⟨hq, rfl⟩] at hr
      cases hr
    rw [List.map_congr_left hsame, List.map_id']
  | some r =>
    obtain ⟨hmem, rfl⟩ := get?_eq_some_iff.1 hr
    let loaded : Record := { r with code := some code }
    have hr : r.name ∈ s.records.map Record.name := List.mem_map_of_mem hmem
    have hset : (s.set loaded).records =
        s.records.map fun q => if q.name = r.name then loaded else q :=
      setRecord_eq_map s.distinct hr
    refine hset.trans (List.map_congr_left fun q hq => ?_)
    by_cases hname : q.name = r.name
    · obtain rfl : q = r := List.inj_on_of_nodup_map s.distinct hq hmem hname
      simp [Record.fill, loaded]
    · rw [if_neg hname, Record.fill_of_eq_none (if_neg hname)]

end Store

end ModulePack
