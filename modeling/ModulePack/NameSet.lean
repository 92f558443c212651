/-!
# Sets of names

A set of names is kept in code point order without repetitions, so two sets with the same members
are the same list.
-/

namespace ModulePack

/-- Names in code point order; a name that is there twice stays there twice. -/
def sortNames (names : List String) : List String := names.mergeSort fun a b => decide (a ≤ b)

theorem mem_sortNames {names : List String} {x : String} : x ∈ sortNames names ↔ x ∈ names :=
  List.mem_mergeSort

def insertName (name : String) : List String → List String
  | [] => [name]
  | other :: rest =>
    if name < other then name :: other :: rest
    else if name = other then other :: rest
    else other :: insertName name rest

theorem mem_insertName {name x : String} {names : List String} :
    x ∈ insertName name names ↔ x = name ∨ x ∈ names := by
  induction names with
  | nil => simp [insertName]
  | cons other rest ih => grind [insertName]

theorem pairwise_insertName {name : String} {names : List String}
    (h : names.Pairwise (· < ·)) : (insertName name names).Pairwise (· < ·) := by
  induction names with
  | nil => simp [insertName]
  | cons other rest ih =>
    simp only [List.pairwise_cons] at h
    obtain ⟨hfirst, hrest⟩ := h
    by_cases hlt : name < other
    · simp only [insertName, hlt, if_true, List.pairwise_cons]
      refine ⟨fun x hx => ?_, hfirst, hrest⟩
      rcases List.mem_cons.1 hx with rfl | hx
      · exact hlt
      · exact String.lt_trans hlt (hfirst x hx)
    · by_cases heq : name = other
      · subst heq
        simp only [insertName, hlt, if_false, if_true, List.pairwise_cons]
        exact ⟨hfirst, hrest⟩
      · simp only [insertName, hlt, heq, if_false, List.pairwise_cons]
        refine ⟨fun x hx => ?_, ih hrest⟩
        rcases mem_insertName.1 hx with rfl | hx
        · grind
        · exact hfirst x hx

structure NameSet where
  names : List String
  sorted : names.Pairwise (· < ·)
  deriving DecidableEq

namespace NameSet

def empty : NameSet := ⟨[], .nil⟩

instance : Inhabited NameSet := ⟨empty⟩

instance : Membership String NameSet := ⟨fun s name => name ∈ s.names⟩

instance (name : String) (s : NameSet) : Decidable (name ∈ s) :=
  inferInstanceAs (Decidable (name ∈ s.names))

def insert (s : NameSet) (name : String) : NameSet :=
  ⟨insertName name s.names, pairwise_insertName s.sorted⟩

def ofList (names : List String) : NameSet := names.foldl insert empty

def union (s : NameSet) (names : List String) : NameSet := names.foldl insert s

def erase (s : NameSet) (name : String) : NameSet :=
  ⟨s.names.filter (· ≠ name), s.sorted.sublist List.filter_sublist⟩

def isEmpty (s : NameSet) : Bool := s.names.isEmpty

theorem mem_def {s : NameSet} {name : String} : name ∈ s ↔ name ∈ s.names := Iff.rfl

@[simp] theorem notMem_empty (name : String) : ¬ name ∈ empty := by simp [mem_def, empty]

@[simp] theorem mem_insert {s : NameSet} {name x : String} :
    x ∈ s.insert name ↔ x = name ∨ x ∈ s := mem_insertName

@[simp] theorem mem_erase {s : NameSet} {name x : String} :
    x ∈ s.erase name ↔ x ∈ s ∧ x ≠ name := by simp [mem_def, erase]

@[simp] theorem mem_union {names : List String} {s : NameSet} {x : String} :
    x ∈ s.union names ↔ x ∈ s ∨ x ∈ names := by
  induction names generalizing s with
  | nil => simp [union]
  | cons name rest ih =>
    have : s.union (name :: rest) = (s.insert name).union rest := rfl
    rw [this, ih]
    simp only [mem_insert, List.mem_cons]
    grind

@[simp] theorem mem_ofList {names : List String} {x : String} : x ∈ ofList names ↔ x ∈ names := by
  have : ofList names = empty.union names := rfl
  simp [this]

theorem mem_foldl_erase {names : List String} {s : NameSet} {x : String} :
    x ∈ names.foldl NameSet.erase s ↔ x ∈ s ∧ x ∉ names := by
  induction names generalizing s with
  | nil => simp
  | cons name rest ih =>
    simp only [List.foldl_cons, ih, mem_erase, List.mem_cons, not_or, and_assoc]

end NameSet

end ModulePack
