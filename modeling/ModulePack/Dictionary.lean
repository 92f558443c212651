/-!
# Dictionaries

A dictionary is a list of keys with their values in the order in which the keys were first
inserted. Inserting a known key replaces its value and keeps its place.
-/

namespace ModulePack

abbrev Dictionary (α : Type) := List (String × α)

namespace Dictionary

variable {α : Type}

def find? : Dictionary α → String → Option α
  | [], _ => none
  | (k, v) :: rest, key => if k = key then some v else find? rest key

def contains (d : Dictionary α) (key : String) : Bool := (d.find? key).isSome

def insert : Dictionary α → String → α → Dictionary α
  | [], key, value => [(key, value)]
  | (k, v) :: rest, key, value =>
    if k = key then (k, value) :: rest else (k, v) :: insert rest key value

def erase : Dictionary α → String → Dictionary α
  | [], _ => []
  | (k, v) :: rest, key => if k = key then erase rest key else (k, v) :: erase rest key

def keys (d : Dictionary α) : List String := d.map (·.1)

/-- The dictionary of a list of pairs, in which a later pair wins. -/
def ofPairs (pairs : List (String × α)) : Dictionary α :=
  pairs.foldl (fun d (key, value) => insert d key value) []

@[simp] theorem find?_nil (key : String) : find? ([] : Dictionary α) key = none := rfl

theorem find?_insert (d : Dictionary α) (key other : String) (value : α) :
    find? (insert d key value) other = if key = other then some value else find? d other := by
  induction d with
  | nil => rfl
  | cons p rest ih =>
    obtain ⟨k, v⟩ := p
    grind [insert, find?]

theorem find?_erase (d : Dictionary α) (key other : String) :
    find? (erase d key) other = if key = other then none else find? d other := by
  induction d with
  | nil => simp [erase]
  | cons p rest ih =>
    obtain ⟨k, v⟩ := p
    grind [erase, find?]

theorem find?_eq_none_iff {d : Dictionary α} {key : String} :
    d.find? key = none ↔ key ∉ d.keys := by
  induction d with
  | nil => simp [keys]
  | cons p rest ih =>
    obtain ⟨k, v⟩ := p
    by_cases h : k = key
    · simp [find?, keys, h]
    · simp only [find?, h, if_false, ih, keys, List.map_cons, List.mem_cons, not_or]
      exact ⟨fun hk => ⟨fun he => h he.symm, hk⟩, fun hk => hk.2⟩

theorem insert_eq_append {d : Dictionary α} {key : String} (value : α)
    (h : d.find? key = none) : d.insert key value = d ++ [(key, value)] := by
  induction d with
  | nil => rfl
  | cons p rest ih =>
    obtain ⟨k, v⟩ := p
    by_cases hk : k = key
    · simp [find?, hk] at h
    · simp only [find?, hk, if_false] at h
      simp only [insert, hk, if_false, ih h, List.cons_append]

theorem foldl_insert_eq_append {d : Dictionary α} {pairs : List (String × α)}
    (h : (keys (d ++ pairs)).Nodup) :
    pairs.foldl (fun d (key, value) => insert d key value) d = d ++ pairs := by
  induction pairs generalizing d with
  | nil => simp
  | cons p rest ih =>
    obtain ⟨key, value⟩ := p
    have hnew : d.find? key = none := by
      rw [find?_eq_none_iff]
      simp only [keys, List.map_append, List.map_cons, List.nodup_append] at h ⊢
      exact fun hmem => h.2.2 key hmem key List.mem_cons_self rfl
    rw [List.append_cons] at h ⊢
    simp only [List.foldl_cons, insert_eq_append value hnew]
    exact ih h

/-- Pairs with different keys are a dictionary. -/
theorem ofPairs_eq_self {pairs : List (String × α)} (h : (keys pairs).Nodup) :
    ofPairs pairs = pairs :=
  foldl_insert_eq_append (d := []) h

/-- Of names that are numbered from `n` on, each is found at its number. -/
theorem find?_zipIdx (names : List String) (n : Nat) (x : String) :
    find? (names.zipIdx n) x = if x ∈ names then some (n + names.idxOf x) else none := by
  induction names generalizing n with
  | nil => rfl
  | cons a rest ih =>
    by_cases h : a = x
    · simp [find?, h]
    · have hx : x ≠ a := fun he => h he.symm
      have hi : (a :: rest).idxOf x = rest.idxOf x + 1 := by
        simp [List.idxOf_cons, beq_false_of_ne h]
      have hn : n + 1 + rest.idxOf x = n + (rest.idxOf x + 1) := by omega
      simp only [List.zipIdx_cons, find?, h, if_false, ih, List.mem_cons, hx, false_or, hi, hn]

end Dictionary

end ModulePack
