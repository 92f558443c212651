import ModulePack.Proofs.Order.Reachability

/-!
# Depth first traversal

The traversal from a module visits each stored dependency that is not found yet, in the order in
which they are declared, and is done with a module when it is done with all of them. Modules are
numbered by their places in the order of discovery and timed by their places in the order of
finishing. The classes of modules that reach each other are its blocks.
-/

namespace ModulePack

structure Traversal where
  /-- In order of discovery. -/
  found : List String
  /-- In the order in which the traversal was done with them. -/
  finished : List String
  deriving DecidableEq

namespace Traversal

def enter (t : Traversal) (name : String) : Traversal := { t with found := t.found ++ [name] }

def finish (t : Traversal) (name : String) : Traversal :=
  { t with finished := t.finished ++ [name] }

open Classical in
/-- The modules found that `a` reaches and that reach it, in order of discovery. -/
noncomputable def members (t : Traversal) (g : Graph) (a : String) : List String :=
  t.found.filter fun b => g.Mutual a b

/-- The classes of modules that reach each other, in the order in which the traversal was done with
the first found of each. -/
noncomputable def blocks (t : Traversal) (g : Graph) : List (List String) :=
  (t.finished.filter fun a => (t.members g a).head? = some a).map (t.members g)

end Traversal

namespace Store

def unfound (s : Store) (found : List String) : Nat := s.records.countP (·.name ∉ found)

theorem unfound_le {s : Store} {found found' : List String} (h : found ⊆ found') :
    s.unfound found' ≤ s.unfound found := by
  apply List.countP_mono_left
  intro r _ hr
  simp only [decide_eq_true_eq] at hr ⊢
  exact fun hmem => hr (h hmem)

theorem unfound_append_lt {s : Store} {found dependencies : List String} {name : String}
    (stored : s.graph name = some dependencies) (new : name ∉ found) :
    s.unfound (found ++ [name]) < s.unfound found := by
  obtain ⟨r, hr, hname, -⟩ := exists_record stored
  have hsplit : s.records.filter (·.name ∉ found ++ [name]) =
      (s.records.filter (·.name ∉ found)).filter (·.name ≠ name) := by
    rw [List.filter_filter]
    congr 1
    funext q
    simp [and_comm]
  rw [unfound, unfound, List.countP_eq_length_filter, List.countP_eq_length_filter, hsplit,
    List.length_filter_lt_length_iff_exists]
  exact ⟨r, List.mem_filter.2 ⟨hr, by simpa [hname] using new⟩, by simp [hname]⟩

def explore (s : Store) (t : Traversal) (names : List String) :
    { t' : Traversal // t.found ⊆ t'.found } :=
  match names with
  | [] => ⟨t, List.Subset.refl _⟩
  | name :: rest =>
    match _hg : s.graph name with
    | none => s.explore t rest
    | some dependencies =>
      if _hfound : name ∈ t.found then s.explore t rest
      else
        let inner := s.explore (t.enter name) dependencies
        let outer := s.explore (inner.1.finish name) rest
        ⟨outer.1, fun _ ha => outer.2 (inner.2 (List.mem_append_left _ ha))⟩
termination_by (s.unfound t.found, names.length)
decreasing_by
  · exact .right _ (Nat.lt_succ_self _)
  · exact .right _ (Nat.lt_succ_self _)
  · exact .left _ _ (unfound_append_lt _hg _hfound)
  · have hsub : t.found ⊆ inner.1.found := fun _ ha => inner.2 (List.mem_append_left _ ha)
    exact Prod.Lex.right' _ (unfound_le hsub) (Nat.lt_succ_self _)

def visitAll (s : Store) (t : Traversal) (names : List String) : Traversal := (s.explore t names).1

def traversal (s : Store) (entry : String) : Traversal := s.visitAll ⟨[], []⟩ [entry]

variable {s : Store} {t : Traversal} {name : String} {rest dependencies : List String}

@[simp] theorem visitAll_nil : s.visitAll t [] = t := by
  rw [visitAll, explore]

theorem visitAll_unknown (h : s.graph name = none) :
    s.visitAll t (name :: rest) = s.visitAll t rest := by
  rw [visitAll, explore]
  split
  next => rfl
  next hsome =>
    rw [h] at hsome
    cases hsome

theorem visitAll_found (h : name ∈ t.found) :
    s.visitAll t (name :: rest) = s.visitAll t rest := by
  rw [visitAll, explore]
  split
  next => rfl
  next =>
    rw [dif_pos h]
    rfl

theorem visitAll_new (hg : s.graph name = some dependencies) (hnew : name ∉ t.found) :
    s.visitAll t (name :: rest) =
      s.visitAll ((s.visitAll (t.enter name) dependencies).finish name) rest := by
  rw [visitAll, explore]
  split
  next hnone =>
    rw [hg] at hnone
    cases hnone
  next dependencies' hsome =>
    rw [hg] at hsome
    cases hsome
    rw [dif_neg hnew]
    rfl

end Store

end ModulePack
