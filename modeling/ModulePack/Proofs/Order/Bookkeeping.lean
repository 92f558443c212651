import Mathlib.Data.List.Nodup
import Mathlib.Data.List.TakeWhile
import ModulePack.Proofs.Order.Move

/-!
# What the search keeps account of

The modules found are numbered by their places in the order of discovery. Each is either listed or
on the stack, and the way from the entry module lies within the stack.
-/

namespace ModulePack.Order

theorem eq_takeWhile_ne_append {names : List String} {name : String} (h : name ∈ names) :
    names = names.takeWhile (· ≠ name) ++ name :: (names.dropWhile (· ≠ name)).drop 1 := by
  induction names with
  | nil => simp at h
  | cons a rest ih =>
    by_cases ha : a = name
    · simp [ha]
    · have hmem : name ∈ rest := by simpa [Ne.symm ha] using h
      simpa [ha] using ih hmem

theorem sublist_of_cons_sublist_append_cons {name : String} {names before after : List String}
    (h : (name :: names).Sublist (before ++ name :: after)) (hname : name ∉ before) :
    names.Sublist after := by
  induction before with
  | nil => exact List.cons_sublist_cons.1 h
  | cons a before ih =>
    simp only [List.mem_cons, not_or] at hname
    cases h with
    | cons _ h => exact ih h hname.2
    | cons_cons _ h => exact absurd rfl hname.1

theorem pairwise_idxOf {names : List String} (h : names.Nodup) :
    names.Pairwise (fun a b => names.idxOf a < names.idxOf b) := by
  rw [List.pairwise_iff_getElem]
  intro i j hi hj hij
  rwa [h.idxOf_getElem i hi, h.idxOf_getElem j hj]

namespace State

def found (s : State) : List String := s.index.keys

/-- The modules on the way from the entry module, the last one first. -/
def way (s : State) : List String := s.work.map Frame.name

def above (s : State) (name : String) : List String := s.stack.takeWhile (· ≠ name)

def below (s : State) (name : String) : List String := (s.stack.dropWhile (· ≠ name)).drop 1

variable {s : State} {a name : String}

theorem found_start (entry : String) (dependencies : List String) :
    (State.start entry dependencies).found = [entry] := rfl

theorem way_eq {rest : List String} {frames : List Frame} (work : s.work = ⟨name, rest⟩ :: frames) :
    s.way = name :: frames.map Frame.name := by
  rw [way, work, List.map_cons]

theorem stack_eq (h : name ∈ s.stack) : s.stack = s.above name ++ name :: s.below name :=
  eq_takeWhile_ne_append h

theorem mem_stack_iff (h : name ∈ s.stack) :
    a ∈ s.stack ↔ a ∈ s.above name ∨ a = name ∨ a ∈ s.below name := by
  conv_lhs => rw [stack_eq h]
  rw [List.mem_append, List.mem_cons]

theorem below_sublist (s : State) (name : String) : (s.below name).Sublist s.stack :=
  (List.drop_sublist 1 _).trans (List.dropWhile_sublist _)

theorem notMem_above (s : State) (name : String) : name ∉ s.above name := by
  intro h
  simpa using List.mem_takeWhile_imp h

theorem mem_component : a ∈ s.component name ↔ a = name ∨ a ∈ s.above name := by
  simp [component, above]

theorem reverse_stack_eq (h : name ∈ s.stack) :
    s.stack.reverse = (s.below name).reverse ++ s.component name := by
  conv_lhs => rw [stack_eq h]
  simp [component, above]

end State

structure Bookkeeping (g : Graph) (entry : String) (s : State) : Prop where
  numbered : s.index = s.found.zipIdx
  distinct : s.found.Nodup
  first : s.found.head? = some entry
  stored : ∀ a ∈ s.found, (g a).isSome
  onStack_iff : ∀ a, a ∈ s.onStack ↔ a ∈ s.stack
  stack_found : s.stack.reverse.Sublist s.found
  way_stack : s.way.Sublist s.stack
  split : (s.modules ++ s.stack).Perm s.found

namespace Bookkeeping

variable {g : Graph} {entry : String} {s s' : State} {a b name : String}
  {rest dependencies : List String} {frames : List Frame}

theorem find?_index (h : Bookkeeping g entry s) (a : String) :
    s.index.find? a = if a ∈ s.found then some (s.found.idxOf a) else none := by
  conv_lhs => rw [h.numbered]
  rw [Dictionary.find?_zipIdx, Nat.zero_add]

theorem indexOf_eq (h : Bookkeeping g entry s) (ha : a ∈ s.found) :
    s.indexOf a = s.found.idxOf a := by
  simp [State.indexOf, h.find?_index, ha]

theorem length_found (s : State) : s.found.length = s.index.length := by
  simp [State.found, Dictionary.keys]

theorem indexOf_lt_length (h : Bookkeeping g entry s) (ha : a ∈ s.found) :
    s.indexOf a < s.index.length := by
  rw [h.indexOf_eq ha, ← length_found]
  exact List.idxOf_lt_length_of_mem ha

theorem mem_found_of_find? (h : Bookkeeping g entry s) {n : Nat} (hn : s.index.find? a = some n) :
    a ∈ s.found ∧ n = s.indexOf a := by
  refine ⟨?_, by simp [State.indexOf, hn]⟩
  by_contra hmem
  simp [h.find?_index, hmem] at hn

theorem mem_found_of_mem_stack (h : Bookkeeping g entry s) (ha : a ∈ s.stack) : a ∈ s.found :=
  h.stack_found.mem (List.mem_reverse.2 ha)

theorem mem_found_iff (h : Bookkeeping g entry s) :
    a ∈ s.found ↔ a ∈ s.modules ∨ a ∈ s.stack := by
  rw [← h.split.mem_iff, List.mem_append]

theorem mem_stack_of_mem_way (h : Bookkeeping g entry s) (ha : a ∈ s.way) : a ∈ s.stack :=
  h.way_stack.mem ha

theorem mem_found_of_mem_way (h : Bookkeeping g entry s) (ha : a ∈ s.way) : a ∈ s.found :=
  h.mem_found_of_mem_stack (h.mem_stack_of_mem_way ha)

theorem top_mem_stack (h : Bookkeeping g entry s) (work : s.work = ⟨name, rest⟩ :: frames) :
    name ∈ s.stack :=
  h.mem_stack_of_mem_way (State.way_eq work ▸ List.mem_cons_self)

theorem top_mem_found (h : Bookkeeping g entry s) (work : s.work = ⟨name, rest⟩ :: frames) :
    name ∈ s.found :=
  h.mem_found_of_mem_stack (h.top_mem_stack work)

theorem stack_nodup (h : Bookkeeping g entry s) : s.stack.Nodup :=
  List.nodup_reverse.1 (h.distinct.sublist h.stack_found)

theorem modules_nodup (h : Bookkeeping g entry s) : s.modules.Nodup :=
  (h.split.nodup_iff.2 h.distinct).of_append_left

theorem notMem_stack_of_mem_modules (h : Bookkeeping g entry s) (ha : a ∈ s.modules) :
    a ∉ s.stack :=
  fun hs => List.disjoint_of_nodup_append (h.split.nodup_iff.2 h.distinct) ha hs

theorem stack_sorted (h : Bookkeeping g entry s) :
    s.stack.Pairwise (fun later earlier => s.indexOf earlier < s.indexOf later) := by
  have hp := (pairwise_idxOf h.distinct).sublist h.stack_found
  rw [List.pairwise_reverse] at hp
  refine hp.imp_of_mem ?_
  intro later earlier hlater hearlier hlt
  rwa [h.indexOf_eq (h.mem_found_of_mem_stack hlater),
    h.indexOf_eq (h.mem_found_of_mem_stack hearlier)]

theorem indexOf_inj (h : Bookkeeping g entry s) (ha : a ∈ s.found) (hb : b ∈ s.found)
    (he : s.indexOf a = s.indexOf b) : a = b := by
  rw [h.indexOf_eq ha, h.indexOf_eq hb] at he
  exact (List.idxOf_inj ha).1 he

/-- The module on top is the last one found of those on the way. -/
theorem indexOf_lt_top (h : Bookkeeping g entry s) (work : s.work = ⟨name, rest⟩ :: frames)
    (ha : a ∈ frames.map Frame.name) : s.indexOf a < s.indexOf name := by
  have hsorted := h.stack_sorted.sublist h.way_stack
  rw [State.way_eq work] at hsorted
  exact List.rel_of_pairwise_cons hsorted ha

theorem indexOf_le_top (h : Bookkeeping g entry s) (work : s.work = ⟨name, rest⟩ :: frames)
    (ha : a ∈ s.way) : s.indexOf a ≤ s.indexOf name := by
  rw [State.way_eq work] at ha
  rcases List.mem_cons.1 ha with rfl | ha
  · exact le_rfl
  · exact (h.indexOf_lt_top work ha).le

theorem indexOf_lt_of_mem_above (h : Bookkeeping g entry s) (hname : name ∈ s.stack)
    (ha : a ∈ s.above name) : s.indexOf name < s.indexOf a := by
  have hsorted := h.stack_sorted
  rw [State.stack_eq hname, List.pairwise_append] at hsorted
  exact hsorted.2.2 a ha name List.mem_cons_self

theorem indexOf_lt_of_mem_below (h : Bookkeeping g entry s) (hname : name ∈ s.stack)
    (ha : a ∈ s.below name) : s.indexOf a < s.indexOf name := by
  have hsorted := h.stack_sorted
  rw [State.stack_eq hname, List.pairwise_append] at hsorted
  exact List.rel_of_pairwise_cons hsorted.2.1 ha

/-- A component is what lies on the stack from its first module on. -/
theorem mem_component_iff (h : Bookkeeping g entry s) (hname : name ∈ s.stack) :
    a ∈ s.component name ↔ a ∈ s.stack ∧ s.indexOf name ≤ s.indexOf a := by
  rw [State.mem_component, State.mem_stack_iff hname]
  constructor
  · rintro (rfl | ha)
    · exact ⟨.inr (.inl rfl), le_rfl⟩
    · exact ⟨.inl ha, (h.indexOf_lt_of_mem_above hname ha).le⟩
  · rintro ⟨ha | rfl | ha, hle⟩
    · exact .inr ha
    · exact .inl rfl
    · exact absurd hle (Nat.not_le_of_lt (h.indexOf_lt_of_mem_below hname ha))

theorem mem_below_iff (h : Bookkeeping g entry s) (hname : name ∈ s.stack) :
    a ∈ s.below name ↔ a ∈ s.stack ∧ s.indexOf a < s.indexOf name := by
  constructor
  · intro ha
    exact ⟨(s.below_sublist name).mem ha, h.indexOf_lt_of_mem_below hname ha⟩
  · rintro ⟨hmem, hlt⟩
    rcases (State.mem_stack_iff hname).1 hmem with ha | rfl | ha
    · exact absurd hlt (Nat.lt_asymm (h.indexOf_lt_of_mem_above hname ha))
    · exact absurd hlt (Nat.lt_irrefl _)
    · exact ha

theorem component_sublist_found (h : Bookkeeping g entry s) (hname : name ∈ s.stack) :
    (s.component name).Sublist s.found := by
  refine List.Sublist.trans ?_ h.stack_found
  rw [State.reverse_stack_eq hname]
  exact List.sublist_append_right _ _

/-- A move that finds and lists nothing keeps account of nothing new. -/
theorem of_eq (h : Bookkeeping g entry s) (hindex : s'.index = s.index)
    (hstack : s'.stack = s.stack) (honStack : s'.onStack = s.onStack)
    (hmodules : s'.modules = s.modules) (hway : s'.way.Sublist s.way) :
    Bookkeeping g entry s' := by
  have hfound : s'.found = s.found := by rw [State.found, State.found, hindex]
  constructor
  · rw [hindex, hfound]
    exact h.numbered
  · rw [hfound]
    exact h.distinct
  · rw [hfound]
    exact h.first
  · rw [hfound]
    exact h.stored
  · rw [honStack, hstack]
    exact h.onStack_iff
  · rw [hstack, hfound]
    exact h.stack_found
  · rw [hstack]
    exact hway.trans h.way_stack
  · rw [hmodules, hstack, hfound]
    exact h.split

theorem index_discover (hnew : s.index.find? name = none) :
    (s.discover name dependencies).index = s.index ++ [(name, s.index.length)] :=
  Dictionary.insert_eq_append _ hnew

theorem found_discover (frames : List Frame) (dependencies : List String)
    (hnew : s.index.find? name = none) :
    (State.discover { s with work := frames } name dependencies).found = s.found ++ [name] := by
  change (s.discover name dependencies).index.keys = s.found ++ [name]
  rw [index_discover hnew]
  simp [State.found, Dictionary.keys]

theorem discover (h : Bookkeeping g entry s) (hstored : g name = some dependencies)
    (hnew : s.index.find? name = none) : Bookkeeping g entry (s.discover name dependencies) := by
  have hfound : (s.discover name dependencies).found = s.found ++ [name] :=
    found_discover s.work dependencies hnew
  have hmem : name ∉ s.found := Dictionary.find?_eq_none_iff.1 hnew
  constructor
  · rw [hfound, index_discover hnew, List.zipIdx_append, ← h.numbered, length_found]
    simp
  · rw [hfound, List.nodup_append]
    refine ⟨h.distinct, List.nodup_singleton _, ?_⟩
    intro a ha b hb hab
    rw [List.mem_singleton] at hb
    exact hmem (hb ▸ hab ▸ ha)
  · rw [hfound, List.head?_append, h.first]
    rfl
  · intro a ha
    rw [hfound, List.mem_append, List.mem_singleton] at ha
    rcases ha with ha | rfl
    · exact h.stored a ha
    · rw [hstored]
      rfl
  · intro a
    simp only [State.discover, NameSet.mem_insert, h.onStack_iff, List.mem_cons]
  · rw [hfound]
    simp only [State.discover, List.reverse_cons]
    exact h.stack_found.append (List.Sublist.refl _)
  · exact h.way_stack.cons_cons name
  · rw [hfound]
    have hp : (s.modules ++ name :: s.stack).Perm (name :: (s.modules ++ s.stack)) :=
      List.perm_middle
    have hq : (name :: (s.modules ++ s.stack)).Perm (name :: s.found) := h.split.cons name
    exact (hp.trans hq).trans (List.perm_append_singleton name s.found).symm

theorem close (h : Bookkeeping g entry s) (work : s.work = ⟨name, rest⟩ :: frames) :
    Bookkeeping g entry ((s.pass name frames).close name dependencies) := by
  have hname : name ∈ s.stack := h.top_mem_stack work
  constructor
  · exact h.numbered
  · exact h.distinct
  · exact h.first
  · exact h.stored
  · intro a
    change a ∈ (s.component name).foldl NameSet.erase s.onStack ↔ a ∈ s.below name
    rw [NameSet.mem_foldl_erase, h.onStack_iff, h.mem_component_iff hname, h.mem_below_iff hname]
    constructor
    · rintro ⟨hmem, hle⟩
      exact ⟨hmem, Nat.lt_of_not_le fun hn => hle ⟨hmem, hn⟩⟩
    · rintro ⟨hmem, hlt⟩
      exact ⟨hmem, fun hn => absurd hn.2 (Nat.not_le_of_lt hlt)⟩
  · exact (List.reverse_sublist.2 (s.below_sublist name)).trans h.stack_found
  · have hsub := h.way_stack
    rw [State.way_eq work, State.stack_eq hname] at hsub
    exact sublist_of_cons_sublist_append_cons hsub (s.notMem_above name)
  · change ((s.modules ++ s.component name) ++ s.below name).Perm s.found
    have hp : (s.component name ++ s.below name).Perm s.stack := by
      conv_rhs => rw [State.stack_eq hname]
      exact (((s.above name).reverse_perm.append_right (s.below name)).cons name).trans
        List.perm_middle.symm
    rw [List.append_assoc]
    exact (hp.append_left s.modules).trans h.split

theorem move (h : Bookkeeping g entry s) (hm : Move g s s') : Bookkeeping g entry s' := by
  cases hm with
  | absent work _ | back work _ _ _ | cross work _ _ _ =>
    refine h.of_eq rfl rfl rfl rfl ?_
    simp [State.way, State.lower, work]
  | @discover name _ rest _ frames work stored new =>
    have hs : Bookkeeping g entry { s with work := ⟨name, rest⟩ :: frames } := by
      refine h.of_eq rfl rfl rfl rfl ?_
      simp [State.way, work]
    exact hs.discover stored new
  | keep work _ =>
    refine h.of_eq rfl rfl rfl rfl ?_
    simp [State.way, State.pass, work]
  | close work _ => exact h.close work

theorem start (h : g entry = some dependencies) :
    Bookkeeping g entry (State.start entry dependencies) := by
  constructor
  · rfl
  · exact List.nodup_singleton entry
  · rfl
  · intro a ha
    rw [State.found_start, List.mem_singleton] at ha
    rw [ha, h]
    rfl
  · intro a
    simp [State.start, State.discover]
  · exact List.Sublist.refl _
  · exact List.Sublist.refl _
  · exact List.Perm.refl _

end Bookkeeping

end ModulePack.Order
