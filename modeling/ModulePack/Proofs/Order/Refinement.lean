import ModulePack.Proofs.Order.Listing
import ModulePack.Proofs.Order.Traversal

/-!
# The search follows the traversal

The frames of a search are what a traversal still has to come back to. Resuming the traversal from
them gives the same end after every move, and what is listed are the blocks of what the traversal
is done with: a component is closed where the traversal is done with its first module.
-/

namespace ModulePack

theorem idxOf_le_of_head?_filter {names : List String} {p : String → Bool} {a b : String}
    (hhead : (names.filter p).head? = some a) (hb : b ∈ names) (hp : p b) :
    names.idxOf a ≤ names.idxOf b := by
  induction names with
  | nil => simp at hb
  | cons c rest ih =>
    by_cases hpc : p c
    · have hca : c = a := by simpa [hpc] using hhead
      rw [hca, List.idxOf_cons_self]
      exact Nat.zero_le _
    · have hhead' : (rest.filter p).head? = some a := by simpa [hpc] using hhead
      have ha : p a := List.of_mem_filter (List.mem_of_mem_head? hhead')
      have hca : c ≠ a := fun he => hpc (he ▸ ha)
      have hcb : c ≠ b := fun he => hpc (he ▸ hp)
      have hmem : b ∈ rest := (List.mem_cons.1 hb).resolve_left hcb.symm
      rw [List.idxOf_cons_ne _ hca, List.idxOf_cons_ne _ hcb]
      exact Nat.succ_le_succ (ih hhead' hmem)

theorem filter_eq_of_sublist {names part : List String} {p : String → Bool}
    (hsub : part.Sublist names) (hdistinct : names.Nodup)
    (hp : ∀ a ∈ names, p a ↔ a ∈ part) : names.filter p = part := by
  induction hsub with
  | slnil => rfl
  | cons a hsub ih =>
    rw [List.nodup_cons] at hdistinct
    have ha : ¬ p a := fun h => hdistinct.1 (hsub.mem ((hp a List.mem_cons_self).1 h))
    rw [List.filter_cons_of_neg ha]
    exact ih hdistinct.2 fun b hb => hp b (List.mem_cons_of_mem _ hb)
  | cons_cons a hsub ih =>
    rw [List.nodup_cons] at hdistinct
    have ha : p a := (hp a List.mem_cons_self).2 List.mem_cons_self
    rw [List.filter_cons_of_pos ha, ih hdistinct.2]
    intro b hb
    have hne : b ≠ a := fun he => hdistinct.1 (he ▸ hb)
    rw [hp b (List.mem_cons_of_mem _ hb), List.mem_cons, or_iff_right hne]

namespace Traversal

variable {t : Traversal} {g : Graph} {a b name : String}

theorem mem_members : b ∈ t.members g a ↔ b ∈ t.found ∧ g.Mutual a b := by
  simp [members]

theorem members_congr (h : g.Mutual a b) : t.members g a = t.members g b := by
  unfold members
  congr 1
  funext c
  rw [decide_eq_decide]
  exact ⟨h.symm.trans, h.trans⟩

theorem members_enter_of_not_mutual (h : ¬ g.Mutual a name) :
    (t.enter name).members g a = t.members g a := by
  simp [members, enter, h]

open Classical in
/-- A further module does not become the first of a class. -/
theorem head?_members_enter (ha : a ∈ t.found) :
    ((t.enter name).members g a).head? = (t.members g a).head? := by
  have hmem : a ∈ t.members g a := mem_members.2 ⟨ha, .refl a⟩
  have happend : (t.enter name).members g a =
      t.members g a ++ [name].filter fun b => g.Mutual a b := List.filter_append _ _
  rw [happend, List.head?_append_of_ne_nil _ (List.ne_nil_of_mem hmem)]

theorem blocks_enter (hfound : ∀ a ∈ t.finished, a ∈ t.found)
    (hapart : ∀ a ∈ t.finished, (t.members g a).head? = some a → ¬ g.Mutual a name) :
    (t.enter name).blocks g = t.blocks g := by
  have hfilter : (t.finished.filter fun a => ((t.enter name).members g a).head? = some a) =
      t.finished.filter fun a => (t.members g a).head? = some a := by
    apply List.filter_congr
    intro a ha
    rw [head?_members_enter (hfound a ha)]
  unfold blocks
  change (t.finished.filter fun a => ((t.enter name).members g a).head? = some a).map _ = _
  rw [hfilter]
  apply List.map_congr_left
  intro a ha
  rw [List.mem_filter, decide_eq_true_eq] at ha
  exact members_enter_of_not_mutual (hapart a ha.1 ha.2)

theorem blocks_finish : (t.finish name).blocks g =
    t.blocks g ++ if (t.members g name).head? = some name then [t.members g name] else [] := by
  have hblocks : (t.finish name).blocks g =
      ((t.finished ++ [name]).filter fun a => (t.members g a).head? = some a).map
        (t.members g) := rfl
  rw [hblocks, List.filter_append, List.map_append]
  by_cases h : (t.members g name).head? = some name
  · simp [blocks, h]
  · simp [blocks, h]

end Traversal

namespace Order

/-- The end of a traversal that has come as far as `t` and goes on from the frames. -/
def resume (store : Store) : Traversal → List Frame → Traversal
  | t, [] => t
  | t, frame :: frames =>
    resume store ((store.visitAll t frame.rest).finish frame.name) frames

/-- The traversal `t` that ends as `final` has come as far as the search. -/
structure Follows (store : Store) (final : Traversal) (s : State) (t : Traversal) : Prop where
  found : t.found = s.found
  finished_iff : ∀ a, a ∈ t.finished ↔ a ∈ s.found ∧ a ∉ s.way
  resumed : resume store t s.work = final
  listed : s.modules = (t.blocks store.graph).flatten

namespace Follows

variable {store : Store} {final t : Traversal} {entry : String} {s s' : State}
  {a b name dependency : String} {rest dependencies : List String} {frames : List Frame}

/-- The first of a class was found no later than the others. -/
theorem indexOf_le_of_first (h : Follows store final s t) (hb : Bookkeeping store.graph entry s)
    (hfirst : (t.members store.graph a).head? = some a) (hbfound : b ∈ s.found)
    (hmutual : store.graph.Mutual a b) : s.indexOf a ≤ s.indexOf b := by
  have hafound : a ∈ s.found :=
    h.found ▸ (Traversal.mem_members.1 (List.mem_of_mem_head? hfirst)).1
  have hle : t.found.idxOf a ≤ t.found.idxOf b :=
    idxOf_le_of_head?_filter hfirst (h.found ▸ hbfound) (by simpa using hmutual)
  rwa [h.found, ← hb.indexOf_eq hafound, ← hb.indexOf_eq hbfound] at hle

/-- The first of a class is listed with it when the traversal is done with it. -/
theorem mem_modules_of_first (h : Follows store final s t)
    (hinv : Invariant store.graph entry s) (ha : a ∈ t.finished)
    (hfirst : (t.members store.graph a).head? = some a) : a ∈ s.modules := by
  obtain ⟨hfound, hway⟩ := (h.finished_iff a).1 ha
  by_contra hlisted
  have hstack : a ∈ s.stack := (hinv.book.mem_found_iff.1 hfound).resolve_left hlisted
  obtain ⟨owner, ho⟩ := hinv.linked.owned a hstack
  have hostack : owner ∈ s.stack := hinv.book.mem_stack_of_mem_way ho.way
  have hofound : owner ∈ s.found := hinv.book.mem_found_of_mem_way ho.way
  have hmutual : store.graph.Mutual a owner :=
    ⟨ho.reaches, hinv.linked.reaches_of_indexOf_le hinv.book hostack hstack ho.le⟩
  have hle : s.indexOf a ≤ s.indexOf owner :=
    h.indexOf_le_of_first hinv.book hfirst hofound hmutual
  have heq : owner = a := hinv.book.indexOf_inj hofound hfound (Nat.le_antisymm ho.le hle)
  exact hway (heq ▸ ho.way)

theorem look (h : Follows store final s t) (work : s.work = ⟨name, dependency :: rest⟩ :: frames)
    (work' : s'.work = ⟨name, rest⟩ :: frames) (hfound : s'.found = s.found)
    (hmodules : s'.modules = s.modules)
    (hvisit : store.visitAll t (dependency :: rest) = store.visitAll t rest) :
    Follows store final s' t := by
  have hway : s'.way = s.way := by simp [State.way, work, work']
  constructor
  · rw [hfound]
    exact h.found
  · rw [hfound, hway]
    exact h.finished_iff
  · rw [work', ← h.resumed, work, resume, resume, hvisit]
  · rw [hmodules]
    exact h.listed

theorem discover (h : Follows store final s t) (hinv : Invariant store.graph entry s)
    (work : s.work = ⟨name, dependency :: rest⟩ :: frames)
    (stored : store.graph dependency = some dependencies)
    (new : s.index.find? dependency = none) :
    Follows store final (State.discover { s with work := ⟨name, rest⟩ :: frames } dependency
      dependencies) (t.enter dependency) := by
  have hnew : dependency ∉ s.found := Dictionary.find?_eq_none_iff.1 new
  have hway : (State.discover { s with work := ⟨name, rest⟩ :: frames } dependency
      dependencies).way = dependency :: s.way := by
    simp [State.way, State.discover, work]
  constructor
  · rw [Bookkeeping.found_discover _ _ new, ← h.found]
    rfl
  · intro a
    change a ∈ t.finished ↔ _
    rw [h.finished_iff, Bookkeeping.found_discover _ _ new, hway, List.mem_append,
      List.mem_singleton, List.mem_cons, not_or]
    constructor
    · rintro ⟨ha, haway⟩
      exact ⟨.inl ha, fun he => hnew (he ▸ ha), haway⟩
    · rintro ⟨ha | ha, hne, haway⟩
      · exact ⟨ha, haway⟩
      · exact absurd ha hne
  · have hnew' : dependency ∉ t.found := h.found ▸ hnew
    rw [← h.resumed, work, resume, Store.visitAll_new stored hnew']
    rfl
  · change s.modules = _
    rw [h.listed, Traversal.blocks_enter]
    · intro a ha
      rw [h.found]
      exact ((h.finished_iff a).1 ha).1
    · -- A class that is listed holds all that it reaches.
      intro a ha hfirst hmutual
      have hlisted : dependency ∈ s.modules :=
        hmutual.1.mem_of_closed hinv.linked.closed (h.mem_modules_of_first hinv ha hfirst)
      exact hnew (hinv.book.mem_found_iff.2 (.inl hlisted))

theorem leave (h : Follows store final s t) (hinv : Invariant store.graph entry s)
    (work : s.work = ⟨name, []⟩ :: frames) (work' : s'.work = frames)
    (hfound : s'.found = s.found)
    (hlisted : s'.modules = ((t.finish name).blocks store.graph).flatten) :
    Follows store final s' (t.finish name) := by
  have hway : s.way = name :: s'.way := by simp [State.way, work, work']
  have hname : name ∈ s.found := hinv.book.top_mem_found work
  have hdistinct : s.way.Nodup := hinv.book.stack_nodup.sublist hinv.book.way_stack
  rw [hway, List.nodup_cons] at hdistinct
  constructor
  · rw [hfound]
    exact h.found
  · intro a
    change a ∈ t.finished ++ [name] ↔ _
    rw [List.mem_append, h.finished_iff, List.mem_singleton, hfound, hway, List.mem_cons, not_or]
    constructor
    · rintro (⟨ha, -, haway⟩ | rfl)
      · exact ⟨ha, haway⟩
      · exact ⟨hname, hdistinct.1⟩
    · rintro ⟨ha, haway⟩
      by_cases he : a = name
      · exact .inr he
      · exact .inl ⟨ha, he, haway⟩
  · rw [work', ← h.resumed, work, resume, Store.visitAll_nil]
  · exact hlisted

/-- A module that closes no component is not the first of its class. -/
theorem not_first_of_keep (h : Follows store final s t) (hinv : Invariant store.graph entry s)
    (work : s.work = ⟨name, []⟩ :: frames) (hlow : s.lowOf name ≠ s.indexOf name) :
    (t.members store.graph name).head? ≠ some name := by
  intro hfirst
  obtain ⟨parent, below, rfl, hlt, hreach, -⟩ := hinv.linked.exists_parent hinv.book work hlow
  have hname : name ∈ s.stack := hinv.book.top_mem_stack work
  have hpway : parent.name ∈ s.way :=
    State.way_eq work ▸ List.mem_cons_of_mem _ List.mem_cons_self
  have hparent : parent.name ∈ s.stack := hinv.book.mem_stack_of_mem_way hpway
  have hmutual : store.graph.Mutual name parent.name :=
    ⟨hreach, hinv.linked.reaches_of_indexOf_le hinv.book hparent hname hlt.le⟩
  exact absurd hlt (Nat.not_lt_of_le (h.indexOf_le_of_first hinv.book hfirst
    (hinv.book.mem_found_of_mem_way hpway) hmutual))

open Classical in
/-- The component that a module closes is its class, in order of discovery. -/
theorem members_eq_component (h : Follows store final s t)
    (hinv : Invariant store.graph entry s) (work : s.work = ⟨name, []⟩ :: frames)
    (hlow : s.lowOf name = s.indexOf name) :
    t.members store.graph name = s.component name := by
  have hsub : (s.component name).Sublist s.found :=
    hinv.book.component_sublist_found (hinv.book.top_mem_stack work)
  unfold Traversal.members
  rw [h.found]
  apply filter_eq_of_sublist hsub hinv.book.distinct
  intro a _
  rw [decide_eq_true_eq]
  exact (hinv.linked.mem_component_iff_mutual hinv.book hinv.scanned work hlow).symm

theorem move (h : Follows store final s t) (hinv : Invariant store.graph entry s)
    (hm : Move store.graph s s') : ∃ t', Follows store final s' t' := by
  cases hm with
  | absent work unknown =>
    exact ⟨t, h.look work rfl rfl rfl (Store.visitAll_unknown unknown)⟩
  | discover work stored new => exact ⟨_, h.discover hinv work stored new⟩
  | back work _ number _ | cross work _ number _ =>
    have hknown := (hinv.book.mem_found_of_find? number).1
    exact ⟨t, h.look work rfl rfl rfl (Store.visitAll_found (h.found ▸ hknown))⟩
  | @keep name _ work low =>
    refine ⟨t.finish name, h.leave hinv work rfl rfl ?_⟩
    rw [Traversal.blocks_finish, if_neg (h.not_first_of_keep hinv work low), List.append_nil]
    exact h.listed
  | @close name _ work low =>
    have hmembers := h.members_eq_component hinv work low
    have hfirst : (t.members store.graph name).head? = some name := by
      rw [hmembers]
      rfl
    refine ⟨t.finish name, h.leave hinv work rfl rfl ?_⟩
    rw [Traversal.blocks_finish, if_pos hfirst, List.flatten_append, ← h.listed, hmembers,
      List.flatten_singleton]
    rfl

theorem start (h : store.graph entry = some dependencies) :
    Follows store (store.traversal entry) (State.start entry dependencies) ⟨[entry], []⟩ := by
  constructor
  · rfl
  · intro a
    have hway : (State.start entry dependencies).way = [entry] := rfl
    simp [State.found_start, hway]
  · rw [Store.traversal, Store.visitAll_new h List.not_mem_nil, Store.visitAll_nil]
    rfl
  · rfl

end Follows

end Order

namespace Store

variable {s : Store} {entry : String}

theorem exists_final_follows (h : s.has entry) :
    ∃ final, Order.Invariant s.graph entry final ∧
      Order.Follows s (s.traversal entry) final (s.traversal entry) ∧
      s.order entry = ⟨final.modules, final.circular, final.absent⟩ := by
  let P (state : Order.State) : Prop := Order.Invariant s.graph entry state ∧
    ∃ t, Order.Follows s (s.traversal entry) state t
  have hmove : ∀ state state', P state → Order.Move s.graph state state' → P state' := by
    rintro state state' ⟨hinv, t, ht⟩ hm
    exact ⟨hinv.move hm, ht.move hinv hm⟩
  obtain ⟨final, ⟨hinv, t, ht⟩, work, horder⟩ := exists_final_of_move (P := P) h
    (fun _ hg => ⟨.start hg, _, .start hg⟩) hmove
  have hend : t = s.traversal entry := by
    rw [← ht.resumed, work, Order.resume]
  exact ⟨final, hinv, hend ▸ ht, horder⟩

/-- The traversal is done with the entry last. -/
theorem exists_finish_entry (h : s.has entry) :
    ∃ t : Traversal, s.traversal entry = t.finish entry := by
  rw [← s.isSome_graph, Option.isSome_iff_exists] at h
  obtain ⟨dependencies, hg⟩ := h
  refine ⟨s.visitAll (Traversal.enter ⟨[], []⟩ entry) dependencies, ?_⟩
  rw [traversal, visitAll_new hg List.not_mem_nil, visitAll_nil]

/-- What is listed are the classes of modules that reach each other, in the order in which a depth
first traversal is done with the first of each, and each in order of discovery. The modules of a
class stand together, and the class of the entry comes last. -/
theorem order_modules_eq_blocks (s : Store) (entry : String) (h : s.has entry) :
    (s.order entry).modules = ((s.traversal entry).blocks s.graph).flatten ∧
      (∀ a ∈ (s.order entry).modules,
        (s.traversal entry).members s.graph a <:+: (s.order entry).modules) ∧
      ((s.traversal entry).blocks s.graph).getLast? =
        some ((s.traversal entry).members s.graph entry) := by
  obtain ⟨final, hinv, hfollows, horder⟩ := exists_final_follows h
  have hmodules : (s.order entry).modules = ((s.traversal entry).blocks s.graph).flatten := by
    rw [horder]
    exact hfollows.listed
  refine ⟨hmodules, ?_, ?_⟩
  · intro a ha
    rw [hmodules] at ha ⊢
    obtain ⟨block, hblock, hab⟩ := List.mem_flatten.1 ha
    obtain ⟨b, -, rfl⟩ := List.mem_map.1 hblock
    have hclass : (s.traversal entry).members s.graph a = (s.traversal entry).members s.graph b :=
      Traversal.members_congr (Traversal.mem_members.1 hab).2.symm
    rw [hclass]
    exact List.infix_of_mem_flatten hblock
  · obtain ⟨t, ht⟩ := exists_finish_entry h
    have hfirst : ((s.traversal entry).members s.graph entry).head? = some entry := by
      have hhead := hinv.book.first
      rw [← hfollows.found, List.head?_eq_some_iff] at hhead
      obtain ⟨rest, hrest⟩ := hhead
      simp [Traversal.members, hrest, Graph.Mutual.refl]
    have hmembers : t.members s.graph entry = (s.traversal entry).members s.graph entry := by
      rw [ht]
      rfl
    have hblocks : (s.traversal entry).blocks s.graph =
        t.blocks s.graph ++ [(s.traversal entry).members s.graph entry] := by
      rw [← hmembers] at hfirst ⊢
      rw [ht, Traversal.blocks_finish, if_pos hfirst]
    rw [hblocks, List.getLast?_concat]

theorem order_modules_twoCircles :
    twoCircles.has "main" ∧
      ["a", "b", "c", "d", "main"] =
        ((twoCircles.traversal "main").blocks twoCircles.graph).flatten ∧
      (twoCircles.traversal "main").members twoCircles.graph "c" <:+:
        ["a", "b", "c", "d", "main"] ∧
      ((twoCircles.traversal "main").blocks twoCircles.graph).getLast? =
        some ((twoCircles.traversal "main").members twoCircles.graph "main") := by
  have hentry : twoCircles.has "main" := by decide
  have horder : (twoCircles.order "main").modules = ["a", "b", "c", "d", "main"] := by decide
  obtain ⟨hblocks, hmembers, hlast⟩ := order_modules_eq_blocks twoCircles "main" hentry
  rw [horder] at hblocks hmembers
  exact ⟨hentry, hblocks, hmembers "c" (by decide), hlast⟩

end Store

end ModulePack
