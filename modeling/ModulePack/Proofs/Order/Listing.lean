import ModulePack.Proofs.Order.Component
import ModulePack.Proofs.Order.Ending

/-!
# What the order of a store lists

The order of a stored entry module lists each stored module that the entry reaches once. A module
comes after its dependencies, unless they reach it in turn; those on a circle of dependencies, and
no others, are told apart; and what is absent are the dependencies that are not stored.
-/

namespace ModulePack

namespace Order

structure Listed (g : Graph) (s : State) : Prop where
  ordered : s.modules.Pairwise (fun a b => g.Reaches a b → g.Reaches b a)
  circular_iff : ∀ a, a ∈ s.circular ↔ a ∈ s.modules ∧ g.OnCircle a

structure Invariant (g : Graph) (entry : String) (s : State) : Prop where
  book : Bookkeeping g entry s
  scanned : Scanned g s
  linked : Linked g entry s
  listed : Listed g s

variable {g : Graph} {entry : String} {s s' : State} {a name : String}
  {dependencies : List String} {frames : List Frame}

/-- The members of a component lie on a circle if they are several or the only one depends on
itself. -/
theorem onCircle_component_iff (hb : Bookkeeping g entry s) (hs : Scanned g s)
    (h : Linked g entry s) (work : s.work = ⟨name, []⟩ :: frames)
    (hlow : s.lowOf name = s.indexOf name) (ha : a ∈ s.component name) :
    g.OnCircle a ↔ 1 < (s.component name).length ∨ name ∈ g.dependencies name := by
  have hmutual {b : String} : b ∈ s.component name ↔ g.Mutual name b :=
    h.mem_component_iff_mutual hb hs work hlow
  have hstored : (g name).isSome := hb.stored name (hb.top_mem_found work)
  have hlength : (s.component name).length = (s.above name).length + 1 := by
    simp [State.component, State.above]
  constructor
  · intro hcircle
    by_contra hnot
    rw [not_or, hlength] at hnot
    have habove : s.above name = [] := List.eq_nil_of_length_eq_zero (by omega)
    have hsingle {b : String} (hb' : b ∈ s.component name) : b = name := by
      simpa [State.mem_component, habove] using hb'
    rw [hsingle ha] at hcircle
    obtain ⟨b, hab, hba⟩ := Graph.onCircle_iff.1 hcircle
    have hbn : b = name := hsingle (hmutual.2 ⟨.single hab, hba⟩)
    exact hnot.2 (hbn ▸ hab.1)
  · rintro (hlen | hself)
    · -- Another member is `name` itself or lies above it.
      by_cases han : a = name
      · obtain ⟨b, hmem⟩ := List.exists_mem_of_length_pos (l := s.above name) (by omega)
        have hne : name ≠ b := fun he => s.notMem_above name (he ▸ hmem)
        exact han ▸ (hmutual.1 (State.mem_component.2 (.inr hmem))).onCircle hne
      · exact (hmutual.1 ha).symm.onCircle han
    · have hedge : g.Edge name name := ⟨hself, hstored⟩
      exact ((Relation.TransGen.single hedge).trans_right (hmutual.1 ha).2).trans_left
        (hmutual.1 ha).1

namespace Listed

theorem of_eq (h : Listed g s) (hmodules : s'.modules = s.modules)
    (hcircular : s'.circular = s.circular) : Listed g s' := by
  constructor
  · rw [hmodules]
    exact h.ordered
  · rw [hmodules, hcircular]
    exact h.circular_iff

theorem ordered_append_component (h : Listed g s) (hb : Bookkeeping g entry s)
    (hl : Linked g entry s) (work : s.work = ⟨name, []⟩ :: frames) :
    (s.modules ++ s.component name).Pairwise (fun a b => g.Reaches a b → g.Reaches b a) := by
  have hname : name ∈ s.stack := hb.top_mem_stack work
  refine List.pairwise_append.2 ⟨h.ordered, ?_, ?_⟩
  · refine List.pairwise_of_forall_mem_list ?_
    intro a ha b hb' _
    exact (hl.mutual_of_mem_component hb work hb').2.trans
      (hl.mutual_of_mem_component hb work ha).1
  · intro a ha b hb' hreach
    have hlisted : b ∈ s.modules := hreach.mem_of_closed hl.closed ha
    exact absurd ((hb.mem_component_iff hname).1 hb').1 (hb.notMem_stack_of_mem_modules hlisted)

theorem close (h : Listed g s) (hb : Bookkeeping g entry s) (hs : Scanned g s)
    (hl : Linked g entry s) (work : s.work = ⟨name, []⟩ :: frames)
    (hlow : s.lowOf name = s.indexOf name) :
    Listed g ((s.pass name frames).close name (g.dependencies name)) := by
  refine ⟨h.ordered_append_component hb hl work, ?_⟩
  intro a
  have hcircle := onCircle_component_iff (a := a) hb hs hl work hlow
  have hcircular : ((s.pass name frames).close name (g.dependencies name)).circular =
      if 1 < (s.component name).length || (g.dependencies name).contains name then
        s.circular.union (s.component name)
      else s.circular := rfl
  have hmodules : ((s.pass name frames).close name (g.dependencies name)).modules =
      s.modules ++ s.component name := rfl
  rw [hcircular, hmodules, List.mem_append]
  by_cases hmany : 1 < (s.component name).length ∨ name ∈ g.dependencies name
  · rw [if_pos (by simpa using hmany), NameSet.mem_union, h.circular_iff]
    constructor
    · rintro (⟨ha, hc⟩ | ha)
      · exact ⟨.inl ha, hc⟩
      · exact ⟨.inr ha, (hcircle ha).2 hmany⟩
    · rintro ⟨ha | ha, hc⟩
      · exact .inl ⟨ha, hc⟩
      · exact .inr ha
  · rw [if_neg (by simpa using hmany), h.circular_iff]
    constructor
    · rintro ⟨ha, hc⟩
      exact ⟨.inl ha, hc⟩
    · rintro ⟨ha | ha, hc⟩
      · exact ⟨ha, hc⟩
      · exact absurd ((hcircle ha).1 hc) hmany

end Listed

namespace Invariant

theorem move (h : Invariant g entry s) (hm : Move g s s') : Invariant g entry s' := by
  refine ⟨h.book.move hm, h.scanned.move h.book hm, h.linked.move h.book h.scanned hm, ?_⟩
  cases hm with
  | absent _ _ | discover _ _ _ | back _ _ _ _ | cross _ _ _ _ | keep _ _ =>
    exact h.listed.of_eq rfl rfl
  | close work low => exact h.listed.close h.book h.scanned h.linked work low

theorem start (h : g entry = some dependencies) :
    Invariant g entry (State.start entry dependencies) := by
  refine ⟨.start h, .start h, .start h, List.Pairwise.nil, ?_⟩
  intro a
  simp [State.start, State.discover]

theorem stack_eq_nil (h : Invariant g entry s) (work : s.work = []) : s.stack = [] := by
  rw [List.eq_nil_iff_forall_not_mem]
  intro a ha
  obtain ⟨owner, ho⟩ := h.linked.owned a ha
  have hway := ho.way
  simp [State.way, work] at hway

theorem perm_found (h : Invariant g entry s) (work : s.work = []) : s.modules.Perm s.found := by
  simpa [h.stack_eq_nil work] using h.book.split

theorem mem_modules_iff (h : Invariant g entry s) (work : s.work = []) :
    a ∈ s.modules ↔ (g a).isSome ∧ g.Reaches entry a := by
  have hfound := (h.perm_found work).mem_iff (a := a)
  constructor
  · intro ha
    exact ⟨h.book.stored a (hfound.1 ha), h.linked.reached a (hfound.1 ha)⟩
  · rintro ⟨-, hreach⟩
    have hentry : entry ∈ s.modules :=
      (h.perm_found work).mem_iff.2 (List.mem_of_mem_head? h.book.first)
    exact hreach.mem_of_closed h.linked.closed hentry

theorem mem_absent_iff (h : Invariant g entry s) (work : s.work = []) :
    a ∈ s.absent ↔ g a = none ∧ ∃ b ∈ s.modules, a ∈ g.dependencies b := by
  constructor
  · intro ha
    obtain ⟨hg, b, hb, hab⟩ := h.scanned.absent_sound a ha
    exact ⟨hg, b, (h.perm_found work).mem_iff.2 hb, hab⟩
  · rintro ⟨hg, b, hb, hab⟩
    have hpending : ¬ Pending s.work b a := by simp [work, Pending]
    exact (h.scanned.absent b ((h.perm_found work).mem_iff.1 hb) a hab hg).resolve_left hpending

end Invariant

end Order

namespace Store

theorem exists_final {s : Store} {entry : String} (h : s.has entry) :
    ∃ final, Order.Invariant s.graph entry final ∧ final.work = [] ∧
      s.order entry = ⟨final.modules, final.circular, final.absent⟩ :=
  exists_final_of_move h (fun _ hg => .start hg) (fun _ _ hs hm => hs.move hm)

theorem order_of_not_has {s : Store} {entry : String} (h : ¬ s.has entry) :
    s.order entry = ⟨[], .empty, NameSet.empty.insert entry⟩ := by
  rw [← s.isSome_graph, Option.not_isSome_iff_eq_none] at h
  simp only [order]
  rw [show s.dependencies? entry = none from h]

section

variable {s : Store} {entry a b : String}

theorem nodup_modules (h : s.has entry) : (s.order entry).modules.Nodup := by
  obtain ⟨final, hfinal, -, horder⟩ := s.exists_final h
  rw [horder]
  exact hfinal.book.modules_nodup

theorem mem_modules_iff (h : s.has entry) :
    a ∈ (s.order entry).modules ↔ s.has a ∧ s.graph.Reaches entry a := by
  obtain ⟨final, hfinal, work, horder⟩ := s.exists_final h
  rw [horder, hfinal.mem_modules_iff work, isSome_graph]

theorem not_has_of_mem_absent (h : s.has entry) (ha : a ∈ (s.order entry).absent) :
    ¬ s.has a := by
  obtain ⟨final, hfinal, work, horder⟩ := s.exists_final h
  rw [horder] at ha
  obtain ⟨hnone, -⟩ := (hfinal.mem_absent_iff work).1 ha
  rw [← isSome_graph, hnone]
  exact Bool.false_ne_true

theorem notMem_modules_of_mem_absent (h : s.has entry) (ha : a ∈ (s.order entry).absent) :
    a ∉ (s.order entry).modules :=
  fun hmem => not_has_of_mem_absent h ha ((mem_modules_iff h).1 hmem).1

/-- A dependency of a listed module is listed too, or absent. -/
theorem mem_modules_or_mem_absent (h : s.has entry) (ha : a ∈ (s.order entry).modules)
    (hdependency : b ∈ s.graph.dependencies a) :
    b ∈ (s.order entry).modules ∨ b ∈ (s.order entry).absent := by
  obtain ⟨final, hfinal, work, horder⟩ := s.exists_final h
  rw [horder] at ha ⊢
  by_cases hb : (s.graph b).isSome
  · obtain ⟨-, hreach⟩ := (hfinal.mem_modules_iff work).1 ha
    exact .inl ((hfinal.mem_modules_iff work).2 ⟨hb, hreach.tail ⟨hdependency, hb⟩⟩)
  · rw [Option.not_isSome_iff_eq_none] at hb
    exact .inr ((hfinal.mem_absent_iff work).2 ⟨hb, a, ha, hdependency⟩)

/-- A module that something listed before it or it itself depends on lies on a circle. -/
theorem mem_circular_of_le {i j : Nat} (h : s.has entry)
    (ha : (s.order entry).modules[i]? = some a) (hb : (s.order entry).modules[j]? = some b)
    (hle : i ≤ j) (hdependency : b ∈ s.graph.dependencies a) : b ∈ (s.order entry).circular := by
  obtain ⟨final, hfinal, work, horder⟩ := s.exists_final h
  rw [horder] at ha hb ⊢
  have hlisted : b ∈ final.modules := List.mem_of_getElem? hb
  have hedge : s.graph.Edge a b := ⟨hdependency, ((hfinal.mem_modules_iff work).1 hlisted).1⟩
  have hback : s.graph.Reaches b a := by
    obtain ⟨hi, rfl⟩ := List.getElem?_eq_some_iff.1 ha
    obtain ⟨hj, rfl⟩ := List.getElem?_eq_some_iff.1 hb
    rcases Nat.lt_or_eq_of_le hle with hlt | rfl
    · exact List.pairwise_iff_getElem.1 hfinal.listed.ordered i j hi hj hlt (.single hedge)
    · exact .refl
  exact (hfinal.listed.circular_iff b).2 ⟨hlisted, .tail' hback hedge⟩

end

/-- A dependency is listed before what depends on it, unless it reaches that module in turn. -/
theorem position_lt_of_dependency (s : Store) (entry a b : String) (i j : Nat)
    (ha : (s.order entry).modules[i]? = some a) (hb : (s.order entry).modules[j]? = some b)
    (hdependency : b ∈ s.graph.dependencies a) (hapart : ¬ s.graph.Mutual a b) : j < i := by
  by_cases hentry : s.has entry
  · obtain ⟨final, hfinal, work, horder⟩ := s.exists_final hentry
    rw [horder] at ha hb
    have hstored : (s.graph b).isSome :=
      ((hfinal.mem_modules_iff work).1 (List.mem_of_getElem? hb)).1
    have hreach : s.graph.Reaches a b := .single ⟨hdependency, hstored⟩
    by_contra hle
    rcases Nat.lt_or_eq_of_le (Nat.le_of_not_lt hle) with hlt | rfl
    · obtain ⟨hi, rfl⟩ := List.getElem?_eq_some_iff.1 ha
      obtain ⟨hj, rfl⟩ := List.getElem?_eq_some_iff.1 hb
      have hback := List.pairwise_iff_getElem.1 hfinal.listed.ordered i j hi hj hlt
      exact hapart ⟨hreach, hback hreach⟩
    · have hab : a = b := Option.some.inj (ha.symm.trans hb)
      exact hapart (hab ▸ .refl a)
  · rw [order_of_not_has hentry] at ha
    simp at ha

/-- The circle of `c` and `d` leads into that of `a` and `b`, and `main` into both. -/
def twoCircles : Store := .ofRecords
  [{ name := "main", dependencies := ["a", "c", "gone"] },
    { name := "a", dependencies := ["b"] },
    { name := "b", dependencies := ["a", "a"] },
    { name := "c", dependencies := ["d", "c"] },
    { name := "d", dependencies := ["c", "b"] }]

theorem position_lt_twoCircles :
    (twoCircles.order "main").modules[3]? = some "d" ∧
      (twoCircles.order "main").modules[1]? = some "b" ∧
      "b" ∈ twoCircles.graph.dependencies "d" ∧ ¬ twoCircles.graph.Mutual "d" "b" ∧ 1 < 3 := by
  have hclosed : ∀ x ∈ ["a", "b"], ∀ y, twoCircles.graph.Edge x y → y ∈ ["a", "b"] := by
    intro x hx y hxy
    have ha : twoCircles.graph.dependencies "a" = ["b"] := by decide
    have hb : twoCircles.graph.dependencies "b" = ["a", "a"] := by decide
    have hy := hxy.1
    simp only [List.mem_cons, List.not_mem_nil, or_false] at hx
    rcases hx with rfl | rfl
    · simp_all
    · simp_all
  have hapart : ¬ twoCircles.graph.Mutual "d" "b" := by
    intro h
    have hd : "d" ∈ ["a", "b"] := h.2.mem_of_closed hclosed (by simp)
    simp at hd
  exact ⟨by decide, by decide, by decide, hapart,
    position_lt_of_dependency twoCircles "main" "d" "b" 3 1 (by decide) (by decide) (by decide)
      hapart⟩

/-- What is told apart are the modules reached from the entry that lie on a circle. -/
theorem mem_circular_order_iff (s : Store) (entry a : String) :
    a ∈ (s.order entry).circular ↔
      s.has a ∧ s.graph.Reaches entry a ∧ s.graph.OnCircle a := by
  by_cases hentry : s.has entry
  · obtain ⟨final, hfinal, work, horder⟩ := s.exists_final hentry
    rw [horder, hfinal.listed.circular_iff, hfinal.mem_modules_iff work, isSome_graph, and_assoc]
  · rw [order_of_not_has hentry]
    constructor
    · intro ha
      exact absurd ha (NameSet.notMem_empty a)
    · rintro ⟨ha, hreach, -⟩
      rcases Relation.ReflTransGen.cases_head hreach with rfl | ⟨b, hedge, -⟩
      · exact absurd ha hentry
      · have hstored := Graph.isSome_of_mem_dependencies hedge.1
        rw [isSome_graph] at hstored
        exact absurd hstored hentry

/-- Nothing that the entry needs is lost or listed twice; an entry that is not stored is all that
is absent. -/
theorem order_lists_reached (s : Store) (entry : String) :
    (s.has entry →
      (s.order entry).modules.Nodup ∧
      (∀ a, a ∈ (s.order entry).modules ↔ s.has a ∧ s.graph.Reaches entry a) ∧
      ∀ a, a ∈ (s.order entry).absent ↔
        ¬ s.has a ∧ ∃ b ∈ (s.order entry).modules, a ∈ s.graph.dependencies b) ∧
    (¬ s.has entry →
      (s.order entry).modules = [] ∧ (∀ a, a ∉ (s.order entry).circular) ∧
      ∀ a, a ∈ (s.order entry).absent ↔ a = entry) := by
  constructor
  · intro hentry
    obtain ⟨final, hfinal, work, horder⟩ := s.exists_final hentry
    rw [horder]
    refine ⟨hfinal.book.modules_nodup, ?_, ?_⟩
    · intro a
      rw [hfinal.mem_modules_iff work, isSome_graph]
    · intro a
      rw [hfinal.mem_absent_iff work, ← isSome_graph, Option.not_isSome_iff_eq_none]
  · intro hentry
    rw [order_of_not_has hentry]
    refine ⟨rfl, NameSet.notMem_empty, ?_⟩
    intro a
    rw [NameSet.mem_insert, or_iff_left (NameSet.notMem_empty a)]

example : twoCircles.order "main" =
    ⟨["a", "b", "c", "d", "main"], .ofList ["a", "b", "c", "d"], .ofList ["gone"]⟩ := by decide

end Store

end ModulePack
