import ModulePack.Proofs.Order.Agreement
import ModulePack.Proofs.Order.Guarded

/-!
# What holds where an iteration begins

In every state in which an iteration of a search begins, what the search keeps account of agrees
with itself and with the paths of the graph. The modules found are those that are listed and those
on the stack, and no path leads from the list to the stack. From each module on the stack a path
leads to one on the way that was found no later; its least number is that of a module on the stack
to which a path leads.
-/

namespace ModulePack.Order

/-- The set, the stack, the way, the list and the numbers of a state agree. Stack and way begin with
what was found last. -/
structure Coherent (g : Graph) (s : State) : Prop where
  onStack_iff : ∀ a, a ∈ s.onStack ↔ a ∈ s.stack
  distinct : s.stack.Nodup
  numbered : ∀ a ∈ s.stack,
    lookUp s.index a = .ok (s.indexOf a) ∧ lookUp s.low a = .ok (s.lowOf a)
  sorted : s.stack.Pairwise (fun later earlier => s.indexOf earlier < s.indexOf later)
  way_stack : s.way.Sublist s.stack
  found_iff : ∀ a, a ∈ s.found ↔ a ∈ s.modules ∨ a ∈ s.stack
  disjoint : ∀ a ∈ s.modules, a ∉ s.stack
  settled : ∀ a ∈ s.modules, ∀ b ∈ s.stack, ¬ g.Reaches a b
  grounded : ∀ a ∈ s.stack, ∃ owner ∈ s.way, s.indexOf owner ≤ s.indexOf a ∧ g.Reaches a owner
  low : ∀ a ∈ s.stack, LowKnown g s a

theorem Coherent.of_invariant {g : Graph} {entry : String} {s : State} (h : Invariant g entry s)
    (hl : LowSet s) : Coherent g s where
  onStack_iff := h.book.onStack_iff
  distinct := h.book.stack_nodup
  numbered := fun _ ha =>
    have hfound := h.book.mem_found_of_mem_stack ha
    ⟨lookUp_index h.book hfound, lookUp_low hl hfound⟩
  sorted := h.book.stack_sorted
  way_stack := h.book.way_stack
  found_iff := fun _ => h.book.mem_found_iff
  disjoint := fun _ ha => h.book.notMem_stack_of_mem_modules ha
  settled := by
    intro a ha b hb hreach
    have hlisted : b ∈ s.modules := hreach.mem_of_closed h.linked.closed ha
    exact h.book.notMem_stack_of_mem_modules hlisted hb
  grounded := by
    intro a ha
    obtain ⟨owner, ho⟩ := h.linked.owned a ha
    exact ⟨owner, ho.way, ho.le, ho.reaches⟩
  low := h.linked.low

end ModulePack.Order

namespace ModulePack.Store

open ModulePack.Order

/-- The state of the search from an entry module after `n` iterations, in which the next one begins,
or the state in which the search has come to its end before. -/
def searchAfter (s : Store) (entry : String) (n : Nat) : State :=
  run s.graph n (State.start entry (s.graph.dependencies entry))

/-- Wherever an iteration of the search for the order of a stored entry module begins, and where the
search has come to its end, the state is coherent. -/
theorem search_coherent (s : Store) (entry : String) (h : s.has entry) :
    (∀ n, Coherent s.graph (s.searchAfter entry n)) ∧
      (s.searchAfter entry s.searchSteps).work = [] ∧
      s.order entry = ⟨(s.searchAfter entry s.searchSteps).modules,
        (s.searchAfter entry s.searchSteps).circular,
        (s.searchAfter entry s.searchSteps).absent⟩ := by
  rw [← s.isSome_graph, Option.isSome_iff_exists] at h
  obtain ⟨dependencies, hg⟩ := h
  have hstart : Invariant s.graph entry (State.start entry dependencies) ∧
      LowSet (State.start entry dependencies) := ⟨.start hg, .start entry dependencies⟩
  simp only [searchAfter, Graph.dependencies_of_eq_some hg]
  refine ⟨fun n => ?_, run_work_eq_nil hg, ?_⟩
  · obtain ⟨hinv, hlow⟩ := run_of_move (P := fun t => Invariant s.graph entry t ∧ LowSet t)
      (fun t u ht hm => ⟨ht.1.move hm, ht.2.move hm⟩) n hstart
    exact .of_invariant hinv hlow
  · rw [order, show s.dependencies? entry = some dependencies from hg]

/-- After eleven iterations `d` has been left and waits on the stack for `c`, whose number it knows;
the circle of `a` and `b` is listed. -/
theorem search_coherent_twoCircles :
    twoCircles.has "main" ∧
      (twoCircles.searchAfter "main" 11).modules = ["a", "b"] ∧
      (twoCircles.searchAfter "main" 11).stack = ["d", "c", "main"] ∧
      (twoCircles.searchAfter "main" 11).way = ["c", "main"] ∧
      (twoCircles.searchAfter "main" 11).lowOf "d" =
        (twoCircles.searchAfter "main" 11).indexOf "c" ∧
      Coherent twoCircles.graph (twoCircles.searchAfter "main" 11) ∧
      ¬ twoCircles.graph.Reaches "b" "c" := by
  have hentry : twoCircles.has "main" := by decide
  obtain ⟨hcoherent, -, -⟩ := search_coherent twoCircles "main" hentry
  exact ⟨hentry, by decide, by decide, by decide, by decide, hcoherent 11,
    (hcoherent 11).settled "b" (by decide) "c" (by decide)⟩

end ModulePack.Store
