import ModulePack.Proofs.Order.Listing

/-!
# What the order of a store hangs on

A search looks up the modules that the entry module reaches and what these depend on, and no others.
Stores that agree on them have the same order, whatever else they hold and in whatever order their
records were inserted.
-/

namespace ModulePack

/-- Two graphs agree on all that a module reaches in the first of them, and on which of its
dependencies are stored. -/
structure Graph.AgreesFrom (g g' : Graph) (entry : String) : Prop where
  reached : ∀ a, g.Reaches entry a → g' a = g a
  referenced : ∀ a, g.Reaches entry a → ∀ b ∈ g.dependencies a, (g' b).isSome = (g b).isSome

theorem Graph.AgreesFrom.eq_of_mem_dependencies {g g' : Graph} {entry a b : String}
    (h : g.AgreesFrom g' entry) (ha : g.Reaches entry a) (hb : b ∈ g.dependencies a) :
    g' b = g b := by
  by_cases hstored : (g b).isSome
  · exact h.reached b (ha.tail ⟨hb, hstored⟩)
  · have hstored' : ¬ (g' b).isSome := by rwa [h.referenced a ha b hb]
    rw [Option.not_isSome_iff_eq_none] at hstored hstored'
    rw [hstored, hstored']

namespace Order

variable {g g' : Graph} {entry : String} {s : State} {m n : Nat}

theorem step_eq_of_agreesFrom (h : g.AgreesFrom g' entry) (hs : Invariant g entry s) :
    step g' s = step g s := by
  cases hw : s.work with
  | nil => rw [step_eq_none_iff.2 hw, step_eq_none_iff.2 hw]
  | cons frame frames =>
    obtain ⟨name, rest⟩ := frame
    have hname : g.Reaches entry name := hs.linked.reached name (hs.book.top_mem_found hw)
    cases rest with
    | nil => simp only [step, hw, leave_eq, Graph.dependencies, h.reached name hname]
    | cons dependency rest =>
      have hdependency : dependency ∈ g.dependencies name := hs.scanned.mem_dependencies_top hw
      simp only [step, hw, State.look, h.eq_of_mem_dependencies hname hdependency]

theorem run_eq_of_agreesFrom (h : g.AgreesFrom g' entry) (hs : Invariant g entry s) (fuel : Nat) :
    run g' fuel s = run g fuel s := by
  induction fuel generalizing s with
  | zero => rfl
  | succ fuel ih =>
    rw [run, run, step_eq_of_agreesFrom h hs]
    cases hstep : step g s with
    | none => rfl
    | some s' => exact ih (hs.move (move_of_step hstep))

/-- Where a search has come to its end more steps change nothing. -/
theorem run_eq_of_le (h : (run g m s).work = []) (hle : m ≤ n) : run g n s = run g m s := by
  induction m generalizing n s with
  | zero =>
    rw [run] at h ⊢
    cases n with
    | zero => rfl
    | succ n => rw [run, step_eq_none_iff.2 h]
  | succ m ih =>
    obtain ⟨n, rfl⟩ := Nat.exists_eq_succ_of_ne_zero (show n ≠ 0 by omega)
    rw [Nat.succ_eq_add_one, run, run]
    cases hstep : step g s with
    | none => rfl
    | some s' =>
      simp only [run, hstep] at h
      exact ih h (by omega)

/-- The ends that two searches of one graph come to are the same. -/
theorem run_eq_run (hm : (run g m s).work = []) (hn : (run g n s).work = []) :
    run g m s = run g n s := by
  rcases Nat.le_total m n with hle | hle
  · exact (run_eq_of_le hm hle).symm
  · exact run_eq_of_le hn hle

end Order

namespace Store

variable {s t : Store} {entry : String}

theorem run_work_eq_nil {dependencies : List String} (h : s.graph entry = some dependencies) :
    (Order.run s.graph s.searchSteps (Order.State.start entry dependencies)).work = [] :=
  Order.run_work_eq_nil (Nat.le_of_eq (Order.remaining_start h))

/-- Stores that agree from an entry on have the same order for it. -/
theorem order_eq_of_agreesFrom (h : s.graph.AgreesFrom t.graph entry) :
    t.order entry = s.order entry := by
  have hentry : t.dependencies? entry = s.dependencies? entry := h.reached entry .refl
  rw [order, order, hentry]
  cases hs : s.dependencies? entry with
  | none => rfl
  | some dependencies =>
    have hstart : Order.Invariant s.graph entry (Order.State.start entry dependencies) := .start hs
    have hrun := Order.run_eq_of_agreesFrom h hstart t.searchSteps
    have hend := run_work_eq_nil (hentry.trans hs)
    rw [hrun] at hend
    simp only [hrun, Order.run_eq_run hend (run_work_eq_nil hs)]

end Store

end ModulePack
