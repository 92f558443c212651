import Mathlib.Algebra.GroupWithZero.Nat
import ModulePack.Proofs.Order.Move

/-!
# The search comes to its end

What is left to do is one step for each module that is still to be found or still on the way, and
one for each of their dependencies still to be looked at. Every move does one of these steps, so the
steps that the order of a store allows for bring the search to its end.
-/

namespace ModulePack.Order

def unfoundSteps (index : Dictionary Nat) (records : List Record) : Nat :=
  (records.map fun r => if (index.find? r.name).isSome then 0 else r.dependencies.length + 1).sum

def remaining (records : List Record) (s : State) : Nat :=
  unfoundSteps s.index records + (s.work.map fun frame => frame.rest.length + 1).sum

theorem unfoundSteps_insert_of_notMem {index : Dictionary Nat} {records : List Record}
    {name : String} {n : Nat} (h : name ∉ records.map Record.name) :
    unfoundSteps (index.insert name n) records = unfoundSteps index records := by
  unfold unfoundSteps
  congr 1
  apply List.map_congr_left
  intro r hr
  have hne : name ≠ r.name := fun he => h (he ▸ List.mem_map_of_mem hr)
  rw [Dictionary.find?_insert, if_neg hne]

/-- Finding a module takes its steps from those of the modules still to be found. -/
theorem unfoundSteps_insert {index : Dictionary Nat} {records : List Record} {r : Record}
    {n : Nat} (hdistinct : (records.map Record.name).Nodup) (hr : r ∈ records)
    (hnew : index.find? r.name = none) :
    unfoundSteps (index.insert r.name n) records + (r.dependencies.length + 1) =
      unfoundSteps index records := by
  induction records with
  | nil => simp at hr
  | cons q rest ih =>
    rw [List.map_cons, List.nodup_cons] at hdistinct
    have hcons (d : Dictionary Nat) : unfoundSteps d (q :: rest) =
        (if (d.find? q.name).isSome then 0 else q.dependencies.length + 1) +
          unfoundSteps d rest := by
      simp [unfoundSteps]
    rw [hcons, hcons, Dictionary.find?_insert]
    rcases List.mem_cons.1 hr with rfl | hr
    · rw [unfoundSteps_insert_of_notMem hdistinct.1, if_pos rfl, hnew]
      simp only [Option.isSome_some, Option.isSome_none, if_true, Bool.false_eq_true, if_false]
      omega
    · have hne : r.name ≠ q.name := fun he => hdistinct.1 (he ▸ List.mem_map_of_mem hr)
      have := ih hdistinct.2 hr
      rw [if_neg hne]
      omega

variable {store : Store} {s s' : State}

theorem unfoundSteps_discover {name : String} {dependencies : List String}
    (stored : store.graph name = some dependencies) (new : s.index.find? name = none) :
    unfoundSteps (s.discover name dependencies).index store.records + (dependencies.length + 1) =
      unfoundSteps s.index store.records := by
  obtain ⟨r, hr, rfl, rfl⟩ := Store.exists_record stored
  exact unfoundSteps_insert store.distinct hr new

theorem remaining_move (hm : Move store.graph s s') :
    remaining store.records s' + 1 = remaining store.records s := by
  cases hm with
  | absent work _ | back work _ _ _ | cross work _ _ _ =>
    simp only [remaining, State.lower, work, List.map_cons, List.sum_cons, List.length_cons]
    omega
  | @discover name dependency rest dependencies frames work stored new =>
    have hsteps := unfoundSteps_discover (s := { s with work := ⟨name, rest⟩ :: frames }) stored new
    have hwork : (State.discover { s with work := ⟨name, rest⟩ :: frames } dependency
      dependencies).work = ⟨dependency, dependencies⟩ :: ⟨name, rest⟩ :: frames := rfl
    simp only [remaining, hwork, work, List.map_cons, List.sum_cons, List.length_cons]
    simp only [] at hsteps
    omega
  | keep work _ | close work _ =>
    simp only [remaining, State.close, State.pass, work, List.map_cons, List.sum_cons,
      List.length_nil]
    omega

theorem run_work_eq_nil {fuel : Nat} (h : remaining store.records s ≤ fuel) :
    (run store.graph fuel s).work = [] := by
  induction fuel generalizing s with
  | zero =>
    cases hw : s.work with
    | nil => simpa only [run] using hw
    | cons frame frames =>
      simp only [remaining, hw, List.map_cons, List.sum_cons] at h
      omega
  | succ fuel ih =>
    cases hstep : step store.graph s with
    | none => simpa only [run, hstep] using step_eq_none_iff.1 hstep
    | some s' =>
      have := remaining_move (move_of_step hstep)
      simpa only [run, hstep] using ih (s := s') (by omega)

theorem remaining_start {entry : String} {dependencies : List String}
    (h : store.graph entry = some dependencies) :
    remaining store.records (State.start entry dependencies) = store.searchSteps := by
  have hsteps := unfoundSteps_discover
    (s := ⟨[], [], [], .empty, [], [], .empty, .empty⟩) h rfl
  have hsearch : unfoundSteps [] store.records = store.searchSteps := by
    simp [unfoundSteps, Store.searchSteps, List.sum_eq_foldr, List.foldr_map]
  rw [← hsearch, ← hsteps]
  rfl

end ModulePack.Order

namespace ModulePack.Store

/-- The order of a stored entry is what a search leaves that has come to its end, and all that moves
keep holds of it. -/
theorem exists_final_of_move {s : Store} {entry : String} {P : Order.State → Prop}
    (h : s.has entry)
    (hstart : ∀ dependencies, s.graph entry = some dependencies →
      P (Order.State.start entry dependencies))
    (hmove : ∀ state state', P state → Order.Move s.graph state state' → P state') :
    ∃ final, P final ∧ final.work = [] ∧
      s.order entry = ⟨final.modules, final.circular, final.absent⟩ := by
  rw [← s.isSome_graph, Option.isSome_iff_exists] at h
  obtain ⟨dependencies, hg⟩ := h
  refine ⟨Order.run s.graph s.searchSteps (Order.State.start entry dependencies),
    Order.run_of_move hmove _ (hstart dependencies hg),
    Order.run_work_eq_nil (Nat.le_of_eq (Order.remaining_start hg)), ?_⟩
  simp only [order]
  rw [show s.dependencies? entry = some dependencies from hg]

end ModulePack.Store
