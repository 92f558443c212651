import ModulePack.Proofs.Order.Guarded
import ModulePack.Proofs.Order.Listing

/-!
# Traces of the search

A trace holds the states in which the iterations of a search begin, up to the state in which it
ends. Each iteration looks at the dependency at which the frame on top stands and moves the frame on
by one, or it takes the frame off where no dependency is left. A frame is put on the way for each
module that is found, so for each stored module that the entry module reaches, once.
-/

namespace ModulePack.Order

/-- A search that begins in a state goes through a list of states and ends in a state that it does
not leave. -/
inductive Trace (g : Graph) : State → List State → State → Prop
  | done {s : State} (h : step g s = none) : Trace g s [] s
  | next {s s' final : State} {states : List State} (h : step g s = some s')
      (rest : Trace g s' states final) : Trace g s (s :: states) final

structure Frame.At (g : Graph) (frame : Frame) (position : Nat) : Prop where
  le : position ≤ (g.dependencies frame.name).length
  rest : frame.rest = (g.dependencies frame.name).drop position

/-- The frames by which the way of one state is longer than that of another. -/
def newFrames (s s' : State) : List Frame := s'.work.take (s'.work.length - s.work.length)

inductive Iteration (g : Graph) (s s' : State) : Prop
  /-- The frame on top moves on by one position, and a frame may be put on top of it for the
  dependency that was looked at. -/
  | advance {name : String} {rest rest' : List String} {frames : List Frame} {position : Nat}
      (work : s.work = ⟨name, rest⟩ :: frames) (before : Frame.At g ⟨name, rest⟩ position)
      (work' : s'.work = newFrames s s' ++ ⟨name, rest'⟩ :: frames)
      (after : Frame.At g ⟨name, rest'⟩ (position + 1)) (single : (newFrames s s').length ≤ 1)
      (opens : ∀ frame ∈ newFrames s s', frame.At g 0 ∧
        (g.dependencies name)[position]? = some frame.name) : Iteration g s s'
  | remove {frame : Frame} (work : s.work = frame :: s'.work)
      (looked : frame.At g (g.dependencies frame.name).length) : Iteration g s s'

def opened (g : Graph) (states : List State) : List String :=
  states.flatMap fun s =>
    match step g s with
    | some s' => (newFrames s s').map Frame.name
    | none => []

section Iterations

variable {g : Graph} {entry name dependency : String} {s s' : State} {rest : List String}
  {frames : List Frame}

theorem Scanned.top_at (h : Scanned g s) (work : s.work = ⟨name, rest⟩ :: frames) :
    ∃ position, Frame.At g ⟨name, rest⟩ position := by
  obtain ⟨looked, hg⟩ := h.top work
  refine ⟨looked.length, ?_, ?_⟩
  · simp [Graph.dependencies_of_eq_some hg]
  · simp [Graph.dependencies_of_eq_some hg]

theorem Frame.At.next {position : Nat} (h : Frame.At g ⟨name, dependency :: rest⟩ position) :
    Frame.At g ⟨name, rest⟩ (position + 1) ∧
      (g.dependencies name)[position]? = some dependency := by
  have hdrop : (g.dependencies name).drop position = dependency :: rest := h.rest.symm
  have hget : (g.dependencies name)[position]? = some dependency := by
    rw [← List.head?_drop, hdrop]
    rfl
  obtain ⟨hlt, -⟩ := List.getElem?_eq_some_iff.1 hget
  refine ⟨⟨hlt, ?_⟩, hget⟩
  rw [← List.drop_drop, hdrop]
  rfl

theorem newFrames_eq_nil (h : s'.work.length ≤ s.work.length) : newFrames s s' = [] := by
  rw [newFrames, Nat.sub_eq_zero_of_le h, List.take_zero]

theorem newFrames_discover (work : s.work = ⟨name, dependency :: rest⟩ :: frames)
    (dependencies : List String) :
    newFrames s (State.discover { s with work := ⟨name, rest⟩ :: frames } dependency
      dependencies) = [⟨dependency, dependencies⟩] := by
  simp [newFrames, State.discover, work]

/-- A look that puts no frame on the way moves the frame on top on. -/
theorem Iteration.of_look (hs : Scanned g s) (work : s.work = ⟨name, dependency :: rest⟩ :: frames)
    (work' : s'.work = ⟨name, rest⟩ :: frames) : Iteration g s s' := by
  obtain ⟨position, hat⟩ := hs.top_at work
  have hnone : newFrames s s' = [] := newFrames_eq_nil (by simp [work, work'])
  exact .advance work hat (by rw [hnone, work']; rfl) hat.next.1 (by simp [hnone])
    (by simp [hnone])

theorem Iteration.of_leave (work : s.work = ⟨name, []⟩ :: frames) (work' : s'.work = frames) :
    Iteration g s s' := by
  have hlooked : Frame.At g ⟨name, []⟩ (g.dependencies name).length :=
    ⟨Nat.le_refl _, List.drop_length.symm⟩
  exact .remove (work' ▸ work) hlooked

theorem Iteration.of_move (hs : Scanned g s) (hm : Move g s s') : Iteration g s s' := by
  cases hm with
  | absent work _ => exact .of_look hs work rfl
  | back work _ _ _ => exact .of_look hs work rfl
  | cross work _ _ _ => exact .of_look hs work rfl
  | @discover name dependency rest dependencies frames work stored new =>
    obtain ⟨position, hat⟩ := hs.top_at work
    have hnew := newFrames_discover work dependencies
    have hopens : Frame.At g ⟨dependency, dependencies⟩ 0 :=
      ⟨Nat.zero_le _, (Graph.dependencies_of_eq_some stored).symm⟩
    refine .advance work hat (by rw [hnew]; rfl) hat.next.1 (by simp [hnew]) ?_
    rw [hnew, List.forall_mem_singleton]
    exact ⟨hopens, hat.next.2⟩
  | keep work _ => exact .of_leave work rfl
  | close work _ => exact .of_leave work rfl

/-- A move finds the modules for which it puts frames on the way. -/
theorem found_move (hm : Move g s s') :
    s'.found = s.found ++ (newFrames s s').map Frame.name := by
  cases hm with
  | absent work _ | back work _ _ _ | cross work _ _ _ =>
    rw [newFrames_eq_nil (by simp [State.lower, work])]
    exact (List.append_nil _).symm
  | discover work _ new =>
    rw [newFrames_discover work, Bookkeeping.found_discover _ _ new]
    rfl
  | keep work _ | close work _ =>
    rw [newFrames_eq_nil (by simp [State.pass, State.close, work])]
    exact (List.append_nil _).symm

end Iterations

/-- The iterations that some modules take: one for each of their dependencies, and one in which they
are left. -/
def iterations (g : Graph) (names : List String) : Nat :=
  (names.map fun name => (g.dependencies name).length + 1).sum

def State.pending (s : State) : Nat := (s.work.map fun frame => frame.rest.length + 1).sum

namespace Trace

variable {g : Graph} {entry : String} {s s' final : State} {states : List State}
  {P : State → Prop}

theorem work_final (h : Trace g s states final) : final.work = [] := by
  induction h with
  | done h => exact step_eq_none_iff.1 h
  | next _ _ ih => exact ih

/-- What every move keeps holds in all states of a trace. -/
theorem forall_of_move (hmove : ∀ s s', P s → Move g s s' → P s') (h : Trace g s states final)
    (hs : P s) : (∀ t ∈ states, P t) ∧ P final := by
  induction h with
  | done => exact ⟨by simp, hs⟩
  | next hstep _ ih =>
    obtain ⟨hstates, hfinal⟩ := ih (hmove _ _ hs (move_of_step hstep))
    exact ⟨List.forall_mem_cons.2 ⟨hs, hstates⟩, hfinal⟩

theorem exists_step (h : Trace g s states final) : ∀ t ∈ states, ∃ u, step g t = some u := by
  induction h with
  | done => simp
  | next hstep _ ih => exact List.forall_mem_cons.2 ⟨⟨_, hstep⟩, ih⟩

theorem run_eq {fuel : Nat} (h : Trace g s states final) (hfuel : states.length ≤ fuel) :
    run g fuel s = final := by
  induction h generalizing fuel with
  | @done s h => cases fuel <;> simp [run, h]
  | next hstep _ ih =>
    obtain _ | fuel := fuel
    · simp at hfuel
    · rw [run, hstep]
      exact ih (Nat.le_of_succ_le_succ hfuel)

theorem found_eq (h : Trace g s states final) : final.found = s.found ++ opened g states := by
  induction h with
  | done => exact (List.append_nil _).symm
  | @next s s' _ states hstep _ ih =>
    have hopened : opened g (s :: states) =
        (newFrames s s').map Frame.name ++ opened g states := by
      simp [opened, hstep]
    rw [ih, found_move (move_of_step hstep), List.append_assoc, hopened]

/-- Each iteration is one of those that the modules found take. -/
theorem pending_move (hm : Move g s s') :
    s'.pending + iterations g s.found + 1 = s.pending + iterations g s'.found := by
  cases hm with
  | absent work _ | back work _ _ _ | cross work _ _ _ =>
    simp only [State.pending, State.found, State.lower, work, List.map_cons, List.sum_cons,
      List.length_cons]
    omega
  | @discover name dependency rest dependencies frames work stored new =>
    rw [Bookkeeping.found_discover _ _ new]
    simp only [State.pending, State.discover, iterations, work, List.map_cons, List.map_append,
      List.sum_cons, List.sum_append, List.length_cons, List.map_nil, List.sum_nil,
      Graph.dependencies_of_eq_some stored]
    omega
  | keep work _ | close work _ =>
    simp only [State.pending, State.found, State.pass, State.close, work, List.map_cons,
      List.sum_cons, List.length_nil]
    omega

theorem length_eq (h : Trace g s states final) :
    states.length + iterations g s.found = s.pending + iterations g final.found := by
  induction h with
  | done h => simp [State.pending, step_eq_none_iff.1 h]
  | next hstep _ ih =>
    have hpending := pending_move (move_of_step hstep)
    rw [List.length_cons]
    omega

end Trace

/-- Every search in a store comes to its end. -/
theorem exists_trace (store : Store) (s : State) :
    ∃ states final, Trace store.graph s states final ∧
      states.length ≤ remaining store.records s := by
  induction hn : remaining store.records s generalizing s with
  | zero =>
    have hnone : step store.graph s = none := by
      cases hstep : step store.graph s with
      | none => rfl
      | some s' =>
        have := remaining_move (move_of_step hstep)
        omega
    exact ⟨[], s, .done hnone, Nat.le_refl _⟩
  | succ n ih =>
    cases hstep : step store.graph s with
    | none => exact ⟨[], s, .done hstep, Nat.zero_le _⟩
    | some s' =>
      have hmove := remaining_move (move_of_step hstep)
      obtain ⟨states, final, htrace, hlength⟩ := ih s' (by omega)
      exact ⟨s :: states, final, .next hstep htrace, Nat.succ_le_succ hlength⟩

end ModulePack.Order

namespace ModulePack.Store

open ModulePack.Order

/-- The search from a stored entry module ends, after one iteration for each dependency of a module
found and one for each module. No iteration meets a guard; each moves the frame on top on by one
position or takes it off. A frame is put on the way once for each stored module that the entry
module reaches. Where a module closes a component it is on the stack, and what is taken from the
stack ends with it. Without a stored entry module nothing is searched. -/
theorem search_ends (s : Store) (entry : String) :
    (s.has entry → ∃ states final,
      Trace s.graph (State.start entry (s.graph.dependencies entry)) states final ∧
      s.order entry = ⟨final.modules, final.circular, final.absent⟩ ∧
      states.length = iterations s.graph (entry :: opened s.graph states) ∧
      (∀ t ∈ states, ∃ u, guardedStep s.graph t = .ok (some u) ∧ step s.graph t = some u ∧
        Iteration s.graph t u) ∧
      guardedStep s.graph final = .ok none ∧
      (entry :: opened s.graph states).Nodup ∧
      (∀ name, name ∈ entry :: opened s.graph states ↔ s.has name ∧ s.graph.Reaches entry name) ∧
      ∀ t ∈ states, ∀ name frames, t.work = ⟨name, []⟩ :: frames → t.lowOf name = t.indexOf name →
        name ∈ t.stack ∧ ∃ above below, popUntil name t.stack = .ok (above ++ [name], below) ∧
          t.stack = above ++ name :: below ∧ name ∉ above) ∧
      (¬ s.has entry → s.order entry = ⟨[], .empty, NameSet.empty.insert entry⟩) := by
  refine ⟨fun hentry => ?_, order_of_not_has⟩
  rw [← s.isSome_graph, Option.isSome_iff_exists] at hentry
  obtain ⟨dependencies, hg⟩ := hentry
  rw [Graph.dependencies_of_eq_some hg]
  obtain ⟨states, final, htrace, hlength⟩ := exists_trace s (State.start entry dependencies)
  obtain ⟨hstates, hfinal⟩ := htrace.forall_of_move
    (P := fun t => Invariant s.graph entry t ∧ LowSet t)
    (fun t u ht hm => ⟨ht.1.move hm, ht.2.move hm⟩) ⟨.start hg, .start entry dependencies⟩
  have hfound : final.found = entry :: opened s.graph states := htrace.found_eq
  refine ⟨states, final, htrace, ?_, ?_, fun t ht => ?_, ?_, hfound ▸ hfinal.1.book.distinct,
    fun name => ?_, fun t ht name frames work hlow => ?_⟩
  · rw [remaining_start hg] at hlength
    rw [order, show s.dependencies? entry = some dependencies from hg]
    simp only [htrace.run_eq hlength]
  · have hlength' := htrace.length_eq
    have hstart : (State.start entry dependencies).pending =
        iterations s.graph (State.start entry dependencies).found := by
      simp [State.pending, State.start, State.discover, iterations, State.found, Dictionary.keys,
        Dictionary.insert, Graph.dependencies_of_eq_some hg]
    rw [← hfound]
    omega
  · obtain ⟨u, hstep⟩ := htrace.exists_step t ht
    obtain ⟨hinv, hset⟩ := hstates t ht
    exact ⟨u, hstep ▸ guardedStep_eq hinv.book hset, hstep,
      .of_move hinv.scanned (move_of_step hstep)⟩
  · rw [guardedStep_eq hfinal.1.book hfinal.2, step_eq_none_iff.2 htrace.work_final]
  · rw [← hfound, ← (hfinal.1.perm_found htrace.work_final).mem_iff,
      hfinal.1.mem_modules_iff htrace.work_final, isSome_graph]
  · have hname : name ∈ t.stack := (hstates t ht).1.book.top_mem_stack work
    exact ⟨hname, _, _, popUntil_eq hname, State.stack_eq hname, t.notMem_above name⟩

end ModulePack.Store
