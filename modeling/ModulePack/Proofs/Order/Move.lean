import ModulePack.Proofs.Order.Reachability

/-!
# The moves of the search

A step that is taken is one of six moves: four look at the next dependency of the module on top,
two leave it. All that a search keeps is shown move by move.
-/

namespace ModulePack.Order

namespace State

/-- The state in which `name` is left for the frames below it: its number goes to its parent. -/
def pass (s : State) (name : String) (frames : List Frame) : State :=
  { s with
    work := frames
    low :=
      match frames with
      | parent :: _ => s.low.insert parent.name (min (s.lowOf parent.name) (s.lowOf name))
      | [] => s.low }

end State

inductive Move (g : Graph) (s : State) : State → Prop
  | absent {name dependency : String} {rest : List String} {frames : List Frame}
      (work : s.work = ⟨name, dependency :: rest⟩ :: frames) (unknown : g dependency = none) :
      Move g s { s with
        work := ⟨name, rest⟩ :: frames
        absent := s.absent.insert dependency }
  | discover {name dependency : String} {rest dependencies : List String} {frames : List Frame}
      (work : s.work = ⟨name, dependency :: rest⟩ :: frames)
      (stored : g dependency = some dependencies) (new : s.index.find? dependency = none) :
      Move g s (State.discover { s with work := ⟨name, rest⟩ :: frames } dependency dependencies)
  | back {name dependency : String} {rest : List String} {frames : List Frame} {n : Nat}
      (work : s.work = ⟨name, dependency :: rest⟩ :: frames) (stored : (g dependency).isSome)
      (number : s.index.find? dependency = some n) (waiting : dependency ∈ s.onStack) :
      Move g s (State.lower { s with work := ⟨name, rest⟩ :: frames } name n)
  | cross {name dependency : String} {rest : List String} {frames : List Frame} {n : Nat}
      (work : s.work = ⟨name, dependency :: rest⟩ :: frames) (stored : (g dependency).isSome)
      (number : s.index.find? dependency = some n) (settled : dependency ∉ s.onStack) :
      Move g s { s with work := ⟨name, rest⟩ :: frames }
  | keep {name : String} {frames : List Frame} (work : s.work = ⟨name, []⟩ :: frames)
      (low : s.lowOf name ≠ s.indexOf name) : Move g s (s.pass name frames)
  | close {name : String} {frames : List Frame} (work : s.work = ⟨name, []⟩ :: frames)
      (low : s.lowOf name = s.indexOf name) :
      Move g s ((s.pass name frames).close name (g.dependencies name))

variable {g : Graph} {s s' : State}

theorem step_eq_none_iff : step g s = none ↔ s.work = [] := by
  cases hw : s.work with
  | nil => simp [step, hw]
  | cons frame frames =>
    obtain ⟨name, rest⟩ := frame
    cases rest <;> simp [step, hw]

theorem leave_eq (name : String) (frames : List Frame) :
    State.leave g { s with work := frames } name =
      if s.lowOf name = s.indexOf name then (s.pass name frames).close name (g.dependencies name)
      else s.pass name frames := by
  cases frames <;> rfl

theorem move_of_step (h : step g s = some s') : Move g s s' := by
  cases hw : s.work with
  | nil => simp [step, hw] at h
  | cons frame frames =>
    obtain ⟨name, rest⟩ := frame
    cases rest with
    | nil =>
      simp only [step, hw, leave_eq, Option.some.injEq] at h
      by_cases hlow : s.lowOf name = s.indexOf name
      · rw [if_pos hlow] at h
        exact h ▸ .close hw hlow
      · rw [if_neg hlow] at h
        exact h ▸ .keep hw hlow
    | cons dependency rest =>
      simp only [step, hw, Option.some.injEq] at h
      cases hg : g dependency with
      | none =>
        simp only [State.look, hg] at h
        exact h ▸ .absent hw hg
      | some dependencies =>
        cases hn : s.index.find? dependency with
        | none =>
          simp only [State.look, hg, hn] at h
          exact h ▸ .discover hw hg hn
        | some n =>
          have hstored : (g dependency).isSome := by simp [hg]
          by_cases hon : dependency ∈ s.onStack
          · simp only [State.look, hg, hn, hon, if_true] at h
            exact h ▸ .back hw hstored hn hon
          · simp only [State.look, hg, hn, hon, if_false] at h
            exact h ▸ .cross hw hstored hn hon

/-- What every move keeps holds after any number of steps. -/
theorem run_of_move {P : State → Prop} (hmove : ∀ s s', P s → Move g s s' → P s') (fuel : Nat)
    (hs : P s) : P (run g fuel s) := by
  induction fuel generalizing s with
  | zero => exact hs
  | succ fuel ih =>
    cases hstep : step g s with
    | none => simpa only [run, hstep] using hs
    | some s' => simpa only [run, hstep] using ih (hmove s s' hs (move_of_step hstep))

end ModulePack.Order
