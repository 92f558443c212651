import ModulePack.Proofs.Order.Bookkeeping

/-!
# What the search has looked at

Each dependency of a module found is still to be looked at, or it has been found, or it is noted as
absent. A name is noted as absent only for a module that depends on it. Where the way has come to
its end nothing is left to look at.
-/

namespace ModulePack.Order

/-- One of the frames has yet to look at `b` from `a`. -/
def Pending (frames : List Frame) (a b : String) : Prop :=
  ∃ frame ∈ frames, frame.name = a ∧ b ∈ frame.rest

theorem pending_cons {name a b : String} {rest : List String} {frames : List Frame} :
    Pending (⟨name, rest⟩ :: frames) a b ↔ (name = a ∧ b ∈ rest) ∨ Pending frames a b := by
  simp [Pending]

/-- After a look at one dependency all else is still to be looked at. -/
theorem Pending.look {name dependency a b : String} {rest : List String} {frames : List Frame}
    (h : Pending (⟨name, dependency :: rest⟩ :: frames) a b) :
    Pending (⟨name, rest⟩ :: frames) a b ∨ (a = name ∧ b = dependency) := by
  rw [pending_cons, List.mem_cons] at h
  rcases h with ⟨hname, rfl | hb⟩ | h
  · exact .inr ⟨hname.symm, rfl⟩
  · exact .inl (pending_cons.2 (.inl ⟨hname, hb⟩))
  · exact .inl (pending_cons.2 (.inr h))

theorem Pending.leave {name a b : String} {frames : List Frame}
    (h : Pending (⟨name, []⟩ :: frames) a b) : Pending frames a b := by
  rcases pending_cons.1 h with ⟨-, hb⟩ | h
  · simp at hb
  · exact h

structure Scanned (g : Graph) (s : State) : Prop where
  frames : ∀ frame ∈ s.work, ∃ looked, g frame.name = some (looked ++ frame.rest)
  found : ∀ a ∈ s.found, ∀ b, g.Edge a b → Pending s.work a b ∨ b ∈ s.found
  absent : ∀ a ∈ s.found, ∀ b ∈ g.dependencies a, g b = none → Pending s.work a b ∨ b ∈ s.absent
  absent_sound : ∀ b ∈ s.absent, g b = none ∧ ∃ a ∈ s.found, b ∈ g.dependencies a

namespace Scanned

variable {g : Graph} {entry : String} {s s' : State} {name dependency : String}
  {rest dependencies : List String} {frames : List Frame}

theorem top (h : Scanned g s) (work : s.work = ⟨name, rest⟩ :: frames) :
    ∃ looked, g name = some (looked ++ rest) :=
  h.frames ⟨name, rest⟩ (work ▸ List.mem_cons_self)

theorem mem_dependencies_top (h : Scanned g s)
    (work : s.work = ⟨name, dependency :: rest⟩ :: frames) :
    dependency ∈ g.dependencies name := by
  obtain ⟨looked, hg⟩ := h.top work
  rw [Graph.dependencies_of_eq_some hg]
  exact List.mem_append_right _ List.mem_cons_self

theorem edge_top (h : Scanned g s) (work : s.work = ⟨name, dependency :: rest⟩ :: frames)
    (hstored : (g dependency).isSome) : g.Edge name dependency :=
  ⟨h.mem_dependencies_top work, hstored⟩

theorem frames_look (h : Scanned g s) (work : s.work = ⟨name, dependency :: rest⟩ :: frames) :
    ∀ frame ∈ (⟨name, rest⟩ :: frames : List Frame),
      ∃ looked, g frame.name = some (looked ++ frame.rest) := by
  intro frame hframe
  rcases List.mem_cons.1 hframe with rfl | hframe
  · obtain ⟨looked, hg⟩ := h.top work
    exact ⟨looked ++ [dependency], by simpa using hg⟩
  · exact h.frames frame (work ▸ List.mem_cons_of_mem _ hframe)

theorem look (h : Scanned g s) (work : s.work = ⟨name, dependency :: rest⟩ :: frames)
    (hname : name ∈ s.found) (work' : s'.work = ⟨name, rest⟩ :: frames)
    (hfound : s'.found = s.found) (hdependency : (g dependency).isSome → dependency ∈ s.found)
    (habsent : ∀ b, b ∈ s'.absent ↔ b ∈ s.absent ∨ (b = dependency ∧ g dependency = none)) :
    Scanned g s' := by
  constructor
  · rw [work']
    exact h.frames_look work
  · intro a ha b hab
    rw [hfound] at ha ⊢
    rw [work']
    rcases h.found a ha b hab with hp | hb
    · rw [work] at hp
      rcases hp.look with hp | ⟨-, rfl⟩
      · exact .inl hp
      · exact .inr (hdependency hab.2)
    · exact .inr hb
  · intro a ha b hb hg
    rw [hfound] at ha
    rw [work', habsent]
    rcases h.absent a ha b hb hg with hp | hb
    · rw [work] at hp
      rcases hp.look with hp | ⟨-, rfl⟩
      · exact .inl hp
      · exact .inr (.inr ⟨rfl, hg⟩)
    · exact .inr (.inl hb)
  · intro b hb
    rw [hfound]
    rcases (habsent b).1 hb with hb | ⟨rfl, hg⟩
    · exact h.absent_sound b hb
    · exact ⟨hg, name, hname, h.mem_dependencies_top work⟩

theorem discover (h : Scanned g s) (work : s.work = ⟨name, dependency :: rest⟩ :: frames)
    (stored : g dependency = some dependencies) (new : s.index.find? dependency = none) :
    Scanned g (State.discover { s with work := ⟨name, rest⟩ :: frames } dependency
      dependencies) := by
  constructor
  · intro frame hframe
    rcases List.mem_cons.1 hframe with rfl | hframe
    · exact ⟨[], stored⟩
    · exact h.frames_look work frame hframe
  · intro a ha b hab
    rw [Bookkeeping.found_discover _ _ new, List.mem_append, List.mem_singleton] at ha ⊢
    rcases ha with ha | rfl
    · rcases h.found a ha b hab with hp | hb
      · rw [work] at hp
        rcases hp.look with hp | ⟨-, rfl⟩
        · exact .inl (pending_cons.2 (.inr hp))
        · exact .inr (.inr rfl)
      · exact .inr (.inl hb)
    · refine .inl (pending_cons.2 (.inl ⟨rfl, ?_⟩))
      rw [← Graph.dependencies_of_eq_some stored]
      exact hab.1
  · intro a ha b hb hg
    rw [Bookkeeping.found_discover _ _ new, List.mem_append, List.mem_singleton] at ha
    rcases ha with ha | rfl
    · rcases h.absent a ha b hb hg with hp | hb
      · rw [work] at hp
        rcases hp.look with hp | ⟨-, rfl⟩
        · exact .inl (pending_cons.2 (.inr hp))
        · rw [stored] at hg
          cases hg
      · exact .inr hb
    · refine .inl (pending_cons.2 (.inl ⟨rfl, ?_⟩))
      rw [← Graph.dependencies_of_eq_some stored]
      exact hb
  · intro b hb
    obtain ⟨hg, a, ha, hab⟩ := h.absent_sound b hb
    refine ⟨hg, a, ?_, hab⟩
    rw [Bookkeeping.found_discover _ _ new]
    exact List.mem_append_left _ ha

theorem leave (h : Scanned g s) (work : s.work = ⟨name, []⟩ :: frames) (work' : s'.work = frames)
    (hfound : s'.found = s.found) (habsent : s'.absent = s.absent) : Scanned g s' := by
  constructor
  · intro frame hframe
    rw [work'] at hframe
    exact h.frames frame (work ▸ List.mem_cons_of_mem _ hframe)
  · intro a ha b hab
    rw [hfound] at ha ⊢
    rw [work']
    rcases h.found a ha b hab with hp | hb
    · rw [work] at hp
      exact .inl hp.leave
    · exact .inr hb
  · intro a ha b hb hg
    rw [hfound] at ha
    rw [work', habsent]
    rcases h.absent a ha b hb hg with hp | hb
    · rw [work] at hp
      exact .inl hp.leave
    · exact .inr hb
  · rw [habsent, hfound]
    exact h.absent_sound

theorem move (h : Scanned g s) (hb : Bookkeeping g entry s) (hm : Move g s s') :
    Scanned g s' := by
  cases hm with
  | absent work unknown =>
    refine h.look work (hb.top_mem_found work) rfl rfl (by simp [unknown]) ?_
    simp [unknown, or_comm]
  | discover work stored new => exact h.discover work stored new
  | back work stored number _ | cross work stored number _ =>
    have hknown := (hb.mem_found_of_find? number).1
    refine h.look work (hb.top_mem_found work) rfl rfl (fun _ => hknown) ?_
    simp [State.lower, Option.ne_none_iff_isSome.2 stored]
  | keep work _ | close work _ => exact h.leave work rfl rfl rfl

theorem start (h : g entry = some dependencies) :
    Scanned g (State.start entry dependencies) := by
  have hpending {b : String} (hb : b ∈ g.dependencies entry) :
      Pending (State.start entry dependencies).work entry b := by
    rw [Graph.dependencies_of_eq_some h] at hb
    exact pending_cons.2 (.inl ⟨rfl, hb⟩)
  constructor
  · intro frame hframe
    have he : frame = ⟨entry, dependencies⟩ := List.mem_singleton.1 hframe
    exact ⟨[], he ▸ h⟩
  · intro a ha b hab
    rw [State.found_start, List.mem_singleton] at ha
    subst ha
    exact .inl (hpending hab.1)
  · intro a ha b hb _
    rw [State.found_start, List.mem_singleton] at ha
    subst ha
    exact .inl (hpending hb)
  · intro b hb
    exact absurd hb (NameSet.notMem_empty b)

end Scanned

end ModulePack.Order
