import ModulePack.Proofs.Order.Linkage

/-!
# Closing a component

Where the least number of a module that is left is its own, no edge leads from what lies on the
stack from it on to what lies below it. What it closes is then the class of all modules that reach
it and that it reaches, and every move keeps the links between the modules on the stack.
-/

namespace ModulePack.Order.Linked

variable {g : Graph} {entry : String} {s s' : State} {a b name : String}
  {rest dependencies : List String} {frames : List Frame}

theorem mutual_of_mem_component (h : Linked g entry s) (hb : Bookkeeping g entry s)
    (work : s.work = ⟨name, rest⟩ :: frames) (ha : a ∈ s.component name) : g.Mutual name a := by
  have hname : name ∈ s.stack := hb.top_mem_stack work
  obtain ⟨hastack, hle⟩ := (hb.mem_component_iff hname).1 ha
  exact ⟨h.reaches_of_indexOf_le hb hname hastack hle, h.reaches_top hb work hastack⟩

/-- What lies on the stack from the module that is left on has been looked at in full. -/
theorem not_pending_of_mem_component (hb : Bookkeeping g entry s)
    (work : s.work = ⟨name, []⟩ :: frames) (ha : a ∈ s.component name) :
    ¬ Pending s.work a b := by
  obtain ⟨-, hle⟩ := (hb.mem_component_iff (hb.top_mem_stack work)).1 ha
  intro hp
  rw [work] at hp
  obtain ⟨frame, hframe, rfl, -⟩ := hp.leave
  exact absurd hle (Nat.not_le_of_lt (hb.indexOf_lt_top work (List.mem_map_of_mem hframe)))

/-- Where the module that is left closes a component, no edge leads out of it but to modules that
are listed. -/
theorem edge_of_mem_component (h : Linked g entry s) (hb : Bookkeeping g entry s)
    (hs : Scanned g s) (work : s.work = ⟨name, []⟩ :: frames)
    (hlow : s.lowOf name = s.indexOf name) (ha : a ∈ s.component name) (hab : g.Edge a b) :
    b ∈ s.component name ∨ b ∈ s.modules := by
  have hname : name ∈ s.stack := hb.top_mem_stack work
  have hnway : name ∈ s.way := State.way_eq work ▸ List.mem_cons_self
  have hpending : ¬ Pending s.work a b := not_pending_of_mem_component hb work ha
  obtain ⟨hastack, hle⟩ := (hb.mem_component_iff hname).1 ha
  obtain ⟨owner, ho⟩ := h.owned a hastack
  have hown : owner = name := eq_of_owns hb ho hnway hle (hb.indexOf_le_top work ho.way)
  have hfound : b ∈ s.found :=
    (hs.found a (hb.mem_found_of_mem_stack hastack) b hab).resolve_left hpending
  rcases hb.mem_found_iff.1 hfound with hmodules | hstack
  · exact .inr hmodules
  · have hnumber : s.lowOf owner ≤ s.indexOf b := (ho.low b hstack hab).resolve_left hpending
    rw [hown, hlow] at hnumber
    exact .inl ((hb.mem_component_iff hname).2 ⟨hstack, hnumber⟩)

theorem closed_append_component (h : Linked g entry s) (hb : Bookkeeping g entry s)
    (hs : Scanned g s) (work : s.work = ⟨name, []⟩ :: frames)
    (hlow : s.lowOf name = s.indexOf name) :
    ∀ a ∈ s.modules ++ s.component name, ∀ b, g.Edge a b → b ∈ s.modules ++ s.component name := by
  intro a ha b hab
  rw [List.mem_append] at ha ⊢
  rcases ha with ha | ha
  · exact .inl (h.closed a ha b hab)
  · exact (h.edge_of_mem_component hb hs work hlow ha hab).symm

/-- What a module closes is all that reaches it and is reached from it. -/
theorem mem_component_iff_mutual (h : Linked g entry s) (hb : Bookkeeping g entry s)
    (hs : Scanned g s) (work : s.work = ⟨name, []⟩ :: frames)
    (hlow : s.lowOf name = s.indexOf name) : a ∈ s.component name ↔ g.Mutual name a := by
  refine ⟨h.mutual_of_mem_component hb work, fun hm => ?_⟩
  have hself : name ∈ s.modules ++ s.component name :=
    List.mem_append_right _ (State.mem_component.2 (.inl rfl))
  have ha : a ∈ s.modules ++ s.component name :=
    hm.1.mem_of_closed (h.closed_append_component hb hs work hlow) hself
  rcases List.mem_append.1 ha with ha | ha
  · have hlisted : name ∈ s.modules := hm.2.mem_of_closed h.closed ha
    exact absurd (hb.top_mem_stack work) (hb.notMem_stack_of_mem_modules hlisted)
  · exact ha

theorem lowOf_pass_of_lt (h : Linked g entry s) (hlow : s.lowOf name = s.indexOf name)
    (ha : a ∈ s.stack) (hlt : s.indexOf a < s.indexOf name) :
    (s.pass name frames).lowOf a = s.lowOf a := by
  cases frames with
  | nil => rfl
  | cons parent below =>
    rw [State.lowOf_pass_cons]
    split_ifs with hparent
    · have hle := (h.low a ha).le
      rw [hparent]
      omega
    · rfl

theorem close (h : Linked g entry s) (hb : Bookkeeping g entry s) (hs : Scanned g s)
    (work : s.work = ⟨name, []⟩ :: frames) (hlow : s.lowOf name = s.indexOf name) :
    Linked g entry ((s.pass name frames).close name dependencies) := by
  have hname : name ∈ s.stack := hb.top_mem_stack work
  have hbelow {a : String} (ha : a ∈ s.below name) :
      a ∈ s.stack ∧ s.indexOf a < s.indexOf name := (hb.mem_below_iff hname).1 ha
  refine ⟨h.reached, h.closed_append_component hb hs work hlow,
    h.stack.sublist (s.below_sublist name), ?_, ?_⟩
  · intro a ha
    obtain ⟨hastack, hlt⟩ := hbelow ha
    obtain ⟨owner, ho⟩ := h.owned a hastack
    have hne : owner ≠ name := by
      rintro rfl
      exact absurd ho.le (Nat.not_le_of_lt hlt)
    obtain ⟨hway, hle, hlatest, hreach, hnumber⟩ := owns_pass work ho hne
    exact ⟨owner, hway, hle, hlatest, hreach, fun b hb' => hnumber b (hbelow hb').1⟩
  · intro a ha
    obtain ⟨hastack, hlt⟩ := hbelow ha
    obtain ⟨hle, b, hbstack, hbi, hreach⟩ := h.low a hastack
    refine ⟨(s.lowOf_pass_le name a _).trans hle, b, ?_, ?_, hreach⟩
    · exact (hb.mem_below_iff hname).2 ⟨hbstack, by omega⟩
    · exact hbi.trans (h.lowOf_pass_of_lt hlow hastack hlt).symm

theorem move (h : Linked g entry s) (hb : Bookkeeping g entry s) (hs : Scanned g s)
    (hm : Move g s s') : Linked g entry s' := by
  cases hm with
  | @absent name dependency rest frames work unknown =>
    refine h.look hb work rfl rfl rfl rfl (fun _ => Nat.le_refl _)
      (fun a ha => (h.low a ha).reached) ?_
    intro hstack
    have hstored := hb.stored dependency (hb.mem_found_of_mem_stack hstack)
    simp [unknown] at hstored
  | discover work stored new => exact h.discover hb hs work stored new
  | back work stored number waiting => exact h.back hb hs work stored number waiting
  | cross work stored number settled =>
    refine h.look hb work rfl rfl rfl rfl (fun _ => Nat.le_refl _)
      (fun a ha => (h.low a ha).reached) ?_
    exact fun hstack => absurd ((hb.onStack_iff _).2 hstack) settled
  | keep work low => exact h.keep hb work low
  | close work low => exact h.close hb hs work low

theorem start (h : g entry = some dependencies) :
    Linked g entry (State.start entry dependencies) := by
  have hstack : (State.start entry dependencies).stack = [entry] := rfl
  have hlow : (State.start entry dependencies).lowOf entry =
      (State.start entry dependencies).indexOf entry := by
    rw [State.start, State.lowOf_discover, State.indexOf_discover, if_pos rfl, if_pos rfl]
  constructor
  · intro a ha
    rw [State.found_start, List.mem_singleton] at ha
    rw [ha]
  · intro a ha
    exact absurd ha List.not_mem_nil
  · exact List.pairwise_singleton _ _
  · intro a ha
    rw [hstack, List.mem_singleton] at ha
    subst ha
    exact ⟨a, owns_discovered h⟩
  · intro a ha
    rw [hstack, List.mem_singleton] at ha
    subst ha
    exact ⟨hlow.le, a, List.mem_cons_self, hlow.symm, .refl⟩

end ModulePack.Order.Linked
