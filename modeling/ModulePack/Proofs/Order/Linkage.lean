import Mathlib.Data.List.Pairwise
import ModulePack.Proofs.Order.Scan

/-!
# How the modules on the stack reach each other

Of two modules on the stack the one found first reaches the other. Each belongs to an owner on the
way, the last one found no later than itself, which it reaches; of the modules that have been looked
at from it, none on the stack has a number below the least that its owner knows to be reached.
-/

namespace ModulePack.Order

namespace State

variable {s : State} {name a : String}

theorem lowOf_insert (s : State) (name a : String) (n : Nat) :
    State.lowOf { s with low := s.low.insert name n } a = if name = a then n else s.lowOf a := by
  rw [lowOf, Dictionary.find?_insert]
  split_ifs <;> rfl

theorem lowOf_lower_le (s : State) (name a : String) (n : Nat) :
    (s.lower name n).lowOf a ≤ s.lowOf a := by
  rw [lower, lowOf_insert]
  split_ifs with h
  · exact h ▸ Nat.min_le_left _ _
  · exact Nat.le_refl _

theorem lowOf_pass_cons (s : State) (name a : String) (parent : Frame) (frames : List Frame) :
    (s.pass name (parent :: frames)).lowOf a =
      if parent.name = a then min (s.lowOf parent.name) (s.lowOf name) else s.lowOf a :=
  s.lowOf_insert parent.name a _

theorem lowOf_pass_le (s : State) (name a : String) (frames : List Frame) :
    (s.pass name frames).lowOf a ≤ s.lowOf a := by
  cases frames with
  | nil => exact Nat.le_refl _
  | cons parent frames =>
    rw [lowOf_pass_cons]
    split_ifs with h
    · exact h ▸ Nat.min_le_left _ _
    · exact Nat.le_refl _

theorem indexOf_discover (s : State) (name a : String) (dependencies : List String) :
    (s.discover name dependencies).indexOf a =
      if name = a then s.index.length else s.indexOf a := by
  rw [indexOf, discover, Dictionary.find?_insert]
  split_ifs <;> rfl

theorem lowOf_discover (s : State) (name a : String) (dependencies : List String) :
    (s.discover name dependencies).lowOf a = if name = a then s.index.length else s.lowOf a := by
  rw [lowOf, discover, Dictionary.find?_insert]
  split_ifs <;> rfl

end State

/-- `owner` is on the way and answers for `a`. -/
structure Owns (g : Graph) (s : State) (owner a : String) : Prop where
  way : owner ∈ s.way
  le : s.indexOf owner ≤ s.indexOf a
  latest : ∀ b ∈ s.way, s.indexOf b ≤ s.indexOf a → s.indexOf b ≤ s.indexOf owner
  reaches : g.Reaches a owner
  low : ∀ b ∈ s.stack, g.Edge a b → Pending s.work a b ∨ s.lowOf owner ≤ s.indexOf b

/-- The least number known to be reached from `a` is that of a module on the stack. -/
structure LowKnown (g : Graph) (s : State) (a : String) : Prop where
  le : s.lowOf a ≤ s.indexOf a
  reached : ∃ b ∈ s.stack, s.indexOf b = s.lowOf a ∧ g.Reaches a b

structure Linked (g : Graph) (entry : String) (s : State) : Prop where
  reached : ∀ a ∈ s.found, g.Reaches entry a
  closed : ∀ a ∈ s.modules, ∀ b, g.Edge a b → b ∈ s.modules
  stack : s.stack.Pairwise (fun later earlier => g.Reaches earlier later)
  owned : ∀ a ∈ s.stack, ∃ owner, Owns g s owner a
  low : ∀ a ∈ s.stack, LowKnown g s a

namespace Linked

variable {g : Graph} {entry : String} {s s' : State} {a b name dependency : String}
  {rest dependencies : List String} {frames : List Frame}

theorem reaches_of_indexOf_le (h : Linked g entry s) (hb : Bookkeeping g entry s)
    (hastack : a ∈ s.stack) (hbstack : b ∈ s.stack) (hle : s.indexOf a ≤ s.indexOf b) :
    g.Reaches a b := by
  let R (x y : String) : Prop :=
    (s.indexOf x ≤ s.indexOf y → g.Reaches x y) ∧ (s.indexOf y ≤ s.indexOf x → g.Reaches y x)
  have hsymm : Std.Symm R := ⟨fun _ _ hxy => ⟨hxy.2, hxy.1⟩⟩
  have hp : s.stack.Pairwise R := by
    refine (h.stack.and hb.stack_sorted).imp ?_
    rintro later earlier ⟨hreach, hlt⟩
    exact ⟨fun hge => absurd hge (Nat.not_le_of_lt hlt), fun _ => hreach⟩
  have hrefl : ∀ x ∈ s.stack, R x x := fun x _ => ⟨fun _ => .refl, fun _ => .refl⟩
  exact (hp.forall_of_forall hrefl hastack hbstack).1 hle

/-- The owner of a module is the last one on the way that was found no later. -/
theorem eq_of_owns (hb : Bookkeeping g entry s) {owner : String} (ho : Owns g s owner a)
    (hname : name ∈ s.way) (hle : s.indexOf name ≤ s.indexOf a)
    (hge : s.indexOf owner ≤ s.indexOf name) : owner = name :=
  hb.indexOf_inj (hb.mem_found_of_mem_way ho.way) (hb.mem_found_of_mem_way hname)
    (Nat.le_antisymm hge (ho.latest name hname hle))

/-- All that is on the stack reaches the module on top of the way. -/
theorem reaches_top (h : Linked g entry s) (hb : Bookkeeping g entry s)
    (work : s.work = ⟨name, rest⟩ :: frames) (ha : a ∈ s.stack) : g.Reaches a name := by
  obtain ⟨owner, ho⟩ := h.owned a ha
  exact ho.reaches.trans (h.reaches_of_indexOf_le hb (hb.mem_stack_of_mem_way ho.way)
    (hb.top_mem_stack work) (hb.indexOf_le_top work ho.way))

/-- A look that finds nothing keeps the links, where the numbers it lowers are reached. -/
theorem look (h : Linked g entry s) (hb : Bookkeeping g entry s)
    (work : s.work = ⟨name, dependency :: rest⟩ :: frames)
    (work' : s'.work = ⟨name, rest⟩ :: frames) (hindex : s'.index = s.index)
    (hstack : s'.stack = s.stack) (hmodules : s'.modules = s.modules)
    (hlow : ∀ a, s'.lowOf a ≤ s.lowOf a)
    (hknown : ∀ a ∈ s.stack, ∃ b ∈ s.stack, s.indexOf b = s'.lowOf a ∧ g.Reaches a b)
    (hdependency : dependency ∈ s.stack → s'.lowOf name ≤ s.indexOf dependency) :
    Linked g entry s' := by
  have hfound : s'.found = s.found := by rw [State.found, State.found, hindex]
  have hindexOf (a : String) : s'.indexOf a = s.indexOf a := by
    rw [State.indexOf, State.indexOf, hindex]
  have hway : s'.way = s.way := by simp [State.way, work, work']
  constructor
  · rw [hfound]
    exact h.reached
  · rw [hmodules]
    exact h.closed
  · rw [hstack]
    exact h.stack
  · intro a ha
    rw [hstack] at ha
    obtain ⟨owner, ho⟩ := h.owned a ha
    refine ⟨owner, ?_, ?_, ?_, ho.reaches, ?_⟩
    · rw [hway]
      exact ho.way
    · simpa only [hindexOf] using ho.le
    · simpa only [hindexOf, hway] using ho.latest
    · intro b hbstack hab
      rw [hstack] at hbstack
      rw [work', hindexOf]
      rcases ho.low b hbstack hab with hp | hle
      · rw [work] at hp
        rcases hp.look with hp | ⟨rfl, rfl⟩
        · exact .inl hp
        · have haway : a ∈ s.way := State.way_eq work ▸ List.mem_cons_self
          have hown : owner = a := eq_of_owns hb ho haway (Nat.le_refl _) ho.le
          exact .inr (hown ▸ hdependency hbstack)
      · exact .inr ((hlow owner).trans hle)
  · intro a ha
    rw [hstack] at ha
    constructor
    · rw [hindexOf]
      exact (hlow a).trans (h.low a ha).le
    · simpa only [hstack, hindexOf] using hknown a ha

theorem back (h : Linked g entry s) (hb : Bookkeeping g entry s) (hs : Scanned g s) {n : Nat}
    (work : s.work = ⟨name, dependency :: rest⟩ :: frames) (stored : (g dependency).isSome)
    (number : s.index.find? dependency = some n) (waiting : dependency ∈ s.onStack) :
    Linked g entry (State.lower { s with work := ⟨name, rest⟩ :: frames } name n) := by
  have hn : n = s.indexOf dependency := (hb.mem_found_of_find? number).2
  have hstack : dependency ∈ s.stack := (hb.onStack_iff dependency).1 waiting
  have hlow (a : String) :
      (State.lower { s with work := ⟨name, rest⟩ :: frames } name n).lowOf a =
        if name = a then min (s.lowOf name) n else s.lowOf a := s.lowOf_insert name a _
  refine h.look hb work rfl rfl rfl rfl (fun a => State.lowOf_lower_le _ _ _ _) ?_ ?_
  · intro a ha
    rw [hlow]
    split_ifs with hname
    · rcases Nat.le_total (s.lowOf name) n with hle | hle
      · rw [Nat.min_eq_left hle, hname]
        exact (h.low a ha).reached
      · rw [Nat.min_eq_right hle]
        exact ⟨dependency, hstack, hn.symm, hname ▸ .single (hs.edge_top work stored)⟩
    · exact (h.low a ha).reached
  · intro _
    rw [hlow, if_pos rfl, hn]
    exact Nat.min_le_right _ _

/-- Numbers of modules on the stack stay as they are where a further module is found. -/
theorem numbers_discover (frames : List Frame) (dependencies : List String)
    (hb : Bookkeeping g entry s) (new : s.index.find? dependency = none) (ha : a ∈ s.stack) :
    (State.discover { s with work := frames } dependency dependencies).indexOf a = s.indexOf a ∧
      (State.discover { s with work := frames } dependency dependencies).lowOf a = s.lowOf a := by
  have hne : dependency ≠ a := fun he =>
    Dictionary.find?_eq_none_iff.1 new (he ▸ hb.mem_found_of_mem_stack ha)
  rw [State.indexOf_discover, State.lowOf_discover, if_neg hne, if_neg hne]
  exact ⟨rfl, rfl⟩

theorem owns_discover (h : Linked g entry s) (hb : Bookkeeping g entry s) (hs : Scanned g s)
    (work : s.work = ⟨name, dependency :: rest⟩ :: frames)
    (new : s.index.find? dependency = none) {owner : String} (ha : a ∈ s.stack)
    (ho : Owns g s owner a) :
    Owns g (State.discover { s with work := ⟨name, rest⟩ :: frames } dependency dependencies)
      owner a := by
  have hnew : dependency ∉ s.found := Dictionary.find?_eq_none_iff.1 new
  have hway : s.way = name :: frames.map Frame.name := State.way_eq work
  have hlt {b : String} (hbstack : b ∈ s.stack) : s.indexOf b < s.index.length :=
    hb.indexOf_lt_length (hb.mem_found_of_mem_stack hbstack)
  have hostack : owner ∈ s.stack := hb.mem_stack_of_mem_way ho.way
  obtain ⟨hia, -⟩ := numbers_discover (⟨name, rest⟩ :: frames) dependencies hb new ha
  obtain ⟨hio, hlo⟩ := numbers_discover (⟨name, rest⟩ :: frames) dependencies hb new hostack
  refine ⟨?_, ?_, ?_, ho.reaches, ?_⟩
  · have hw : owner ∈ s.way := ho.way
    rw [hway] at hw
    exact List.mem_cons_of_mem _ hw
  · rw [hia, hio]
    exact ho.le
  · intro b hbway hle
    rw [hia] at hle
    rcases List.mem_cons.1 hbway with he | hbold
    · rw [State.indexOf_discover, if_pos he.symm] at hle
      exact absurd (hlt ha) (Nat.not_lt_of_le hle)
    · have hbold : b ∈ s.way := hway ▸ hbold
      rw [(numbers_discover _ _ hb new (hb.mem_stack_of_mem_way hbold)).1] at hle ⊢
      rw [hio]
      exact ho.latest b hbold hle
  · intro b hbstack hab
    rw [hlo]
    rcases List.mem_cons.1 hbstack with rfl | hbold
    · rw [State.indexOf_discover, if_pos rfl]
      rcases hs.found a (hb.mem_found_of_mem_stack ha) b hab with hp | hfb
      · rw [work] at hp
        rcases hp.look with hp | ⟨-, -⟩
        · exact .inl (pending_cons.2 (.inr hp))
        · exact .inr ((h.low owner hostack).le.trans (hlt hostack).le)
      · exact absurd hfb hnew
    · rw [(numbers_discover _ _ hb new hbold).1]
      rcases ho.low b hbold hab with hp | hle
      · rw [work] at hp
        rcases hp.look with hp | ⟨-, rfl⟩
        · exact .inl (pending_cons.2 (.inr hp))
        · exact absurd (hb.mem_found_of_mem_stack hbold) hnew
      · exact .inr hle

/-- A module that has just been found answers for itself. -/
theorem owns_discovered (stored : g dependency = some dependencies) :
    Owns g (s.discover dependency dependencies) dependency dependency := by
  refine ⟨List.mem_cons_self, Nat.le_refl _, fun _ _ hle => hle, .refl, ?_⟩
  intro b _ hab
  refine .inl (pending_cons.2 (.inl ⟨rfl, ?_⟩))
  rw [← Graph.dependencies_of_eq_some stored]
  exact hab.1

theorem discover (h : Linked g entry s) (hb : Bookkeeping g entry s) (hs : Scanned g s)
    (work : s.work = ⟨name, dependency :: rest⟩ :: frames)
    (stored : g dependency = some dependencies) (new : s.index.find? dependency = none) :
    Linked g entry (State.discover { s with work := ⟨name, rest⟩ :: frames } dependency
      dependencies) := by
  have hstored : (g dependency).isSome := by rw [stored]; rfl
  have hedge : g.Edge name dependency := hs.edge_top work hstored
  constructor
  · intro a ha
    rw [Bookkeeping.found_discover _ _ new, List.mem_append, List.mem_singleton] at ha
    rcases ha with ha | rfl
    · exact h.reached a ha
    · exact (h.reached name (hb.top_mem_found work)).tail hedge
  · exact h.closed
  · refine List.pairwise_cons.2 ⟨?_, h.stack⟩
    intro a ha
    exact (h.reaches_top hb work ha).tail hedge
  · intro a ha
    rcases List.mem_cons.1 ha with rfl | hold
    · exact ⟨a, owns_discovered stored⟩
    · obtain ⟨owner, ho⟩ := h.owned a hold
      exact ⟨owner, h.owns_discover hb hs work new hold ho⟩
  · intro a ha
    rcases List.mem_cons.1 ha with rfl | hold
    · have hsame : (State.discover { s with work := ⟨name, rest⟩ :: frames } a
          dependencies).lowOf a = (State.discover { s with work := ⟨name, rest⟩ :: frames } a
          dependencies).indexOf a := by
        rw [State.lowOf_discover, State.indexOf_discover, if_pos rfl, if_pos rfl]
      exact ⟨hsame.le, a, List.mem_cons_self, hsame.symm, .refl⟩
    · obtain ⟨hle, b, hbstack, hbi, hreach⟩ := h.low a hold
      obtain ⟨hia, hla⟩ := numbers_discover (⟨name, rest⟩ :: frames) dependencies hb new hold
      refine ⟨?_, b, List.mem_cons_of_mem _ hbstack, ?_, hreach⟩
      · rw [hia, hla]
        exact hle
      · rw [hla, (numbers_discover _ _ hb new hbstack).1]
        exact hbi

/-- A module that is left and reaches one found before it goes to its parent with all it owns. -/
theorem exists_parent (h : Linked g entry s) (hb : Bookkeeping g entry s)
    (work : s.work = ⟨name, []⟩ :: frames) (hlow : s.lowOf name ≠ s.indexOf name) :
    ∃ parent below, frames = parent :: below ∧ s.indexOf parent.name < s.indexOf name ∧
      g.Reaches name parent.name ∧
      ∀ b ∈ frames.map Frame.name, s.indexOf b ≤ s.indexOf parent.name := by
  have hway : s.way = name :: frames.map Frame.name := State.way_eq work
  obtain ⟨hle, b, hbstack, hbi, hreach⟩ := h.low name (hb.top_mem_stack work)
  obtain ⟨owner, ho⟩ := h.owned b hbstack
  have hlt : s.indexOf owner < s.indexOf name := by
    have := ho.le
    omega
  have hne : owner ≠ name := fun he => absurd hlt (he ▸ Nat.lt_irrefl _)
  have howner : owner ∈ frames.map Frame.name := (List.mem_cons.1 (hway ▸ ho.way)).resolve_left hne
  cases frames with
  | nil => simp at howner
  | cons parent below =>
    have hsub : ((parent :: below).map Frame.name).Sublist s.way :=
      hway ▸ List.sublist_cons_self _ _
    have hpass : Bookkeeping g entry { s with work := parent :: below } :=
      hb.of_eq rfl rfl rfl rfl hsub
    have htop : ∀ b ∈ (parent :: below).map Frame.name, s.indexOf b ≤ s.indexOf parent.name :=
      fun b hb' => hpass.indexOf_le_top rfl hb'
    have hpstack : parent.name ∈ s.stack := hpass.top_mem_stack rfl
    refine ⟨parent, below, rfl, hb.indexOf_lt_top work List.mem_cons_self, ?_, htop⟩
    exact (hreach.trans ho.reaches).trans (h.reaches_of_indexOf_le hb
      (hb.mem_stack_of_mem_way ho.way) hpstack (htop owner howner))

/-- An owner that is not the one left goes on to answer for what it owns. -/
theorem owns_pass (work : s.work = ⟨name, []⟩ :: frames) {owner : String}
    (ho : Owns g s owner a) (hne : owner ≠ name) : Owns g (s.pass name frames) owner a := by
  have hway : s.way = name :: frames.map Frame.name := State.way_eq work
  refine ⟨(List.mem_cons.1 (hway ▸ ho.way)).resolve_left hne, ho.le, ?_, ho.reaches, ?_⟩
  · exact fun b hbway hle => ho.latest b (hway ▸ List.mem_cons_of_mem _ hbway) hle
  · intro b hbstack hab
    rcases ho.low b hbstack hab with hp | hle
    · rw [work] at hp
      exact .inl hp.leave
    · exact .inr ((s.lowOf_pass_le name owner _).trans hle)

theorem keep (h : Linked g entry s) (hb : Bookkeeping g entry s)
    (work : s.work = ⟨name, []⟩ :: frames) (hlow : s.lowOf name ≠ s.indexOf name) :
    Linked g entry (s.pass name frames) := by
  have hname : name ∈ s.stack := hb.top_mem_stack work
  obtain ⟨parent, below, rfl, hlt, hreach, htop⟩ := h.exists_parent hb work hlow
  have hpway : parent.name ∈ s.way :=
    State.way_eq work ▸ List.mem_cons_of_mem _ List.mem_cons_self
  have hpstack : parent.name ∈ s.stack := hb.mem_stack_of_mem_way hpway
  have hlowOf (a : String) : (s.pass name (parent :: below)).lowOf a =
      if parent.name = a then min (s.lowOf parent.name) (s.lowOf name) else s.lowOf a :=
    s.lowOf_pass_cons name a parent below
  refine ⟨h.reached, h.closed, h.stack, ?_, ?_⟩
  · intro a ha
    obtain ⟨owner, ho⟩ := h.owned a ha
    by_cases hown : owner = name
    · -- What `name` answered for goes to its parent, whose number is now no greater.
      subst hown
      refine ⟨parent.name, List.mem_cons_self, hlt.le.trans ho.le, fun b hbway _ => htop b hbway,
        ho.reaches.trans hreach, ?_⟩
      intro b hbstack hab
      rcases ho.low b hbstack hab with hp | hle
      · rw [work] at hp
        exact .inl hp.leave
      · rw [hlowOf, if_pos rfl]
        exact .inr ((Nat.min_le_right _ _).trans hle)
    · exact ⟨owner, owns_pass work ho hown⟩
  · intro a ha
    refine ⟨(s.lowOf_pass_le name a _).trans (h.low a ha).le, ?_⟩
    rw [hlowOf]
    split_ifs with hparent
    · rcases Nat.le_total (s.lowOf parent.name) (s.lowOf name) with hle | hle
      · rw [Nat.min_eq_left hle]
        exact hparent ▸ (h.low parent.name hpstack).reached
      · obtain ⟨b, hbstack, hbi, hnb⟩ := (h.low name hname).reached
        rw [Nat.min_eq_right hle]
        have hpn : g.Reaches parent.name name :=
          h.reaches_of_indexOf_le hb hpstack hname hlt.le
        exact ⟨b, hbstack, hbi, hparent ▸ hpn.trans hnb⟩
    · exact (h.low a ha).reached

end Linked

end ModulePack.Order
