import Mathlib.Data.List.Forall2

/-!
# Results of parts

What is done part by part succeeds if each part does, and comes to what the parts come to.
-/

namespace ModulePack

variable {α β ε : Type}

theorem bind_eq_ok_iff {x : Except ε α} {f : α → Except ε β} {b : β} :
    x >>= f = .ok b ↔ ∃ a, x = .ok a ∧ f a = .ok b := by
  cases x <;> simp [bind, Except.bind]

theorem mapError_eq_ok_iff {ε' : Type} {x : Except ε α} {f : ε → ε'} {a : α} :
    x.mapError f = .ok a ↔ x = .ok a := by
  cases x <;> simp [Except.mapError]

theorem mapM_eq_ok_iff {f : α → Except ε β} {as : List α} {bs : List β} :
    as.mapM f = .ok bs ↔ List.Forall₂ (fun a b => f a = .ok b) as bs := by
  induction as generalizing bs with
  | nil => simp [pure, Except.pure, eq_comm]
  | cons a as ih =>
    simp only [List.mapM_cons, bind_eq_ok_iff, ih, List.forall₂_cons_left_iff, pure, Except.pure,
      Except.ok.injEq]
    grind

theorem exists_forall₂_iff {R : α → β → Prop} {as : List α} :
    (∃ bs, List.Forall₂ R as bs) ↔ ∀ a ∈ as, ∃ b, R a b := by
  induction as with
  | nil => simp
  | cons a as ih =>
    simp only [List.forall₂_cons_left_iff, List.forall_mem_cons, ← ih]
    grind

theorem exists_mapM_eq_ok_iff {f : α → Except ε β} {as : List α} :
    (∃ bs, as.mapM f = .ok bs) ↔ ∀ a ∈ as, ∃ b, f a = .ok b := by
  simp only [mapM_eq_ok_iff, exists_forall₂_iff]

theorem mem_iff_of_mapM_eq_ok {f : α → Except ε β} {as : List α} {bs : List β}
    (h : as.mapM f = .ok bs) {b : β} : b ∈ bs ↔ ∃ a ∈ as, f a = .ok b := by
  induction mapM_eq_ok_iff.1 h with
  | nil => simp
  | cons hab hrest ih =>
    simp [ih (mapM_eq_ok_iff.2 hrest), hab, eq_comm]

/-- What is done part by part fails with the first part that fails. -/
theorem exists_of_mapM_eq_error {f : α → Except ε β} {as : List α} {e : ε}
    (h : as.mapM f = .error e) :
    ∃ before a after, as = before ++ a :: after ∧ (∀ b ∈ before, ∃ y, f b = .ok y) ∧
      f a = .error e := by
  induction as with
  | nil => cases h
  | cons a as ih =>
    rw [List.mapM_cons] at h
    cases hfirst : f a with
    | error other =>
      rw [hfirst] at h
      cases h
      exact ⟨[], a, as, rfl, by simp, hfirst⟩
    | ok b =>
      rw [hfirst] at h
      cases hrest : as.mapM f with
      | ok bs =>
        rw [hrest] at h
        cases h
      | error other =>
        rw [hrest] at h
        cases h
        obtain ⟨before, c, after, rfl, hbefore, hc⟩ := ih hrest
        exact ⟨a :: before, c, after, rfl, List.forall_mem_cons.2 ⟨⟨b, hfirst⟩, hbefore⟩, hc⟩

/-- Parts that come to other results come to them together, unless one of them is refused. -/
theorem mapM_eq_map_or_error {f g : α → Except ε β} {change : β → β} {refused : β → ε}
    {P : β → Prop} {as : List α} {bs : List β} (hf : as.mapM f = .ok bs)
    (hg : ∀ a ∈ as, ∀ b, f a = .ok b →
      ¬ P b ∧ g a = .ok (change b) ∨ P b ∧ g a = .error (refused b)) :
    ((∀ b ∈ bs, ¬ P b) ∧ as.mapM g = .ok (bs.map change)) ∨
      ∃ b ∈ bs, P b ∧ as.mapM g = .error (refused b) := by
  induction mapM_eq_ok_iff.1 hf with
  | nil => exact .inl ⟨by simp, rfl⟩
  | @cons a b as bs hab hrest ih =>
    rw [List.forall_mem_cons] at hg
    rw [List.mapM_cons]
    rcases hg.1 b hab with ⟨hb, hga⟩ | ⟨hb, hga⟩
    · rw [hga]
      rcases ih (mapM_eq_ok_iff.2 hrest) hg.2 with ⟨hall, has⟩ | ⟨c, hc, hrefused, has⟩
      · exact .inl ⟨List.forall_mem_cons.2 ⟨hb, hall⟩, by rw [has]; rfl⟩
      · exact .inr ⟨c, List.mem_cons_of_mem _ hc, hrefused, by rw [has]; rfl⟩
    · exact .inr ⟨b, List.mem_cons_self, hb, by rw [hga]; rfl⟩

theorem toOption_ok (a : α) : (Except.ok a : Except ε α).toOption = some a := rfl

theorem toOption_eq_some_iff {x : Except ε α} {a : α} : x.toOption = some a ↔ x = .ok a := by
  cases x <;> simp [Except.toOption]

theorem toOption_bind (x : Except ε α) (g : α → Except ε β) :
    (x >>= g).toOption = x.toOption.bind fun a => (g a).toOption := by
  cases x <;> rfl

theorem toOption_mapError {ε' : Type} (x : Except ε α) (g : ε → ε') :
    (x.mapError g).toOption = x.toOption := by
  cases x <;> rfl

theorem toOption_mapM (as : List α) (g : α → Except ε β) :
    (as.mapM g).toOption = as.mapM fun a => (g a).toOption := by
  induction as with
  | nil => rfl
  | cons a as ih =>
    simp only [List.mapM_cons, toOption_bind, ih]
    rfl

theorem mapM_eq_mapM_of_forall {as : List α} {g h : α → Option β} (hgh : ∀ a ∈ as, g a = h a) :
    as.mapM g = as.mapM h := by
  induction as with
  | nil => rfl
  | cons a as ih =>
    rw [List.forall_mem_cons] at hgh
    rw [List.mapM_cons, List.mapM_cons, hgh.1, ih hgh.2]

theorem mapM_eq_none {as : List α} {g : α → Option β} {a : α} (ha : a ∈ as) (hg : g a = none) :
    as.mapM g = none := by
  induction as with
  | nil => simp at ha
  | cons b as ih =>
    rw [List.mapM_cons]
    rcases List.mem_cons.1 ha with rfl | ha
    · rw [hg]
      rfl
    · rw [ih ha]
      cases g b <;> rfl

end ModulePack
