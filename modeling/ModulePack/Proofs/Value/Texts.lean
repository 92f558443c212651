import Mathlib.Data.List.GetD
import Mathlib.Data.List.InsertIdx
import ModulePack.Value.Order

/-!
# Putting texts in order

Values that cannot be compared stop a sort. Texts can all be compared with one another, so they can
always be sorted.
-/

namespace ModulePack.Value

variable {v last : Value} {values sorted : List Value}

def IsText (v : Value) : Prop := ∃ s, v = .text s

theorem exists_isBefore_eq_ok (hv : v.IsText) (hlast : last.IsText) :
    ∃ b, v.isBefore last = .ok b := by
  obtain ⟨s, rfl⟩ := hv
  obtain ⟨t, rfl⟩ := hlast
  exact ⟨decide (s < t), by rw [isBefore, less?]⟩

theorem exists_splitRun_eq_ok (falling : Bool) (hlast : last.IsText)
    (h : ∀ v ∈ values, v.IsText) :
    ∃ run rest, splitRun falling last values = .ok (run, rest) ∧ run ++ rest = values := by
  induction values generalizing last with
  | nil => exact ⟨[], [], rfl, rfl⟩
  | cons v values ih =>
    rw [List.forall_mem_cons] at h
    obtain ⟨b, hb⟩ := exists_isBefore_eq_ok h.1 hlast
    obtain ⟨run, rest, hrun, hvalues⟩ := ih h.1 h.2
    rw [splitRun, hb]
    by_cases hfalls : b = falling
    · refine ⟨v :: run, rest, ?_, congrArg (v :: ·) hvalues⟩
      simp [bind, Except.bind, hfalls, hrun, pure, Except.pure]
    · exact ⟨[], v :: values, by simp [bind, Except.bind, hfalls, pure, Except.pure], rfl⟩

/-- The places that are halved all lie among the sorted values. -/
theorem exists_placeOf_eq_ok (hv : v.IsText) (h : ∀ w ∈ sorted, w.IsText) (fuel low : Nat)
    {high : Nat} (hhigh : high ≤ sorted.length) :
    ∃ place, placeOf v sorted fuel low high = .ok place := by
  induction fuel generalizing low high with
  | zero => exact ⟨low, rfl⟩
  | succ fuel ih =>
    rw [placeOf]
    by_cases hlow : low < high
    · have hmiddle : (low + high) / 2 < sorted.length := by omega
      have htext : (sorted.getD ((low + high) / 2) .null).IsText := by
        rw [List.getD_eq_getElem _ _ hmiddle]
        exact h _ (List.getElem_mem hmiddle)
      obtain ⟨b, hb⟩ := exists_isBefore_eq_ok hv htext
      simp only [hlow, if_true, hb, bind, Except.bind]
      cases b with
      | true => exact ih low (by omega)
      | false => exact ih _ hhigh
    · exact ⟨low, by rw [if_neg hlow]; rfl⟩

theorem exists_insertSorted_eq_ok (hv : v.IsText) (h : ∀ w ∈ sorted, w.IsText) :
    ∃ sorted', insertSorted sorted v = .ok sorted' ∧ ∀ w ∈ sorted', w.IsText := by
  obtain ⟨place, hplace⟩ := exists_placeOf_eq_ok hv h sorted.length 0 (Nat.le_refl _)
  refine ⟨sorted.insertIdx place v, by rw [insertSorted, hplace]; rfl, fun w hw => ?_⟩
  rcases List.eq_or_mem_of_mem_insertIdx hw with rfl | hw
  · exact hv
  · exact h w hw

theorem exists_foldlM_insertSorted_eq_ok (h : ∀ v ∈ values, v.IsText)
    (hsorted : ∀ w ∈ sorted, w.IsText) :
    ∃ sorted', values.foldlM insertSorted sorted = .ok sorted' := by
  induction values generalizing sorted with
  | nil => exact ⟨sorted, rfl⟩
  | cons v values ih =>
    rw [List.forall_mem_cons] at h
    obtain ⟨sorted', hinsert, htexts⟩ := exists_insertSorted_eq_ok h.1 hsorted
    obtain ⟨result, hresult⟩ := ih h.2 htexts
    exact ⟨result, by rw [List.foldlM_cons, hinsert]; exact hresult⟩

theorem exists_sorted_eq_ok (h : ∀ v ∈ values, v.IsText) :
    ∃ sorted', Value.sorted values = .ok sorted' := by
  match values, h with
  | [], _ => exact ⟨[], rfl⟩
  | [v], _ => exact ⟨[v], rfl⟩
  | v :: w :: rest, h =>
    obtain ⟨hv, hw, hrest⟩ : v.IsText ∧ w.IsText ∧ ∀ x ∈ rest, x.IsText := by simpa using h
    obtain ⟨falling, hfalling⟩ := exists_isBefore_eq_ok hw hv
    obtain ⟨run, tail, hrun, rfl⟩ := exists_splitRun_eq_ok falling hw hrest
    have htexts : ∀ x ∈ v :: w :: run, x.IsText := by grind
    have hstart : ∀ x ∈ (if falling then (v :: w :: run).reverse else v :: w :: run), x.IsText := by
      split
      · exact fun x hx => htexts x (List.mem_reverse.1 hx)
      · exact htexts
    obtain ⟨result, hresult⟩ := exists_foldlM_insertSorted_eq_ok
      (fun x hx => hrest x (List.mem_append_right run hx)) hstart
    exact ⟨result, by rw [Value.sorted, hfalling]; simpa [bind, Except.bind, hrun] using hresult⟩

end ModulePack.Value
