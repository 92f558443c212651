import ModulePack.Proofs.Json.RoundTrip

/-!
# The characters of JSON texts

No control character stands in the JSON text of a value, whatever it holds, but for the line feeds
of a layout that has lines.
-/

namespace ModulePack.Json

variable {l : Layout} {c : Char} {cs ds : List Char}

def Layout.Allows (l : Layout) (c : Char) : Prop := 0x20 ≤ c.toNat ∨ l.indent.isSome ∧ c = '\n'

def Layout.AllowsAll (l : Layout) (cs : List Char) : Prop := ∀ c ∈ cs, l.Allows c

namespace Layout.AllowsAll

theorem nil : l.AllowsAll [] := by simp [AllowsAll]

theorem cons (hc : 0x20 ≤ c.toNat) (h : l.AllowsAll cs) : l.AllowsAll (c :: cs) :=
  List.forall_mem_cons.2 ⟨.inl hc, h⟩

theorem append (h : l.AllowsAll cs) (h' : l.AllowsAll ds) : l.AllowsAll (cs ++ ds) :=
  List.forall_mem_append.2 ⟨h, h'⟩

theorem singleton (hc : 0x20 ≤ c.toNat) : l.AllowsAll [c] := cons hc nil

theorem subset (h : l.AllowsAll cs) (hsub : ds ⊆ cs) : l.AllowsAll ds := fun c hc => h c (hsub hc)

theorem of_all (h : cs.all fun c => 0x20 ≤ c.toNat) : l.AllowsAll cs :=
  fun c hc => .inl (of_decide_eq_true (List.all_eq_true.1 h c hc))

theorem of_digits (h : ∀ c ∈ cs, Decimal.isAsciiDigit c) : l.AllowsAll cs := by
  intro c hc
  have hdigit := h c hc
  simp only [Decimal.isAsciiDigit, Bool.and_eq_true, decide_eq_true_eq] at hdigit
  left
  exact Nat.le_trans (by decide) (show '0'.toNat ≤ c.toNat from hdigit.1)

end Layout.AllowsAll

theorem le_toNat_hexDigit (n : Nat) : 0x20 ≤ (Text.hexDigit (n % 16)).toNat := by
  have h : n % 16 < 16 := Nat.mod_lt n (by decide)
  generalize n % 16 = d at h
  interval_cases d <;> decide

theorem allowsAll_hexDigits (width n : Nat) : l.AllowsAll (Text.hexDigits width n) := by
  induction width generalizing n with
  | zero => exact .nil
  | succ width ih => exact (ih _).append (.singleton (le_toNat_hexDigit n))

theorem allowsAll_escapeUnit (n : Nat) : l.AllowsAll (escapeUnit n) :=
  .cons (by decide) (.cons (by decide) (allowsAll_hexDigits 4 n))

theorem allowsAll_escapeUnits (c : Char) : l.AllowsAll (escapeUnits c) := by
  rw [escapeUnits]
  split_ifs
  · exact allowsAll_escapeUnit _
  · exact (allowsAll_escapeUnit _).append (allowsAll_escapeUnit _)

theorem allowsAll_escapeChar (asciiOnly : Bool) (c : Char) :
    l.AllowsAll (escapeChar asciiOnly c) := by
  rw [escapeChar]
  split_ifs with _ _ _ _ _ _ _ hcontrol
  any_goals exact .cons (by decide) (.singleton (by decide))
  · exact allowsAll_escapeUnit _
  · exact allowsAll_escapeUnits c
  · exact .singleton (Nat.le_of_not_lt hcontrol)

theorem allowsAll_renderText (s : String) : l.AllowsAll (renderText l s) := by
  refine .cons (by decide) (.append ?_ (.singleton (by decide)))
  intro c hc
  obtain ⟨d, -, hd⟩ := List.mem_flatMap.1 hc
  exact allowsAll_escapeChar _ d c hd

theorem allowsAll_lineBreak (depth : Nat) : l.AllowsAll (lineBreak l depth) := by
  unfold lineBreak
  split
  · exact .nil
  · next width hindent =>
    refine List.forall_mem_cons.2 ⟨.inr ⟨by rw [hindent]; rfl, rfl⟩, fun c hc => .inl ?_⟩
    rw [List.eq_of_mem_replicate hc]
    decide

theorem allowsAll_colon : l.AllowsAll (colon l) := by
  unfold colon
  split
  · exact .cons (by decide) (.singleton (by decide))
  · exact .singleton (by decide)

theorem allowsAll_render_int (depth : Nat) (n : Int) : l.AllowsAll (render l depth (.int n)) := by
  have hdigits : l.AllowsAll (digitsOf n.natAbs) :=
    .of_digits fun c hc => isAsciiDigit_of_mem_digitsOf hc
  rw [render_int]
  split_ifs
  · exact hdigits.cons (by decide)
  · exact hdigits

theorem allowsAll_decimalDigits (n : Nat) : l.AllowsAll (Decimal.digitsOf n) := by
  rw [Decimal.digitsOf, Nat.toList_repr]
  exact .of_digits fun c hc => isAsciiDigit_of_mem_digitsOf hc

theorem allowsAll_zeros (count : Nat) : l.AllowsAll (List.replicate count '0') := by
  intro c hc
  rw [List.eq_of_mem_replicate hc]
  exact .inl (by decide)

theorem allowsAll_exponentText (e : Int) : l.AllowsAll (Decimal.exponentText e) := by
  have hdigits : l.AllowsAll (Decimal.digitsOf e.natAbs) := allowsAll_decimalDigits _
  have hpadded : l.AllowsAll (if (Decimal.digitsOf e.natAbs).length < 2
      then '0' :: Decimal.digitsOf e.natAbs else Decimal.digitsOf e.natAbs) := by
    split
    · exact hdigits.cons (by decide)
    · exact hdigits
  rw [Decimal.exponentText]
  split
  · exact hpadded.cons (by decide)
  · exact hpadded.cons (by decide)

theorem allowsAll_scaledText (d : Decimal.Scaled) : l.AllowsAll d.text := by
  have hdigits : l.AllowsAll (Decimal.digitsOf d.digits) := allowsAll_decimalDigits _
  have htake (n : Nat) : l.AllowsAll ((Decimal.digitsOf d.digits).take n) :=
    hdigits.subset (List.take_subset _ _)
  have hdrop (n : Nat) : l.AllowsAll ((Decimal.digitsOf d.digits).drop n) :=
    hdigits.subset (List.drop_subset _ _)
  simp only [Decimal.Scaled.text]
  split
  · split
    · exact (((allowsAll_zeros _).cons (by decide)).cons (by decide)).append hdigits
    · split
      · have htail : l.AllowsAll ['.', '0'] := .of_all rfl
        exact (hdigits.append (allowsAll_zeros _)).append htail
      · exact (htake _).append ((hdrop _).cons (by decide))
  · refine ((htake 1).append ?_).append ((allowsAll_exponentText _).cons (by decide))
    split
    · exact .nil
    · exact (hdrop 1).cons (by decide)

theorem allowsAll_floatText (x : Float) : l.AllowsAll (Decimal.text floatNames x).toList := by
  have hsign (negative : Bool) : l.AllowsAll (if negative then "-" else "").toList := by
    cases negative
    · exact .nil
    · exact .singleton (by decide)
  simp only [Decimal.text]
  split
  · rw [String.toList_append, String.toList_ofList]
    exact (hsign _).append (allowsAll_scaledText _)
  · rw [String.toList_append]
    exact (hsign _).append (.of_all rfl)
  · exact .of_all rfl

mutual

/-- A value is written without control characters but for line feeds between lines. -/
theorem allowsAll_render (depth : Nat) : (v : Value) → l.AllowsAll (render l depth v)
  | .null => .of_all rfl
  | .bool true => .of_all rfl
  | .bool false => .of_all rfl
  | .int n => allowsAll_render_int depth n
  | .float x => allowsAll_floatText x
  | .text s => allowsAll_renderText s
  | .moment m => allowsAll_renderText m.text
  | .list [] => .of_all rfl
  | .list (v :: rest) =>
    ((allowsAll_lineBreak _).cons (by decide)).append (allowsAll_render _ v) |>.append
      (allowsAll_renderItems _ rest) |>.append (allowsAll_lineBreak _) |>.append
      (.singleton (by decide))
  | .table [] => .of_all rfl
  | .table ((key, v) :: rest) =>
    ((allowsAll_lineBreak _).cons (by decide)).append (allowsAll_renderText key) |>.append
      allowsAll_colon |>.append (allowsAll_render _ v) |>.append (allowsAll_renderFields _ rest)
      |>.append (allowsAll_lineBreak _) |>.append (.singleton (by decide))

theorem allowsAll_renderItems (depth : Nat) :
    (items : List Value) → l.AllowsAll (renderItems l depth items)
  | [] => .nil
  | v :: rest =>
    ((allowsAll_lineBreak depth).cons (by decide)).append (allowsAll_render depth v) |>.append
      (allowsAll_renderItems depth rest)

theorem allowsAll_renderFields (depth : Nat) :
    (fields : List (String × Value)) → l.AllowsAll (renderFields l depth fields)
  | [] => .nil
  | (key, v) :: rest =>
    ((allowsAll_lineBreak depth).cons (by decide)).append (allowsAll_renderText key) |>.append
      allowsAll_colon |>.append (allowsAll_render depth v) |>.append
      (allowsAll_renderFields depth rest)

end

/-- A text without lines of its own holds no control character at all. -/
theorem le_toNat_of_mem_compact {v : Value} (h : c ∈ (print .compact v).toList) :
    0x20 ≤ c.toNat := by
  rw [print, String.toList_ofList] at h
  rcases allowsAll_render 0 v c h with hplain | ⟨hlines, -⟩
  · exact hplain
  · cases hlines

end ModulePack.Json
