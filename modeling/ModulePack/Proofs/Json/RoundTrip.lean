import ModulePack.Proofs.Json.Number
import ModulePack.Proofs.Json.Text

/-!
# Reading what was written

A value without floating point numbers and moments, in which whole numbers are not too long and no
table has a key twice, is read back from its JSON text in each layout, if it has no more levels than
are read.
-/

namespace ModulePack.Json

/-- A value of at most so many levels that its JSON text determines. -/
inductive Plain : (levels : Nat) → Value → Prop
  | null {levels : Nat} : Plain levels .null
  | bool {levels : Nat} (b : Bool) : Plain levels (.bool b)
  | int {levels : Nat} {n : Int} (short : isLongNumber n = false) : Plain levels (.int n)
  | text {levels : Nat} (s : String) : Plain levels (.text s)
  | list {levels : Nat} {items : List Value} (plain : ∀ v ∈ items, Plain levels v) :
    Plain (levels + 1) (.list items)
  | table {levels : Nat} {fields : List (String × Value)}
    (distinct : (Dictionary.keys fields).Nodup)
    (plain : ∀ key v, (key, v) ∈ fields → Plain levels v) : Plain (levels + 1) (.table fields)

variable {l : Layout} {depth outer fuel levels : Nat} {v : Value} {c : Char} {cs rest : List Char}

theorem Plain.texts (names : List String) : Plain (levels + 1) (.list (names.map .text)) := by
  refine .list fun v hv => ?_
  obtain ⟨name, -, rfl⟩ := List.mem_map.1 hv
  exact .text name

theorem skipSpace_cons (h : isSpace c = false) : skipSpace (c :: cs) = c :: cs := by
  simp [skipSpace, h]

theorem skipSpace_lineBreak : skipSpace (lineBreak l depth ++ cs) = skipSpace cs := by
  unfold lineBreak
  split
  · rfl
  · rw [List.cons_append, skipSpace, List.dropWhile_cons_of_pos rfl, skipSpace]
    refine List.dropWhile_append_of_pos fun c hc => ?_
    rw [List.eq_of_mem_replicate hc]
    rfl

theorem followsValue_lineBreak (h : c = ']' ∨ c = '\x7d') :
    FollowsValue (lineBreak l depth ++ c :: rest) := by
  unfold lineBreak
  split
  · exact followsValue_cons (by tauto)
  · exact followsValue_cons (by tauto)

/-- How the text of a value begins: with no blank, and not like the end of a list. -/
def StartsValue (cs : List Char) : Prop := ∃ c rest, cs = c :: rest ∧ isSpace c = false ∧ c ≠ ']'

theorem StartsValue.skipSpace_append (h : StartsValue cs) :
    skipSpace (cs ++ rest) = cs ++ rest := by
  obtain ⟨c, tail, rfl, hc, -⟩ := h
  exact skipSpace_cons hc

theorem startsValue_render (h : Plain levels v) : StartsValue (render l depth v) := by
  cases h with
  | null => exact ⟨'n', _, rfl, rfl, by decide⟩
  | bool b =>
    cases b with
    | false => exact ⟨'f', _, rfl, rfl, by decide⟩
    | true => exact ⟨'t', _, rfl, rfl, by decide⟩
  | @int _ n _ =>
    obtain ⟨c, cs, hcs, hc, -⟩ := digitsOf_eq_cons n.natAbs
    rw [render_int, hcs]
    split_ifs
    · exact ⟨'-', _, rfl, rfl, by decide⟩
    · refine ⟨c, cs, rfl, ?_, ?_⟩
      · rw [Bool.eq_false_iff]
        intro hspace
        simp only [isSpace, Bool.or_eq_true, beq_iff_eq] at hspace
        rcases hspace with ((rfl | rfl) | rfl) | rfl <;> revert hc <;> decide
      · rintro rfl
        revert hc
        decide
  | text s => exact ⟨'\x22', _, rfl, rfl, by decide⟩
  | @list _ items _ => cases items <;> exact ⟨'[', _, rfl, rfl, by decide⟩
  | @table _ fields _ _ => cases fields <;> exact ⟨'\x7b', _, rfl, rfl, by decide⟩

def ReadBack (levels : Nat) (v : Value) : Prop :=
  ∀ (l : Layout) (depth fuel : Nat) (rest : List Char), (render l depth v).length ≤ fuel →
    FollowsValue rest → readValue (fuel + 1) levels (render l depth v ++ rest) = .ok (v, rest)

theorem followsValue_items (l : Layout) (depth outer : Nat) (items : List Value)
    (rest : List Char) :
    FollowsValue (renderItems l depth items ++ (lineBreak l outer ++ ']' :: rest)) := by
  cases items with
  | nil => exact followsValue_lineBreak (.inl rfl)
  | cons v items => exact followsValue_cons (.inl rfl)

theorem readItems_render (outer : Nat) (rest : List Char) {items : List Value}
    (hread : ∀ v ∈ items, StartsValue (render l depth v) ∧ ReadBack levels v)
    (hfuel : (renderItems l depth items).length ≤ fuel) :
    readItems (fuel + 1) levels
      (skipSpace (renderItems l depth items ++ (lineBreak l outer ++ ']' :: rest))) =
      .ok (items, rest) := by
  induction items generalizing fuel with
  | nil => rw [renderItems, List.nil_append, skipSpace_lineBreak, skipSpace_cons rfl, readItems]
  | cons v items ih =>
    obtain ⟨⟨hstart, hv⟩, hitems⟩ := List.forall_mem_cons.1 hread
    simp only [renderItems, List.length_cons, List.length_append] at hfuel
    obtain ⟨fuel, rfl⟩ : ∃ n, fuel = n + 1 := ⟨fuel - 1, by omega⟩
    have hvalue := hv l depth fuel _ (by omega) (followsValue_items l depth outer items rest)
    have hrest := @ih fuel hitems (by omega)
    simp only [renderItems, List.cons_append, List.append_assoc]
    rw [skipSpace_cons rfl, readItems, skipSpace_lineBreak, hstart.skipSpace_append, hvalue]
    simp only [bind, Except.bind, hrest, pure, Except.pure]

theorem exists_blanks_colon (l : Layout) :
    ∃ blanks, colon l = ':' :: blanks ∧ ∀ cs, skipSpace (blanks ++ cs) = skipSpace cs := by
  unfold colon
  split
  · exact ⟨[' '], rfl, fun _ => rfl⟩
  · exact ⟨[], rfl, fun _ => rfl⟩

theorem readKey_render (l : Layout) (depth : Nat) (key : String) (cs : List Char) :
    ∃ blanks, readKey (skipSpace (lineBreak l depth ++ (renderText l key ++ (colon l ++ cs)))) =
      .ok (key, blanks ++ cs) ∧ skipSpace (blanks ++ cs) = skipSpace cs := by
  obtain ⟨blanks, hcolon, hblanks⟩ := exists_blanks_colon l
  refine ⟨blanks, ?_, hblanks cs⟩
  simp only [renderText, List.cons_append, List.append_assoc, List.nil_append,
    skipSpace_lineBreak]
  rw [skipSpace_cons rfl]
  simp only [readKey, readText_escaped, bind, Except.bind, hcolon, List.cons_append]
  rw [skipSpace_cons rfl]
  rfl

theorem followsValue_fields (l : Layout) (depth outer : Nat) (fields : List (String × Value))
    (rest : List Char) :
    FollowsValue (renderFields l depth fields ++ (lineBreak l outer ++ '\x7d' :: rest)) := by
  cases fields with
  | nil => exact followsValue_lineBreak (.inr rfl)
  | cons field fields => exact followsValue_cons (.inl rfl)

theorem readFields_render (outer : Nat) (rest : List Char) {fields : List (String × Value)}
    (hread : ∀ key v, (key, v) ∈ fields → StartsValue (render l depth v) ∧ ReadBack levels v)
    (hfuel : (renderFields l depth fields).length ≤ fuel) :
    readFields (fuel + 1) levels
      (skipSpace (renderFields l depth fields ++ (lineBreak l outer ++ '\x7d' :: rest))) =
      .ok (fields, rest) := by
  induction fields generalizing fuel with
  | nil => rw [renderFields, List.nil_append, skipSpace_lineBreak, skipSpace_cons rfl, readFields]
  | cons field fields ih =>
    obtain ⟨key, v⟩ := field
    obtain ⟨hstart, hv⟩ := hread key v List.mem_cons_self
    simp only [renderFields, List.length_cons, List.length_append] at hfuel
    obtain ⟨fuel, rfl⟩ : ∃ n, fuel = n + 1 := ⟨fuel - 1, by omega⟩
    have hvalue := hv l depth fuel _ (by omega) (followsValue_fields l depth outer fields rest)
    have hrest := @ih fuel (fun key v hmem => hread key v (List.mem_cons_of_mem _ hmem)) (by omega)
    simp only [renderFields, List.cons_append, List.append_assoc]
    obtain ⟨blanks, hkey, hblanks⟩ := readKey_render l depth key (render l depth v ++
      (renderFields l depth fields ++ (lineBreak l outer ++ '\x7d' :: rest)))
    rw [skipSpace_cons rfl, readFields, hkey]
    simp only [bind, Except.bind, pure, Except.pure, hblanks, hstart.skipSpace_append, hvalue,
      hrest]

/-- What begins like no text, list or table is a number or a word. -/
theorem readValue_scalar (hquote : c ≠ '\x22') (hlist : c ≠ '[') (htable : c ≠ '\x7b') :
    readValue (fuel + 1) levels (c :: cs) = readScalar (c :: cs) := by
  rw [readValue] <;> simp_all

theorem readBack_int {n : Int} (short : isLongNumber n = false) : ReadBack levels (.int n) := by
  intro l depth fuel rest _ hrest
  obtain ⟨c, cs, hcs, hc, -⟩ := digitsOf_eq_cons n.natAbs
  have hscalar := readScalar_render_int l depth short hrest
  rw [render_int, hcs] at hscalar ⊢
  split_ifs at hscalar ⊢
  · exact (readValue_scalar (by decide) (by decide) (by decide)).trans hscalar
  · refine (readValue_scalar ?_ ?_ ?_).trans hscalar <;> rintro rfl <;> revert hc <;> decide

theorem readBack_text (s : String) : ReadBack levels (.text s) := by
  intro l depth fuel rest _ _
  simp only [render, renderText, List.cons_append, List.append_assoc, List.nil_append, readValue,
    readText_escaped, bind, Except.bind, pure, Except.pure]

theorem readBack_list {items : List Value} (plain : ∀ v ∈ items, Plain levels v)
    (hread : ∀ v ∈ items, ReadBack levels v) : ReadBack (levels + 1) (.list items) := by
  intro l depth fuel rest hfuel hrest
  cases items with
  | nil => rfl
  | cons v items =>
    simp only [render, List.length_cons, List.length_append] at hfuel
    obtain ⟨fuel, rfl⟩ : ∃ n, fuel = n + 1 := ⟨fuel - 1, by omega⟩
    have hstart : StartsValue (render l (depth + 1) v) :=
      startsValue_render (plain v List.mem_cons_self)
    have hvalue := hread v List.mem_cons_self l (depth + 1) fuel _ (by omega)
      (followsValue_items l (depth + 1) depth items rest)
    have hlength : (renderItems l (depth + 1) items).length ≤ fuel := by omega
    have hitems := readItems_render depth rest
      (fun w hw => ⟨startsValue_render (plain w (List.mem_cons_of_mem _ hw)),
        hread w (List.mem_cons_of_mem _ hw)⟩) hlength
    simp only [render, List.cons_append, List.append_assoc, List.nil_append]
    rw [readValue, skipSpace_lineBreak, hstart.skipSpace_append]
    obtain ⟨c, tail, htail, -, hc⟩ := hstart
    split
    · next heq =>
      rw [htail] at heq
      exact absurd (List.cons.inj heq).1 hc
    · simp only [hvalue, bind, Except.bind, hitems, pure, Except.pure]

theorem readBack_table {fields : List (String × Value)}
    (distinct : (Dictionary.keys fields).Nodup)
    (plain : ∀ key v, (key, v) ∈ fields → Plain levels v)
    (hread : ∀ key v, (key, v) ∈ fields → ReadBack levels v) :
    ReadBack (levels + 1) (.table fields) := by
  intro l depth fuel rest hfuel hrest
  cases fields with
  | nil => rfl
  | cons field fields =>
    obtain ⟨key, v⟩ := field
    simp only [render, List.length_cons, List.length_append] at hfuel
    obtain ⟨fuel, rfl⟩ : ∃ n, fuel = n + 1 := ⟨fuel - 1, by omega⟩
    have hstart : StartsValue (render l (depth + 1) v) :=
      startsValue_render (plain key v List.mem_cons_self)
    have hvalue := hread key v List.mem_cons_self l (depth + 1) fuel _ (by omega)
      (followsValue_fields l (depth + 1) depth fields rest)
    have hlength : (renderFields l (depth + 1) fields).length ≤ fuel := by omega
    have hfields := readFields_render depth rest
      (fun k w hw => ⟨startsValue_render (plain k w (List.mem_cons_of_mem _ hw)),
        hread k w (List.mem_cons_of_mem _ hw)⟩) hlength
    obtain ⟨blanks, hkey, hblanks⟩ := readKey_render l (depth + 1) key
      (render l (depth + 1) v ++
        (renderFields l (depth + 1) fields ++ (lineBreak l depth ++ '\x7d' :: rest)))
    simp only [render, List.cons_append, List.append_assoc, List.nil_append]
    rw [readValue]
    split
    · next heq =>
      rw [heq] at hkey
      exact absurd hkey (by simp [readKey])
    · simp only [hkey, bind, Except.bind, hblanks, hstart.skipSpace_append, hvalue, hfields, pure,
        Except.pure, Dictionary.ofPairs_eq_self distinct]

theorem Plain.readBack (h : Plain levels v) : ReadBack levels v := by
  induction h with
  | null => exact fun _ _ _ _ _ _ => rfl
  | bool b => cases b <;> exact fun _ _ _ _ _ _ => rfl
  | int short => exact readBack_int short
  | text s => exact readBack_text s
  | list plain ih => exact readBack_list plain ih
  | table distinct plain ih => exact readBack_table distinct plain ih

/-- A plain value is read back from its text, also with blanks after it. -/
theorem parse_render (l : Layout) (h : Plain depthLimit v) (hrest : FollowsValue rest)
    (hspace : skipSpace rest = []) : parse (String.ofList (render l 0 v ++ rest)) = .ok v := by
  have hread := h.readBack l 0 (render l 0 v ++ rest).length rest (by simp) hrest
  simp only [parse, String.toList_ofList, (startsValue_render h).skipSpace_append, hread, hspace,
    bind, Except.bind]
  rfl

theorem parse_print (l : Layout) (h : Plain depthLimit v) : parse (print l v) = .ok v := by
  have hread := parse_render l h followsValue_nil rfl
  rwa [List.append_nil] at hread

end ModulePack.Json
