import ModulePack.Path

/-!
# Paths that can be used

A path whose parts can all name a file has a text that can, and the texts that can are those that
read as such a path. To join such paths and to resolve one gives such a path again.
-/

namespace ModulePack.Path

variable {p q : Path} {s t separator : String} {parts : List String} {cwd : List String}

theorem isNameable_iff : isNameable s ↔ '\x00' ∉ s.toList := by simp [isNameable]

theorem isNameable_append : isNameable (s ++ t) ↔ isNameable s ∧ isNameable t := by
  simp only [isNameable_iff, String.toList_append, List.mem_append, not_or]

theorem isValid_iff : p.isValid ↔ ∀ part ∈ p.parts, isNameable part := by
  simp [isValid]

theorem mem_toList_join {c : Char} (h : c ∈ (Text.join separator parts).toList) :
    c ∈ separator.toList ∨ ∃ part ∈ parts, c ∈ part.toList := by
  induction parts with
  | nil => exact absurd h List.not_mem_nil
  | cons part parts ih =>
    cases parts with
    | nil => exact .inr ⟨part, List.mem_cons_self, h⟩
    | cons next parts =>
      rw [Text.join, String.toList_append, String.toList_append, List.mem_append,
        List.mem_append] at h
      rcases h with (hpart | hseparator) | hrest
      · exact .inr ⟨part, List.mem_cons_self, hpart⟩
      · exact .inl hseparator
      · obtain hseparator | ⟨other, hother, hc⟩ := ih hrest
        · exact .inl hseparator
        · exact .inr ⟨other, List.mem_cons_of_mem _ hother, hc⟩

/-- The text of a path holds the characters of its parts, slashes, and a dot if it has no parts. -/
theorem mem_toList_toString {c : Char} (h : c ∈ p.toString.toList) :
    c = '/' ∨ c = '.' ∨ ∃ part ∈ p.parts, c ∈ part.toList := by
  rw [Path.toString] at h
  split at h
  · exact .inr (.inl (List.mem_singleton.1 h))
  · rw [String.toList_append, List.mem_append] at h
    rcases h with hstart | hparts
    · left
      cases hp : p.start <;> simp [hp, startText] at hstart <;> exact hstart
    · rcases mem_toList_join hparts with hslash | hpart
      · exact .inl (List.mem_singleton.1 hslash)
      · exact .inr (.inr hpart)

theorem isNameable_toString (h : p.isValid) : isNameable p.toString := by
  rw [isNameable_iff]
  intro hzero
  obtain hslash | hdot | ⟨part, hpart, hzero⟩ := mem_toList_toString hzero
  · exact absurd hslash (by decide)
  · exact absurd hdot (by decide)
  · exact isNameable_iff.1 (isValid_iff.1 h part hpart) hzero

/-- Between the slashes stands all that a text holds but them. -/
theorem mem_flatten_splitSlash {cs : List Char} {c : Char} :
    c ∈ (splitSlash cs).flatten ↔ c ∈ cs ∧ c ≠ '/' := by
  induction cs with
  | nil => simp [splitSlash]
  | cons first cs ih =>
    rw [splitSlash]
    split
    · next hslash =>
      rw [List.flatten_cons, List.nil_append, ih, List.mem_cons, hslash]
      grind
    · next hfirst =>
      have hne : c = first → c ≠ '/' := fun heq => heq ▸ hfirst
      split
      · next hsplit =>
        rw [hsplit] at ih
        simp only [List.flatten_nil, List.not_mem_nil, false_iff] at ih
        simp only [List.flatten_cons, List.flatten_nil, List.append_nil, List.mem_cons]
        grind
      · next head tail hsplit =>
        rw [hsplit, List.flatten_cons] at ih
        rw [List.flatten_cons, List.cons_append, List.mem_cons, List.mem_cons, ih]
        grind

theorem isValid_ofString_iff : (ofString s).isValid ↔ isNameable s := by
  rw [isValid_iff, isNameable_iff]
  constructor
  · intro h hzero
    obtain ⟨piece, hpiece, hzero⟩ :=
      List.mem_flatten.1 (mem_flatten_splitSlash.2 ⟨hzero, by decide⟩)
    have hkept : isPart (String.ofList piece) := by
      have hne {t : String} (ht : '\x00' ∉ t.toList) : String.ofList piece ≠ t := by
        rintro rfl
        exact ht (by rwa [String.toList_ofList])
      rw [isPart, Bool.and_eq_true, bne_iff_ne, bne_iff_ne]
      exact ⟨hne (by decide), hne (by decide)⟩
    have hpart : String.ofList piece ∈ (ofString s).parts :=
      List.mem_filter.2 ⟨List.mem_map_of_mem hpiece, hkept⟩
    exact isNameable_iff.1 (h _ hpart) (by rwa [String.toList_ofList])
  · intro h part hpart
    obtain ⟨piece, hpiece, rfl⟩ := List.mem_map.1 (List.mem_filter.1 hpart).1
    rw [isNameable_iff, String.toList_ofList]
    exact fun hzero => h (mem_flatten_splitSlash.1 (List.mem_flatten.2 ⟨piece, hpiece, hzero⟩)).1

theorem isValid_ofString (h : isNameable s) : (ofString s).isValid := isValid_ofString_iff.2 h

theorem isValid_join (hp : p.isValid) (hq : q.isValid) : (p.join q).isValid := by
  rw [isValid_iff] at hp hq ⊢
  rw [join]
  split
  · intro part hpart
    rcases List.mem_append.1 hpart with hpart | hpart
    · exact hp part hpart
    · exact hq part hpart
  · exact hq

theorem isValid_div_iff :
    (p / s).isValid ↔ ((ofString s).start = .here → p.isValid) ∧ isNameable s := by
  have hdiv : p / s = p.join (ofString s) := rfl
  rw [hdiv, join, ← isValid_ofString_iff]
  by_cases hstart : (ofString s).start = .here
  · simp only [hstart, if_true, true_implies, isValid_iff, List.forall_mem_append]
  · simp [hstart]

theorem mem_climb {part name : String} (h : name ∈ climb parts part) :
    name ∈ parts ∨ name = part := by
  rw [climb] at h
  split at h
  · exact .inl (List.dropLast_subset _ h)
  · simpa using h

/-- Where the parts lead there are no others than they and those where they start. -/
theorem mem_foldl_climb {start : List String} {name : String} (h : name ∈ parts.foldl climb start) :
    name ∈ start ∨ name ∈ parts := by
  induction parts generalizing start with
  | nil => exact .inl h
  | cons part parts ih =>
    rcases ih h with hstart | hparts
    · rcases mem_climb hstart with hstart | rfl
      · exact .inl hstart
      · exact .inr List.mem_cons_self
    · exact .inr (List.mem_cons_of_mem _ hparts)

theorem isValid_resolve_of_cwd (hcwd : isValid ⟨.root, cwd⟩) (h : p.isValid) :
    (p.resolve cwd).isValid := by
  rw [isValid_iff] at hcwd h ⊢
  intro part hpart
  rw [resolve] at hpart
  rcases mem_foldl_climb hpart with hstart | hparts
  · split at hstart
    · exact hcwd part hstart
    · exact absurd hstart List.not_mem_nil
  · exact h part hparts

theorem isValid_resolve (habsolute : p.start ≠ .here) (h : p.isValid) :
    (p.resolve cwd).isValid := by
  have hcwd : p.resolve cwd = p.resolve [] := by rw [resolve, resolve, if_neg habsolute, ite_self]
  rw [hcwd]
  exact isValid_resolve_of_cwd rfl h

theorem start_join (habsolute : p.start ≠ .here) : (p.join q).start ≠ .here := by
  rw [join]
  split
  · exact habsolute
  · assumption

end ModulePack.Path
