import ModulePack.Proofs.Path.Naming

/-!
# Paths and their texts

A path that no part of holds a slash is read back from its text. Behind a slash the parts of a text
are put after those of the text before it, so what a text names in a directory is found by climbing
from the directory along the parts of the text.
-/

namespace ModulePack.Path

variable {p : Path} {s t name part : String} {parts others directories : List String}
  {cs : List Char} {cwd : List String} {c : Char}

theorem splitSlash_ne_nil (cs : List Char) : splitSlash cs ≠ [] := by
  cases cs with
  | nil => simp [splitSlash]
  | cons c cs =>
    rw [splitSlash]
    split
    · simp
    · split <;> simp

theorem splitSlash_of_notMem (h : '/' ∉ cs) : splitSlash cs = [cs] := by
  induction cs with
  | nil => rfl
  | cons c cs ih =>
    rw [List.mem_cons, not_or] at h
    rw [splitSlash, if_neg (Ne.symm h.1), ih h.2]

theorem splitSlash_append (cs rest : List Char) :
    splitSlash (cs ++ '/' :: rest) = splitSlash cs ++ splitSlash rest := by
  induction cs with
  | nil => simp [splitSlash]
  | cons c cs ih =>
    rw [List.cons_append, splitSlash, splitSlash]
    split
    · rw [ih, List.cons_append]
    · rw [ih]
      cases hsplit : splitSlash cs with
      | nil => exact absurd hsplit (splitSlash_ne_nil cs)
      | cons first others => rfl

theorem slash_notMem_of_mem_splitSlash {piece : List Char} (h : piece ∈ splitSlash cs) :
    '/' ∉ piece :=
  fun hslash => (mem_flatten_splitSlash.1 (List.mem_flatten.2 ⟨piece, h, hslash⟩)).2 rfl

/-- A text that stands between slashes and is kept as a part. -/
structure IsName (s : String) : Prop where
  kept : isPart s
  noSlash : '/' ∉ s.toList

instance (s : String) : Decidable (IsName s) :=
  decidable_of_iff (isPart s ∧ '/' ∉ s.toList) ⟨fun h => ⟨h.1, h.2⟩, fun h => ⟨h.1, h.2⟩⟩

theorem isName_up : IsName ".." := ⟨by decide, by decide⟩

theorem IsName.ne_empty (h : IsName s) : s ≠ "" := by
  rintro rfl
  exact absurd h.kept (by decide)

/-- What has more characters than the dots that are no names is a name. -/
theorem isName_append (hname : '/' ∉ name.toList) (ht : '/' ∉ t.toList)
    (hlength : 2 < t.toList.length) : IsName (name ++ t) ∧ name ++ t ≠ ".." := by
  have hne {s : String} (hs : s.toList.length ≤ 2) : name ++ t ≠ s := by
    rintro rfl
    rw [String.toList_append, List.length_append] at hs
    omega
  refine ⟨⟨?_, ?_⟩, hne (by decide)⟩
  · rw [isPart, Bool.and_eq_true, bne_iff_ne, bne_iff_ne]
    exact ⟨hne (by decide), hne (by decide)⟩
  · rw [String.toList_append, List.mem_append, not_or]
    exact ⟨hname, ht⟩

theorem partsOf_append (s t : String) : partsOf (s ++ "/" ++ t) = partsOf s ++ partsOf t := by
  have hsplit : splitSlash (s ++ "/" ++ t).toList = splitSlash s.toList ++ splitSlash t.toList := by
    rw [String.toList_append, String.toList_append, List.append_assoc]
    exact splitSlash_append _ _
  rw [partsOf, hsplit, List.map_append, List.filter_append]
  rfl

@[simp] theorem partsOf_empty : partsOf "" = [] := by decide

theorem partsOf_of_isName (h : IsName s) : partsOf s = [s] := by
  rw [partsOf, splitSlash_of_notMem h.noSlash, List.map_singleton, String.ofList_toList,
    List.filter_cons_of_pos h.kept, List.filter_nil]

theorem isName_of_mem_partsOf (h : part ∈ partsOf s) : IsName part := by
  rw [partsOf, List.mem_filter] at h
  obtain ⟨hmem, hkept⟩ := h
  obtain ⟨piece, hpiece, rfl⟩ := List.mem_map.1 hmem
  refine ⟨hkept, ?_⟩
  rw [String.toList_ofList]
  exact slash_notMem_of_mem_splitSlash hpiece

theorem join_cons_concat (directory : String) (directories : List String) (name : String) :
    Text.join "/" (directory :: directories ++ [name]) =
      directory ++ "/" ++ Text.join "/" (directories ++ [name]) := by
  cases directories <;> rfl

theorem join_concat_append (directories : List String) (name tail : String) :
    Text.join "/" (directories ++ [name]) ++ tail =
      Text.join "/" (directories ++ [name ++ tail]) := by
  induction directories with
  | nil => rfl
  | cons directory directories ih =>
    rw [join_cons_concat, join_cons_concat, String.append_assoc, ih]

theorem partsOf_join_concat (h : ∀ part ∈ directories, IsName part) (s : String) :
    partsOf (Text.join "/" (directories ++ [s])) = directories ++ partsOf s := by
  induction directories with
  | nil => rfl
  | cons directory directories ih =>
    rw [List.forall_mem_cons] at h
    rw [join_cons_concat, partsOf_append, partsOf_of_isName h.1, ih h.2, List.singleton_append,
      List.cons_append]

theorem partsOf_join (h : ∀ part ∈ parts, IsName part) : partsOf (Text.join "/" parts) = parts := by
  rcases List.eq_nil_or_concat parts with rfl | ⟨directories, name, rfl⟩
  · exact partsOf_empty
  · rw [List.concat_eq_append] at h ⊢
    rw [List.forall_mem_append, List.forall_mem_singleton] at h
    rw [partsOf_join_concat h.1, partsOf_of_isName h.2]

theorem splitSlash_join_concat (hdirectories : ∀ part ∈ directories, IsName part)
    (hname : '/' ∉ name.toList) :
    splitSlash (Text.join "/" (directories ++ [name])).toList =
      (directories ++ [name]).map String.toList := by
  induction directories with
  | nil => exact splitSlash_of_notMem hname
  | cons directory directories ih =>
    rw [List.forall_mem_cons] at hdirectories
    have hslash (s : String) : "/".toList ++ s.toList = '/' :: s.toList := rfl
    rw [join_cons_concat, String.toList_append, String.toList_append, List.append_assoc, hslash,
      splitSlash_append, ih hdirectories.2, splitSlash_of_notMem hdirectories.1.noSlash]
    rfl

/-- Directories and the name in them are told from their text, also where the name is empty. -/
theorem join_concat_inj {directories' : List String} {name' : String}
    (hdirectories : ∀ part ∈ directories, IsName part)
    (hdirectories' : ∀ part ∈ directories', IsName part) (hname : '/' ∉ name.toList)
    (hname' : '/' ∉ name'.toList)
    (h : Text.join "/" (directories ++ [name]) = Text.join "/" (directories' ++ [name'])) :
    directories = directories' ∧ name = name' := by
  have hsplit : (directories ++ [name]).map String.toList =
      (directories' ++ [name']).map String.toList := by
    rw [← splitSlash_join_concat hdirectories hname, h, splitSlash_join_concat hdirectories' hname']
  have hparts : directories ++ [name] = directories' ++ [name'] :=
    (List.map_inj_right fun _ _ => String.toList_inj.1).1 hsplit
  obtain ⟨hinit, hlast⟩ := List.append_inj' hparts rfl
  exact ⟨hinit, List.singleton_inj.1 hlast⟩

theorem toString_concat (directories : List String) (name : String) :
    (Path.mk .here (directories ++ [name])).toString = Text.join "/" (directories ++ [name]) := by
  simp [Path.toString, startText]

theorem startOf_startText (start : PathStart) (h : ∀ rest, s.toList ≠ '/' :: rest) :
    startOf (startText start ++ s).toList = start := by
  rw [String.toList_append]
  cases hs : s.toList with
  | nil => cases start <;> rfl
  | cons c cs =>
    have hc : c ≠ '/' := by
      rintro rfl
      exact h cs hs
    cases start <;> simp [startText, startOf, hc]

theorem partsOf_startText (start : PathStart) (s : String) :
    partsOf (startText start ++ s) = partsOf s := by
  have hslash (s : String) : partsOf ("/" ++ s) = partsOf s := partsOf_append "" s
  cases start with
  | here => rw [startText, String.empty_append]
  | root => exact hslash s
  | secondRoot =>
    have hsecond : startText .secondRoot = "/" ++ "/" := by decide
    rw [hsecond, String.append_assoc, hslash, hslash]

/-- No text of parts begins with a slash. -/
theorem toList_join_ne (h : ∀ part ∈ parts, IsName part) (rest : List Char) :
    (Text.join "/" parts).toList ≠ '/' :: rest := by
  intro hslash
  cases parts with
  | nil => cases hslash
  | cons part parts =>
    have hname : IsName part := h part List.mem_cons_self
    have hstart : ∃ tail, Text.join "/" (part :: parts) = part ++ tail := by
      cases parts with
      | nil => exact ⟨"", by rw [Text.join, String.append_empty]⟩
      | cons next parts => exact ⟨_, String.append_assoc⟩
    obtain ⟨tail, htail⟩ := hstart
    rw [htail, String.toList_append] at hslash
    cases hpart : part.toList with
    | nil => exact hname.ne_empty (String.toList_eq_nil_iff.1 hpart)
    | cons c cs =>
      rw [hpart, List.cons_append, List.cons.injEq] at hslash
      exact hname.noSlash (by rw [hpart, hslash.1]; exact List.mem_cons_self)

/-- A path that no part of holds a slash is read back from its text. -/
theorem ofString_toString (h : ∀ part ∈ p.parts, IsName part) : ofString p.toString = p := by
  obtain ⟨start, parts⟩ := p
  rw [Path.toString]
  split
  · next hhere =>
    rw [Bool.and_eq_true, decide_eq_true_eq, List.isEmpty_iff] at hhere
    obtain ⟨rfl, rfl⟩ := hhere
    decide
  · rw [ofString, startOf_startText start (toList_join_ne h), partsOf_startText, partsOf_join h]

/-- A path from the root whose parts are names and lead nowhere up. -/
structure Normal (p : Path) : Prop where
  absolute : p.start = .root
  names : ∀ part ∈ p.parts, IsName part
  down : ".." ∉ p.parts

theorem isName_of_mem_resolve (hcwd : ∀ part ∈ cwd, IsName part)
    (hparts : ∀ part ∈ p.parts, IsName part) :
    ∀ part ∈ (p.resolve cwd).parts, IsName part := by
  intro part hpart
  rw [resolve] at hpart
  rcases mem_foldl_climb hpart with hstart | hpart
  · split at hstart
    · exact hcwd part hstart
    · exact absurd hstart List.not_mem_nil
  · exact hparts part hpart

theorem up_notMem_climb {start : List String} (h : ".." ∉ start) (part : String) :
    ".." ∉ climb start part := by
  rw [climb]
  split
  · exact fun hup => h (List.dropLast_subset _ hup)
  · next hpart => simpa [h] using Ne.symm hpart

theorem up_notMem_foldl_climb {start : List String} (h : ".." ∉ start) (parts : List String) :
    ".." ∉ parts.foldl climb start := by
  induction parts generalizing start with
  | nil => exact h
  | cons part parts ih => exact ih (up_notMem_climb h part)

theorem foldl_climb_of_down (h : ".." ∉ parts) (start : List String) :
    parts.foldl climb start = start ++ parts := by
  induction parts generalizing start with
  | nil => rw [List.foldl_nil, List.append_nil]
  | cons part parts ih =>
    rw [List.mem_cons, not_or] at h
    rw [List.foldl_cons, climb_of_ne (Ne.symm h.1), ih h.2, List.append_assoc,
      List.singleton_append]

/-- What is resolved in a directory of names is normal. -/
theorem normal_resolve (hcwd : Normal ⟨.root, cwd⟩) (hparts : ∀ part ∈ p.parts, IsName part) :
    (p.resolve cwd).Normal := by
  refine ⟨rfl, isName_of_mem_resolve hcwd.names hparts, up_notMem_foldl_climb ?_ _⟩
  split
  · exact hcwd.down
  · exact List.not_mem_nil

theorem Normal.resolve_join (h : p.Normal) (parts : List String) :
    (p.join ⟨.here, parts⟩).resolve cwd = ⟨.root, parts.foldl climb p.parts⟩ := by
  have habsolute : p.start ≠ .here := by
    rw [h.absolute]
    decide
  rw [join, if_pos rfl, resolve, if_neg habsolute, List.foldl_append, foldl_climb_of_down h.down,
    List.nil_append]

theorem startOf_cons_slash (cs : List Char) : startOf ('/' :: cs) ≠ .here := by
  rcases cs with _ | ⟨c, _ | ⟨d, cs⟩⟩
  · decide
  · by_cases hc : c = '/' <;> simp [startOf, hc]
  · by_cases hc : c = '/' <;> by_cases hd : d = '/' <;> simp [startOf, hc, hd]

theorem resolve_of_absolute (h : p.start ≠ .here) (cwd : List String) :
    p.resolve cwd = ⟨.root, p.parts.foldl climb []⟩ := by rw [resolve, if_neg h]

theorem Normal.start_ofString_append (h : p.Normal) (s : String) :
    (ofString (p.toString ++ s)).start ≠ .here := by
  have hslash : ∃ cs, (p.toString ++ s).toList = '/' :: cs := by
    rw [Path.toString, h.absolute]
    simp [startText]
  obtain ⟨cs, hcs⟩ := hslash
  rw [ofString, hcs]
  exact startOf_cons_slash cs

/-- What a text names behind the text of a directory is what it names in the directory. -/
theorem Normal.resolve_ofString_append (h : p.Normal) (s : String) :
    (ofString (p.toString ++ "/" ++ s)).resolve cwd =
      ⟨.root, (partsOf s).foldl climb p.parts⟩ := by
  have hparts : partsOf p.toString = p.parts := congrArg Path.parts (ofString_toString h.names)
  rw [String.append_assoc, resolve_of_absolute (h.start_ofString_append _), ← String.append_assoc,
    ofString, partsOf_append, hparts, List.foldl_append, foldl_climb_of_down h.down,
    List.nil_append]

/-- The last name of a path runs into a text behind the text of the path. -/
theorem Normal.resolve_ofString_concat (h : p.Normal) (hparts : p.parts = directories ++ [name])
    (s : String) :
    (ofString (p.toString ++ s)).resolve cwd =
      ⟨.root, (partsOf (name ++ s)).foldl climb directories⟩ := by
  have hnames := h.names
  have hdown := h.down
  rw [hparts, List.forall_mem_append] at hnames
  rw [hparts, List.mem_append, not_or] at hdown
  have htext : p.toString ++ s = "" ++ "/" ++ Text.join "/" (directories ++ [name ++ s]) := by
    rw [Path.toString, h.absolute, hparts, ← join_concat_append]
    simp [startText, String.append_assoc]
  have hread : partsOf (p.toString ++ s) = directories ++ partsOf (name ++ s) := by
    rw [htext, partsOf_append, partsOf_empty, List.nil_append, partsOf_join_concat hnames.1]
  rw [resolve_of_absolute (h.start_ofString_append s), ofString, hread, List.foldl_append,
    foldl_climb_of_down hdown.1, List.nil_append]

end ModulePack.Path
