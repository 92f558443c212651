import Mathlib.Data.List.Induction
import ModulePack.Proofs.Path.Text

/-!
# Ways between places

The way from one place to another leads up out of the parts that the places do not share and then
down. Whoever climbs along it from the first place arrives at the second, so different places are
reached on different ways.
-/

namespace ModulePack.Path

variable {p base : Path} {place other start directories : List String} {name : String}
  {cwd : List String}

def way (base place : List String) : List String :=
  (dropCommon place base).2.map (fun _ => "..") ++ (dropCommon place base).1

theorem relativeText_eq (cwd : List String) (p base : Path) :
    p.relativeText cwd base =
      (Path.mk .here (way (base.resolve cwd).parts (p.resolve cwd).parts)).toString := rfl

theorem dropCommon_spec (place other : List String) :
    ∃ shared, place = shared ++ (dropCommon place other).1 ∧
      other = shared ++ (dropCommon place other).2 := by
  induction place generalizing other with
  | nil => exact ⟨[], by cases other <;> exact ⟨rfl, rfl⟩⟩
  | cons part place ih =>
    cases other with
    | nil => exact ⟨[], rfl, rfl⟩
    | cons part' other =>
      rw [dropCommon]
      split
      · next hpart =>
        obtain ⟨shared, hplace, hother⟩ := ih other
        refine ⟨part :: shared, ?_, ?_⟩
        · rw [List.cons_append, ← hplace]
        · rw [List.cons_append, ← hother, hpart]
      · exact ⟨[], rfl, rfl⟩

/-- A place that is not on the way to the other one goes further down than its directory does. -/
theorem dropCommon_concat (h : ¬ directories ++ [name] <+: other) :
    dropCommon (directories ++ [name]) other =
      ((dropCommon directories other).1 ++ [name], (dropCommon directories other).2) := by
  induction directories generalizing other with
  | nil =>
    cases other with
    | nil => rfl
    | cons part other =>
      have hpart : name ≠ part := by
        rintro rfl
        exact h (by simp)
      rw [List.nil_append, dropCommon, if_neg hpart]
      rfl
  | cons directory directories ih =>
    cases other with
    | nil => rfl
    | cons part other =>
      rw [List.cons_append, dropCommon, dropCommon]
      split
      · next hpart =>
        refine ih fun hprefix => h ?_
        rw [List.cons_append, hpart]
        exact (List.cons_prefix_cons).2 ⟨rfl, hprefix⟩
      · rfl

theorem foldl_climb_up (start up : List String) :
    (up.map fun _ => "..").foldl climb (start ++ up) = start := by
  induction up using List.reverseRecOn with
  | nil => rw [List.map_nil, List.foldl_nil, List.append_nil]
  | append_singleton up last ih =>
    -- All steps up are alike, so the last of them can be taken first.
    have hmap : (up ++ [last]).map (fun _ => "..") = ".." :: up.map fun _ => ".." := by
      rw [List.map_const', List.map_const', List.length_append, List.length_singleton,
        List.replicate_succ]
    rw [hmap, List.foldl_cons, climb_up, ← List.append_assoc, List.dropLast_concat, ih]

/-- The way to a place leads there. -/
theorem foldl_climb_way (h : ".." ∉ place) (base : List String) :
    (way base place).foldl climb base = place := by
  obtain ⟨shared, hplace, hbase⟩ := dropCommon_spec place base
  rw [way]
  generalize dropCommon place base = rest at hplace hbase ⊢
  obtain ⟨down, up⟩ := rest
  subst hplace hbase
  have hdown : ".." ∉ down := fun hup => h (List.mem_append_right _ hup)
  rw [List.foldl_append, foldl_climb_up, foldl_climb_of_down hdown]

theorem way_inj (hplace : ".." ∉ place) (hother : ".." ∉ other) {base : List String}
    (h : way base place = way base other) : place = other := by
  rw [← foldl_climb_way hplace base, h, foldl_climb_way hother base]

theorem way_concat {base : List String} (h : ¬ directories ++ [name] <+: base) :
    way base (directories ++ [name]) = way base directories ++ [name] := by
  rw [way, dropCommon_concat h, way, List.append_assoc]

/-- The way from a place to what lies below it leads down only. -/
theorem way_append (base place : List String) : way base (base ++ place) = place := by
  have hcommon : dropCommon (base ++ place) base = (place, []) := by
    induction base with
    | nil => cases place <;> rfl
    | cons part base ih =>
      rw [List.cons_append, dropCommon, if_pos rfl]
      exact ih
  rw [way, hcommon]
  rfl

theorem mem_way {part : String} {base : List String} (h : part ∈ way base place) :
    part = ".." ∨ part ∈ place := by
  obtain ⟨shared, hplace, -⟩ := dropCommon_spec place base
  rcases List.mem_append.1 h with hup | hdown
  · obtain ⟨_, -, rfl⟩ := List.mem_map.1 hup
    exact .inl rfl
  · rw [hplace]
    exact .inr (List.mem_append_right _ hdown)

end ModulePack.Path
