import Mathlib.Logic.Relation
import ModulePack.Order.Basic

/-!
# Reachability between stored modules

An edge leads from a module to a dependency that is stored. What a module reaches, which modules
reach each other and which lie on a circle is said through edges alone, without a search.
-/

namespace ModulePack

namespace Graph

variable {g : Graph} {a b c : String}

def dependencies (g : Graph) (name : String) : List String := (g name).getD []

def Edge (g : Graph) (a b : String) : Prop := b ∈ g.dependencies a ∧ (g b).isSome

abbrev Reaches (g : Graph) (a b : String) : Prop := Relation.ReflTransGen g.Edge a b

def Mutual (g : Graph) (a b : String) : Prop := g.Reaches a b ∧ g.Reaches b a

/-- A path of one or more edges leads from `a` back to itself. -/
def OnCircle (g : Graph) (a : String) : Prop := Relation.TransGen g.Edge a a

theorem dependencies_of_eq_some {dependencies : List String} (h : g a = some dependencies) :
    g.dependencies a = dependencies := by simp [Graph.dependencies, h]

theorem isSome_of_mem_dependencies (h : b ∈ g.dependencies a) : (g a).isSome := by
  cases ha : g a with
  | none => simp [dependencies, ha] at h
  | some _ => rfl

/-- Names that no edge leaves hold all that they reach. -/
theorem Reaches.mem_of_closed {names : List String}
    (closed : ∀ x ∈ names, ∀ y, g.Edge x y → y ∈ names) (h : g.Reaches a b) (ha : a ∈ names) :
    b ∈ names := by
  induction h with
  | refl => exact ha
  | tail _ he ih => exact closed _ ih _ he

theorem Mutual.refl (a : String) : g.Mutual a a := ⟨.refl, .refl⟩

theorem Mutual.symm (h : g.Mutual a b) : g.Mutual b a := ⟨h.2, h.1⟩

theorem Mutual.trans (hab : g.Mutual a b) (hbc : g.Mutual b c) : g.Mutual a c :=
  ⟨hab.1.trans hbc.1, hbc.2.trans hab.2⟩

theorem onCircle_iff : g.OnCircle a ↔ ∃ b, g.Edge a b ∧ g.Reaches b a :=
  Relation.TransGen.head'_iff

theorem Mutual.onCircle (h : g.Mutual a b) (hne : a ≠ b) : g.OnCircle a := by
  rcases Relation.ReflTransGen.cases_head h.1 with he | ⟨c, hac, hcb⟩
  · exact absurd he hne
  · exact onCircle_iff.2 ⟨c, hac, hcb.trans h.2⟩

end Graph

namespace Store

abbrev graph (s : Store) : Graph := s.dependencies?

theorem isSome_graph (s : Store) (name : String) : (s.graph name).isSome = s.has name := by
  simp [graph, dependencies?, has]

theorem dependencies_graph {s : Store} {name : String} {r : Record} (h : s.get? name = some r) :
    s.graph.dependencies name = r.dependencies := by
  simp [Graph.dependencies, graph, dependencies?, h]

theorem exists_record {s : Store} {name : String} {dependencies : List String}
    (h : s.graph name = some dependencies) :
    ∃ r ∈ s.records, r.name = name ∧ r.dependencies = dependencies := by
  obtain ⟨r, hr, hdependencies⟩ := Option.map_eq_some_iff.1 h
  exact ⟨r, List.mem_of_find?_eq_some hr, name_of_get? hr, hdependencies⟩

end Store

end ModulePack
