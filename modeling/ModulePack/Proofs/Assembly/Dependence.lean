import ModulePack.Proofs.Assembly.Emitted
import ModulePack.Proofs.Assembly.Result
import ModulePack.Proofs.Order.Agreement

/-!
# What an assembly depends on

Of a store an assembly reads the modules that the entry module reaches, and of those the fields that
their entries are made of. Lists of exports are sorted before they are written, so the order in
which they are kept does not show, and neither does the order in which records were inserted.
-/

namespace ModulePack

/-- Two records say the same to an assembly: exports in whatever order, and all other fields that
are read as they are. -/
structure Record.Alike (r q : Record) : Prop where
  dependencies : q.dependencies = r.dependencies
  code : q.code = r.code
  altName : q.altName = r.altName
  opaqueExport : q.opaqueExport = r.opaqueExport
  exports : ∀ name, name ∈ q.exports ↔ name ∈ r.exports
  reexports : q.reexports.Perm r.reexports

namespace Record.Alike

variable {r q : Record}

theorem entryMeta_eq (h : r.Alike q) (circular : Bool) :
    q.entryMeta circular = r.entryMeta circular := by
  have hexports : q.exports = r.exports := NameSet.eq_of_mem_iff h.exports
  have hsorted : sortNames q.reexports = sortNames r.reexports := sortNames_eq_of_perm h.reexports
  have hempty : q.reexports.isEmpty = r.reexports.isEmpty := h.reexports.isEmpty_eq
  have hneeds : q.needsMeta circular = r.needsMeta circular := by
    rw [needsMeta, needsMeta, hexports, hempty, h.altName, h.opaqueExport]
  simp only [entryMeta, hneeds, hexports, hsorted, h.altName, h.opaqueExport]

theorem toEntry_eq (h : r.Alike q) (hname : q.name = r.name) (circular : Bool) :
    q.toEntry circular = r.toEntry circular := by
  rw [Record.toEntry_eq, Record.toEntry_eq, h.entryMeta_eq, hname, h.dependencies, h.code]

theorem setCode (h : r.Alike q) (code : Option String) :
    Alike { r with code } { q with code } :=
  { h with code := rfl }

theorem codeOf?_eq (h : r.Alike q) (hname : q.name = r.name) (a : Assembler)
    (f : MinifyCall → Except MinifyError String) (fs : FileSystem) :
    a.codeOf? f fs q = a.codeOf? f fs r := by
  have hcode : q.hasCode = r.hasCode := by rw [hasCode, hasCode, h.code]
  rw [Assembler.codeOf?, Assembler.codeOf?, hcode, h.code, hname]

end Record.Alike

/-- Two stores hold the same of the modules that an entry module reaches in the first of them and of
those that these depend on, with records that are alike for the modules reached. -/
structure Store.AgreesFrom (s t : Store) (entry : String) : Prop where
  reached : ∀ name, s.graph.Reaches entry name → t.has name = s.has name
  referenced : ∀ name, s.graph.Reaches entry name → ∀ dependency ∈ s.graph.dependencies name,
    t.has dependency = s.has dependency
  alike : ∀ name, s.graph.Reaches entry name →
    ∀ r q, s.get? name = some r → t.get? name = some q → r.Alike q

namespace Store.AgreesFrom

variable {s t : Store} {entry name : String}

/-- What one of the stores holds of a module reached, the other holds too. -/
theorem get?_cases (h : s.AgreesFrom t entry) (hname : s.graph.Reaches entry name) :
    (s.get? name = none ∧ t.get? name = none) ∨
      ∃ r q, s.get? name = some r ∧ t.get? name = some q ∧ r.Alike q := by
  have hhas : (t.get? name).isSome = (s.get? name).isSome := h.reached name hname
  cases hr : s.get? name with
  | none =>
    rw [hr, Option.isSome_none, Option.isSome_eq_false_iff, Option.isNone_iff_eq_none] at hhas
    exact .inl ⟨rfl, hhas⟩
  | some r =>
    rw [hr, Option.isSome_some] at hhas
    obtain ⟨q, hq⟩ := Option.isSome_iff_exists.1 hhas
    exact .inr ⟨r, q, rfl, hq, h.alike name hname r q hr hq⟩

theorem graph (h : s.AgreesFrom t entry) : s.graph.AgreesFrom t.graph entry := by
  constructor
  · intro name hname
    rcases h.get?_cases hname with ⟨hs, ht⟩ | ⟨r, q, hs, ht, halike⟩
    · simp [Store.graph, dependencies?, hs, ht]
    · simp [Store.graph, dependencies?, hs, ht, halike.dependencies]
  · intro name hname dependency hdependency
    rw [isSome_graph, isSome_graph, h.referenced name hname dependency hdependency]

theorem entryOf?_eq (h : s.AgreesFrom t entry) (hname : s.graph.Reaches entry name)
    (a : Assembler) (f : MinifyCall → Except MinifyError String) (fs : FileSystem)
    (circular : NameSet) : a.entryOf? f fs t circular name = a.entryOf? f fs s circular name := by
  rw [Assembler.entryOf?, Assembler.entryOf?]
  rcases h.get?_cases hname with ⟨hs, ht⟩ | ⟨r, q, hs, ht, halike⟩
  · rw [hs, ht]
  · have hsame : q.name = r.name := (name_of_get? ht).trans (name_of_get? hs).symm
    have hentry (code : String) (circular : Bool) :
        Record.toEntry { q with code := some code } circular =
          Record.toEntry { r with code := some code } circular :=
      (halike.setCode (some code)).toEntry_eq hsame circular
    simp only [hs, ht, Option.bind_eq_bind, Option.bind_some, halike.codeOf?_eq hsame, hentry]

end Store.AgreesFrom

namespace Assembler

open Build

variable {a : Assembler} {f : MinifyCall → Except MinifyError String} {fs : FileSystem}
  {s t : Store}

theorem order_eq_of_agreesFrom (h : ∀ entry, a.entryName fs = .ok entry → s.AgreesFrom t entry) :
    a.order fs t = a.order fs s := by
  refine order_congr fun entry hentry => ⟨(h entry hentry).reached entry .refl, ?_⟩
  exact Store.order_eq_of_agreesFrom (h entry hentry).graph

/-- The entries of the modules in order are the same for stores that agree. -/
theorem mapM_entryOf?_eq (h : ∀ entry, a.entryName fs = .ok entry → s.AgreesFrom t entry)
    {order : ModuleOrder} (horder : a.order fs s = .ok order) :
    order.modules.mapM (a.entryOf? f fs t order.circular) =
      order.modules.mapM (a.entryOf? f fs s order.circular) := by
  obtain ⟨entry, hentry, hhas, rfl⟩ := exists_entry_of_order horder
  refine mapM_eq_mapM_of_forall fun name hname => ?_
  have hreached := ((Store.mem_modules_iff hhas).1 hname).2
  exact (h entry hentry).entryOf?_eq hreached a f fs _

theorem result?_eq_of_agreesFrom
    (h : ∀ entry, a.entryName fs = .ok entry → s.AgreesFrom t entry) :
    a.result? f fs t = a.result? f fs s := by
  rw [result?, result?, order_eq_of_agreesFrom h]
  cases horder : a.order fs s with
  | error e => rfl
  | ok order =>
    simp only [toOption_ok, Option.bind_eq_bind, Option.bind_some, mapM_entryOf?_eq h horder]

/-- An assembly depends on the modules alone that the entry module reaches: from stores that agree
on them it has the same order and comes to the same text, or fails for both. -/
theorem assembleArray_eq_of_agreesFrom (a : Assembler) (f : MinifyCall → Except MinifyError String)
    (hf : a.minifier = .ofFunction f) (x y : BuildState) (hfiles : y.files = x.files)
    (h : ∀ entry, a.entryName x.files = .ok entry → x.store.AgreesFrom y.store entry) :
    (∀ entry, a.entryName x.files = .ok entry → y.store.order entry = x.store.order entry) ∧
      a.order y.files y.store = a.order x.files x.store ∧
      (a.assembleArray.outcome y).1.toOption = (a.assembleArray.outcome x).1.toOption := by
  refine ⟨fun entry hentry => Store.order_eq_of_agreesFrom (h entry hentry).graph, ?_, ?_⟩
  · rw [hfiles]
    exact order_eq_of_agreesFrom h
  · rw [toOption_assembleArray hf, toOption_assembleArray hf, hfiles]
    exact result?_eq_of_agreesFrom h

/-- The modules of the circle in another order, with their exports in another order, and a module
that they do not need. -/
def circleOtherwise : Store := .ofRecords
  [{ name := "/unused", dependencies := ["/main", "gone"] },
    { name := "/a", dependencies := ["/main"], exports := .ofList ["x", "y", "x"],
      reexports := ["/main", "z"], code := some "a" },
    { name := "/main", dependencies := ["/a", "tslib", "/a"], isModule := false, code := some "m" }]

theorem agreesFrom_circleOtherwise : circleState.store.AgreesFrom circleOtherwise "/main" := by
  have hclosed : ∀ x ∈ ["/main", "/a"], ∀ y, circleState.store.graph.Edge x y →
      y ∈ ["/main", "/a"] := by
    rintro x hx y ⟨hdependency, hstored⟩
    rcases List.mem_cons.1 hx with rfl | hx
    · have hy : y ∈ ["/a", "tslib", "/a"] := hdependency
      simp only [List.mem_cons, List.not_mem_nil, or_false] at hy
      rcases hy with rfl | rfl | rfl
      · decide
      · exact absurd hstored (by decide)
      · decide
    · obtain rfl := List.mem_singleton.1 hx
      have hy : y ∈ ["/main"] := hdependency
      exact List.mem_cons.2 (.inl (List.mem_singleton.1 hy))
  have hreached {name : String} (h : circleState.store.graph.Reaches "/main" name) :
      name = "/main" ∨ name = "/a" := by
    simpa using h.mem_of_closed hclosed (by decide)
  refine ⟨fun name h => ?_, fun name h => ?_, fun name h r q hr hq => ?_⟩
  · rcases hreached h with rfl | rfl <;> rfl
  · rcases hreached h with rfl | rfl <;> decide
  · rcases hreached h with rfl | rfl
    · cases hr
      cases hq
      exact ⟨rfl, rfl, rfl, rfl, fun _ => Iff.rfl, .refl _⟩
    · cases hr
      cases hq
      exact ⟨rfl, rfl, rfl, rfl, fun _ => by simp [or_comm], .swap _ _ _⟩

theorem assembleArray_eq_circleOtherwise :
    (∀ entry, circleAssembler.entryName circleState.files = .ok entry →
      circleState.store.AgreesFrom circleOtherwise entry) ∧
    (circleAssembler.assembleArray.outcome
      { circleState with store := circleOtherwise }).1.toOption =
        some (serializeEntries circleEntries) := by
  have hagrees : ∀ entry, circleAssembler.entryName circleState.files = .ok entry →
      circleState.store.AgreesFrom circleOtherwise entry := by
    rintro entry ⟨⟩
    exact agreesFrom_circleOtherwise
  obtain ⟨-, -, hsame⟩ := assembleArray_eq_of_agreesFrom circleAssembler _ rfl circleState
    { circleState with store := circleOtherwise } rfl hagrees
  exact ⟨hagrees, hsame.trans (by rw [outcome_circle]; rfl)⟩

end Assembler

end ModulePack
