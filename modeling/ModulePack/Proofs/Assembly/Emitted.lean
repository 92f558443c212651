import ModulePack.Proofs.Assembly.Entries

/-!
# Emitted arrays

The array that an assembly emits is read back from its text. It names the modules of the order, each
once, and the helpers behind them if they are needed; whatever an entry depends on is in the array
or absent from the store. An entry that is needed before its turn lies on a circle and carries the
lists of its exports, so the loader can make what stands for it until then.
-/

namespace ModulePack

namespace Assembled

variable {a : Assembler} {store : Store} {entry : String} {order : ModuleOrder}
  {entries : List Entry} {e f : Entry} {i j : Nat}

theorem getElem?_modules (h : Assembled a store order entries) (he : entries[i]? = some e)
    (hi : i < order.modules.length) : order.modules[i]? = some e.name := by
  have hname : (entries.map Entry.name)[i]? = some e.name := by
    rw [List.getElem?_map, he, Option.map_some]
  rwa [h.names, List.getElem?_append_left hi] at hname

theorem dependencies_eq (h : Assembled a store order entries) (he : entries[i]? = some e)
    (hi : i < order.modules.length) : store.graph.dependencies e.name = e.dependencies := by
  obtain ⟨r, hr, hdescribes⟩ := h.described i e he hi
  rw [Store.dependencies_graph hr, hdescribes.dependencies]

/-- Only modules have dependencies. -/
theorem lt_of_mem_dependencies {d : String} (h : Assembled a store order entries)
    (he : entries[i]? = some e) (hd : d ∈ e.dependencies) : i < order.modules.length := by
  by_contra hle
  rw [h.bare i e he (by omega)] at hd
  simp at hd

/-- All entries are for modules but the one of the helpers, which is the last. -/
theorem lt_of_not_helper (h : Assembled a store order entries) (hi : i < entries.length)
    (hnot : ¬ (a.needsHelper order ∧ i + 1 = entries.length)) : i < order.modules.length := by
  have hlength := congrArg List.length h.names
  rw [List.length_map, List.length_append] at hlength
  by_cases hneeds : a.needsHelper order
  · rw [if_pos hneeds, List.length_singleton] at hlength
    have hne : i + 1 ≠ entries.length := fun heq => hnot ⟨hneeds, heq⟩
    omega
  · rw [if_neg hneeds, List.length_nil] at hlength
    omega

theorem nodup_names (h : Assembled a store (store.order entry) entries) (hentry : store.has entry) :
    (entries.map Entry.name).Nodup := by
  have hmodules := store.nodup_modules hentry
  rw [h.names]
  split
  · next hneeds =>
    -- The helpers are absent from the store, so no module of it has their name.
    have habsent : helperName ∈ (store.order entry).absent := by
      simp only [Assembler.needsHelper, Bool.and_eq_true, decide_eq_true_eq] at hneeds
      exact hneeds.2
    have hnot := Store.notMem_modules_of_mem_absent hentry habsent
    exact hmodules.append (List.nodup_singleton _) (List.disjoint_singleton.2 hnot)
  · rwa [List.append_nil]

theorem mem_names_or_mem_absent {d : String} (h : Assembled a store (store.order entry) entries)
    (hentry : store.has entry) (he : e ∈ entries) (hd : d ∈ e.dependencies) :
    d ∈ entries.map Entry.name ∨ d ∈ (store.order entry).absent := by
  obtain ⟨i, he⟩ := List.getElem?_of_mem he
  have hi := h.lt_of_mem_dependencies he hd
  have hmodule : e.name ∈ (store.order entry).modules :=
    List.mem_of_getElem? (h.getElem?_modules he hi)
  rw [← h.dependencies_eq he hi] at hd
  rw [h.names, List.mem_append]
  rcases Store.mem_modules_or_mem_absent hentry hmodule hd with hlisted | habsent
  · exact .inl (.inl hlisted)
  · exact .inr habsent

theorem mem_circular (h : Assembled a store (store.order entry) entries)
    (hentry : store.has entry) (he : entries[i]? = some e) (hf : entries[j]? = some f)
    (hle : i ≤ j) (hj : j < (store.order entry).modules.length)
    (hdependency : f.name ∈ e.dependencies) : f.name ∈ (store.order entry).circular := by
  have hi : i < (store.order entry).modules.length := by omega
  rw [← h.dependencies_eq he hi] at hdependency
  exact Store.mem_circular_of_le hentry (h.getElem?_modules he hi) (h.getElem?_modules hf hj) hle
    hdependency

end Assembled

/-- The entries that are read back from the text of an array, and the items that they are read
from. -/
structure Emitted (text : String) (items : List Value) (entries : List Entry) : Prop where
  parsed : Json.parse text = .ok (.list items)
  read : items.mapM Entry.ofWire = .ok entries

theorem Emitted.unique {text : String} {items items' : List Value} {entries entries' : List Entry}
    (h : Emitted text items entries) (h' : Emitted text items' entries') :
    items = items' ∧ entries = entries' := by
  have hitems := h.parsed.symm.trans h'.parsed
  cases hitems
  exact ⟨rfl, Except.ok.inj (h.read.symm.trans h'.read)⟩

theorem emitted_serializeEntries (entries : List Entry) :
    Emitted (serializeEntries entries) (entries.map Entry.toWire)
      (entries.map Entry.settled) := by
  refine ⟨parse_serializeEntries entries, ?_⟩
  rw [List.mapM_map]
  have hread : (fun e : Entry => Entry.ofWire e.toWire) =
      fun e : Entry => (pure e.settled : Except Entry.WireError Entry) :=
    funext Entry.ofWire_toWire
  rw [Function.comp_def, hread, List.mapM_pure]
  rfl

namespace Assembler

open Build

variable {a : Assembler} {s s' : BuildState} {text : String}

theorem exists_assembled (h : a.assembleArray.outcome s = (.ok text, s')) :
    ∃ entry entries, s.store.has entry ∧ a.order s.files s.store = .ok (s.store.order entry) ∧
      Assembled a s.store (s.store.order entry) entries ∧ text = serializeEntries entries := by
  obtain ⟨entries, hentries, rfl⟩ := outcome_map_eq_ok_iff.1 h
  obtain ⟨order, horder, hassembled⟩ := assembled_of_assembleEntries hentries
  obtain ⟨entry, -, hentry, rfl⟩ := exists_entry_of_order horder
  exact ⟨entry, entries, hentry, horder, hassembled, rfl⟩

/-- The emitted array names the modules of the order and then the helpers if they are needed, each
once. Each module keeps its dependencies, and each dependency is named or absent. -/
theorem assembleArray_closed (a : Assembler) (s s' : BuildState) (text : String)
    (h : a.assembleArray.outcome s = (.ok text, s')) :
    ∃ order items entries, a.order s.files s.store = .ok order ∧ Emitted text items entries ∧
      entries.map Entry.name = order.modules ++
        (if a.config.embedHelper.isTruthy ∧ helperName ∈ order.absent then [helperName] else []) ∧
      (entries.map Entry.name).Nodup ∧
      (∀ i e, i < order.modules.length → entries[i]? = some e →
        ∃ r, s.store.get? e.name = some r ∧ e.dependencies = r.dependencies) ∧
      ∀ e ∈ entries, ∀ d ∈ e.dependencies, d ∈ entries.map Entry.name ∨ d ∈ order.absent := by
  obtain ⟨entry, entries, hentry, horder, hassembled, rfl⟩ := exists_assembled h
  have hnames : (entries.map Entry.settled).map Entry.name = entries.map Entry.name := by
    rw [List.map_map]
    rfl
  refine ⟨_, _, _, horder, emitted_serializeEntries entries, ?_, ?_, ?_, ?_⟩
  · rw [hnames, hassembled.names]
    simp only [needsHelper, Bool.and_eq_true, decide_eq_true_eq]
  · rw [hnames]
    exact hassembled.nodup_names hentry
  · intro i e hi he
    rw [List.getElem?_map] at he
    obtain ⟨w, hw, rfl⟩ := Option.map_eq_some_iff.1 he
    obtain ⟨r, hr, hdescribes⟩ := hassembled.described i w hw hi
    exact ⟨r, hr, hdescribes.dependencies⟩
  · intro e he d hd
    obtain ⟨w, hw, rfl⟩ := List.mem_map.1 he
    rw [hnames]
    exact hassembled.mem_names_or_mem_absent hentry hw hd

def circleAssembler : Assembler where
  config :=
    { projectDir := ⟨.root, ["p"]⟩
      entryModule := .text "main.ts"
      entryFunction := .text "run"
      outFile := ⟨.root, ["p", "out.js"]⟩
      compiler := default }
  specifiers := ⟨⟨.root, ["p"]⟩, .listed [], []⟩
  minifier := .identity

/-- The entry module and the module that it depends on lie on a circle; the code of both is there
already, and the helpers are in their place. -/
def circleState : BuildState where
  files := FileTree.mk [] [(["p"], .directory), (["p", "node_modules"], .directory),
    (["p", "node_modules", "tslib"], .directory),
    (["p", "node_modules", "tslib", "tslib.js"], .file .empty)]
  store := .ofRecords
    [{ name := "/main", dependencies := ["/a", "tslib", "/a"], code := some "m" },
      { name := "/a", dependencies := ["/main"], exports := .ofList ["y", "x"],
        reexports := ["z", "/main"], code := some "a" }]
  calls := []
  minifiedLoader := none

def circleEntries : List Entry :=
  [⟨"/main", ["/a", "tslib", "/a"], none, "m"⟩,
    ⟨"/a", ["/main"], some ⟨["/main", "z"], ["x", "y"], false, none⟩, "a"⟩,
    ⟨"tslib", [], none, helperCode ""⟩]

theorem sorted_circle : ["/main", "z"] = sortNames ["z", "/main"] :=
  eq_sortNames_iff.2 ⟨by decide, .swap "z" "/main" []⟩

theorem outcome_circle :
    circleAssembler.assembleArray.outcome circleState =
      (.ok (serializeEntries circleEntries), circleState) := by
  rw [circleEntries, sorted_circle]
  rfl

theorem assembleArray_closed_circle :
    circleAssembler.assembleArray.outcome circleState =
      (.ok (serializeEntries circleEntries), circleState) ∧
    ∃ order items entries,
      circleAssembler.order circleState.files circleState.store = .ok order ∧
      Emitted (serializeEntries circleEntries) items entries ∧
      entries.map Entry.name = ["/main", "/a", "tslib"] := by
  obtain ⟨order, items, entries, horder, hemitted, hnames, -⟩ :=
    assembleArray_closed circleAssembler circleState circleState _ outcome_circle
  refine ⟨outcome_circle, order, items, entries, horder, hemitted, ?_⟩
  cases horder
  exact hnames

/-- What an entry depends on that is not emitted before it lies on a circle, and carries the lists
of its exports as far as they are not empty; the helpers alone do not. -/
theorem assembleArray_forward (a : Assembler) (s s' : BuildState) (text : String)
    (h : a.assembleArray.outcome s = (.ok text, s')) :
    ∃ order items entries, a.order s.files s.store = .ok order ∧ Emitted text items entries ∧
      ∀ i j e f, entries[i]? = some e → entries[j]? = some f → i ≤ j → f.name ∈ e.dependencies →
        ¬ (a.needsHelper order ∧ j + 1 = entries.length) →
        f.name ∈ order.circular ∧
          ∃ r wire, s.store.get? f.name = some r ∧ items[j]? = some wire ∧
            (r.exports.names ≠ [] →
              wire.wireField? "exports" = some (.list (r.exports.names.map .text))) ∧
            (r.reexports ≠ [] → ∃ sorted : List String, sorted.Pairwise (· ≤ ·) ∧
              sorted.Perm r.reexports ∧
                wire.wireField? "exportRefs" = some (.list (sorted.map .text))) := by
  obtain ⟨entry, entries, hentry, horder, hassembled, rfl⟩ := exists_assembled h
  refine ⟨_, _, _, horder, emitted_serializeEntries entries, ?_⟩
  intro i j e f he hf hle hdependency hhelper
  rw [List.getElem?_map] at he hf
  obtain ⟨v, hv, rfl⟩ := Option.map_eq_some_iff.1 he
  obtain ⟨w, hw, rfl⟩ := Option.map_eq_some_iff.1 hf
  have hj : j < (s.store.order entry).modules.length := by
    obtain ⟨hlt, -⟩ := List.getElem?_eq_some_iff.1 hw
    rw [List.length_map] at hhelper
    exact hassembled.lt_of_not_helper hlt hhelper
  have hcircular := hassembled.mem_circular hentry hv hw hle hj hdependency
  obtain ⟨r, hr, hdescribes⟩ := hassembled.described j w hw hj
  rw [decide_eq_true hcircular] at hdescribes
  refine ⟨hcircular, r, w.toWire, hr, ?_, hdescribes.wireField?_lists⟩
  rw [List.getElem?_map, hw, Option.map_some]

theorem assembleArray_forward_circle :
    circleAssembler.assembleArray.outcome circleState =
      (.ok (serializeEntries circleEntries), circleState) ∧
    ∃ order items entries wire,
      circleAssembler.order circleState.files circleState.store = .ok order ∧
      Emitted (serializeEntries circleEntries) items entries ∧
      "/a" ∈ order.circular ∧ items[1]? = some wire ∧
      wire.wireField? "exports" = some (.list [.text "x", .text "y"]) ∧
      wire.wireField? "exportRefs" = some (.list [.text "/main", .text "z"]) := by
  obtain ⟨order, items, entries, horder, hemitted, hforward⟩ :=
    assembleArray_forward circleAssembler circleState circleState _ outcome_circle
  obtain ⟨rfl, rfl⟩ := hemitted.unique (emitted_serializeEntries circleEntries)
  have hdependency : "/a" ∈ ["/a", "tslib", "/a"] := by decide
  obtain ⟨hcircular, r, wire, hr, hwire, hexports, hreexports⟩ :=
    hforward 0 1 _ _ rfl rfl (by decide) hdependency fun h => absurd h.2 (by decide)
  cases hr
  obtain ⟨sorted, hsorted, hperm, hrefs⟩ := hreexports (by decide)
  obtain rfl : sorted = ["/main", "z"] :=
    (eq_sortNames_iff.2 ⟨hsorted, hperm⟩).trans sorted_circle.symm
  exact ⟨outcome_circle, _, _, _, wire, horder, hemitted, hcircular, hwire, hexports (by decide),
    hrefs⟩

end Assembler

end ModulePack
