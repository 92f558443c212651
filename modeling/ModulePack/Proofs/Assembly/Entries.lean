import ModulePack.Proofs.Assembly.Outcome
import ModulePack.Proofs.Entry.Wire
import ModulePack.Proofs.Order.Listing
import ModulePack.Proofs.Path.Naming

/-!
# The entries of a bundle

An assembly that succeeds gives one entry for each module of the order, in its place, and the
helpers behind them if they are needed. What an entry says about its module apart from the code is
settled by the record and by whether the module lies on a circle, so loading code changes none of
it.
-/

namespace ModulePack

namespace Record

def entryMeta (r : Record) (circular : Bool) : Option EntryMeta :=
  if r.needsMeta circular then
    some ⟨if circular then sortNames r.reexports else [],
      if circular then r.exports.names else [], r.opaqueExport, r.altName⟩
  else none

theorem toEntry_eq (r : Record) (circular : Bool) :
    r.toEntry circular =
      if r.code.getD "" = "" then .error (.codeMissing r.name)
      else .ok ⟨r.name, r.dependencies, r.entryMeta circular, r.code.getD ""⟩ := rfl

end Record

def Value.wireField? (wire : Value) (key : String) : Option Value :=
  match wire with
  | .list [_, _, .table fields, _] => Dictionary.find? fields key
  | _ => none

theorem Entry.wireField?_toWire {e : Entry} {m : EntryMeta} (h : e.metadata = some m)
    (key : String) : e.toWire.wireField? key = Dictionary.find? m.toFields key := by
  rw [Entry.toWire, Entry.toItems, h]
  rfl

/-- Whether an entry says what the record of its module says, whatever the code. -/
structure Entry.Describes (e : Entry) (r : Record) (circular : Bool) : Prop where
  name : e.name = r.name
  dependencies : e.dependencies = r.dependencies
  metadata : e.metadata = r.entryMeta circular

namespace Entry.Describes

variable {e : Entry} {r q : Record} {circular : Bool}

theorem of_toEntry (h : r.toEntry circular = .ok e) : e.Describes r circular := by
  rw [Record.toEntry_eq] at h
  split at h
  · simp at h
  · cases h
    exact ⟨rfl, rfl, rfl⟩

theorem withoutCode_iff : e.Describes r.withoutCode circular ↔ e.Describes r circular :=
  ⟨fun h => ⟨h.name, h.dependencies, h.metadata⟩, fun h => ⟨h.name, h.dependencies, h.metadata⟩⟩

theorem of_withoutCode_eq (h : e.Describes r circular) (hr : r.withoutCode = q.withoutCode) :
    e.Describes q circular := by
  rw [← withoutCode_iff] at h ⊢
  rwa [← hr]

/-- On a circle, each list of the record that is not empty is written. -/
theorem wireField?_lists (h : e.Describes r true) :
    (r.exports.names ≠ [] →
      e.toWire.wireField? "exports" = some (.list (r.exports.names.map .text))) ∧
    (r.reexports ≠ [] → ∃ sorted : List String, sorted.Pairwise (· ≤ ·) ∧
      sorted.Perm r.reexports ∧
        e.toWire.wireField? "exportRefs" = some (.list (sorted.map .text))) := by
  by_cases hneeds : r.needsMeta true
  · let m : EntryMeta := ⟨sortNames r.reexports, r.exports.names, r.opaqueExport, r.altName⟩
    have hmeta : e.metadata = some m := by
      rw [h.metadata, Record.entryMeta, if_pos hneeds]
      rfl
    obtain ⟨hreexports, hexports, -⟩ := m.find?_toFields
    rw [Entry.wireField?_toWire hmeta, Entry.wireField?_toWire hmeta, hreexports, hexports]
    exact ⟨fun hne => if_neg hne, fun hne => ⟨_, pairwise_sortNames _, perm_sortNames _,
      if_neg (mt sortNames_eq_nil_iff.1 hne)⟩⟩
  · have hnone : r.exports.names = [] ∧ r.reexports = [] := by
      simp only [Record.needsMeta, NameSet.isEmpty] at hneeds
      grind
    simp [hnone]

end Entry.Describes

def Entry.DescribedIn (e : Entry) (store : Store) (circular : NameSet) : Prop :=
  ∃ r, store.get? e.name = some r ∧ e.Describes r (decide (e.name ∈ circular))

theorem Entry.DescribedIn.of_agreesButCode {e : Entry} {store loaded : Store} {circular : NameSet}
    (h : e.DescribedIn loaded circular) (hstore : store.AgreesButCode loaded) :
    e.DescribedIn store circular := by
  obtain ⟨r, hr, he⟩ := h
  obtain ⟨q, hq, hqr⟩ := hstore.exists_get? hr
  exact ⟨q, hq, he.of_withoutCode_eq hqr.symm⟩

/-- What an assembly gives for an order: one entry for each module as its record says, and the
helpers behind them if they are needed. -/
structure Assembled (a : Assembler) (store : Store) (order : ModuleOrder) (entries : List Entry) :
    Prop where
  names : entries.map Entry.name =
    order.modules ++ if a.needsHelper order then [helperName] else []
  described : ∀ i e, entries[i]? = some e → i < order.modules.length →
    e.DescribedIn store order.circular
  bare : ∀ i e, entries[i]? = some e → order.modules.length ≤ i → e.dependencies = []

namespace Assembler

open Build

theorem of_entriesOf {store : Store} {order : ModuleOrder} {entries : List Entry}
    (h : entriesOf store order = .ok entries) :
    entries.map Entry.name = order.modules ∧ ∀ e ∈ entries, e.DescribedIn store order.circular := by
  have hentry : List.Forall₂ (fun name e => e.name = name ∧ e.DescribedIn store order.circular)
      order.modules entries := by
    refine (mapM_eq_ok_iff.1 h).imp fun name e he => ?_
    obtain ⟨r, hr, he⟩ := bind_eq_ok_iff.1 he
    have hr : store.get? name = some r := Store.fetch_eq_ok_iff.1 hr
    have hdescribes := Entry.Describes.of_toEntry (mapError_eq_ok_iff.1 he)
    obtain rfl : e.name = name := hdescribes.name.trans (Store.name_of_get? hr)
    exact ⟨rfl, r, hr, hdescribes⟩
  clear h
  generalize order.modules = names at hentry
  induction hentry with
  | nil => simp
  | cons hfirst _ ih =>
    obtain ⟨rfl, hfirst⟩ := hfirst
    exact ⟨by rw [List.map_cons, ih.1], List.forall_mem_cons.2 ⟨hfirst, ih.2⟩⟩

theorem code_ne_empty_of_entriesOf {store : Store} {order : ModuleOrder} {entries : List Entry}
    (h : entriesOf store order = .ok entries) :
    ∀ e ∈ entries, e.code ≠ "" := by
  intro e he
  obtain ⟨name, -, he⟩ := (mem_iff_of_mapM_eq_ok h).1 he
  obtain ⟨r, -, he⟩ := bind_eq_ok_iff.1 he
  rw [mapError_eq_ok_iff, Record.toEntry_eq] at he
  split at he
  · cases he
  next hne =>
    cases he
    exact hne

variable {a : Assembler} {s s' : BuildState} {entries : List Entry}

theorem exists_entry_of_order {fs : FileSystem} {store : Store} {order : ModuleOrder}
    (h : a.order fs store = .ok order) :
    ∃ entry, a.entryName fs = .ok entry ∧ store.has entry ∧ order = store.order entry := by
  obtain ⟨entry, hname, h⟩ := bind_eq_ok_iff.1 h
  split at h
  · next hentry => exact ⟨entry, mapError_eq_ok_iff.1 hname, hentry, (Except.ok.inj h).symm⟩
  · simp at h

/-- The order hangs on the store through the entry module alone. -/
theorem order_congr {fs : FileSystem} {s t : Store}
    (h : ∀ entry, a.entryName fs = .ok entry →
      t.has entry = s.has entry ∧ t.order entry = s.order entry) :
    a.order fs t = a.order fs s := by
  rw [order, order]
  cases hentry : a.entryName fs with
  | error fault => rfl
  | ok entry =>
    obtain ⟨hhas, horder⟩ := h entry hentry
    simp only [Except.mapError, bind, Except.bind, hhas, horder]

theorem fileText_eq_ok_iff {fs : FileSystem} {file : Path} {unreadable : FileError → BundleError}
    {text : String} : fileText fs file unreadable = .ok text ↔ fs.readText file = .ok text := by
  rw [fileText]
  cases fs.readText file with
  | ok text => simp
  | error fault => cases fault <;> simp

theorem helperText_eq (a : Assembler) (fs : FileSystem) :
    a.helperText fs =
      match fs.ask (fun _ => true) a.helperDirectory, fs.ask Node.isDirectory a.helperDirectory with
      | .error r, _ | .ok true, .error r => .error (.fault (.refused r))
      | .ok false, _ => .error (.bundle (.helperNotFound a.helperDirectory))
      | .ok true, .ok false => .error (.bundle (.helperNotDirectory a.helperDirectory))
      | .ok true, .ok true => fileText fs a.helperFile (.helperUnreadable a.helperFile) := by
  simp only [helperText, orRefused]
  rcases fs.ask (fun _ => true) a.helperDirectory with r | _ | _ <;>
    rcases fs.ask Node.isDirectory a.helperDirectory with r | _ | _ <;> rfl

/-- The helpers are read from their file, which must lie in a directory. -/
theorem helperText_eq_ok_iff {fs : FileSystem} {text : String} :
    a.helperText fs = .ok text ↔
      fs.find a.helperDirectory = .ok .directory ∧ fs.readText a.helperFile = .ok text := by
  simp only [helperText, FileSystem.ask, orRefused]
  by_cases hvalid : a.helperDirectory.isValid
  · rcases fs.find a.helperDirectory with fault | _ | bytes
    · cases fault <;> simp [hvalid, Except.mapError, bind, Except.bind]
    · simp [hvalid, Except.mapError, bind, Except.bind, Node.isDirectory, fileText_eq_ok_iff]
    · simp [hvalid, Except.mapError, bind, Except.bind, Node.isDirectory]
  · -- The file is no name of a file either.
    have hinvalid : ¬ a.helperFile.isValid := fun h => hvalid ((Path.isValid_div_iff.1 h).1 rfl)
    simp [hvalid, Except.mapError, FileSystem.readText, hinvalid, bind, Except.bind]

/-- The entry of the helpers is made of their file, which must lie in a directory. -/
theorem outcome_helperEntry_eq_ok_iff {e : Entry} :
    a.helperEntry.outcome s = (.ok e, s') ↔
      s.files.find a.helperDirectory = .ok .directory ∧
        ∃ text code, s.files.readText a.helperFile = .ok text ∧
          (a.minifyIfConfigured (helperCode text) helperName a.config.compiler.target).outcome s =
            (.ok code, s') ∧ e = { name := helperName, code } := by
  simp only [helperEntry, outcome_bind_eq_ok_iff, outcome_get, outcome_liftResult, outcome_pure,
    Prod.mk.injEq, Except.ok.injEq, helperText_eq_ok_iff]
  grind

theorem of_helperEntry {e : Entry} (h : a.helperEntry.outcome s = (.ok e, s')) :
    e.name = helperName ∧ e.dependencies = [] := by
  obtain ⟨-, _, _, -, -, rfl⟩ := outcome_helperEntry_eq_ok_iff.1 h
  exact ⟨rfl, rfl⟩

theorem outcome_gather (a : Assembler) (order : ModuleOrder) (s : BuildState) :
    ((a.gather order).outcome s).1 = entriesOf s.store order >>= fun modules =>
      if a.needsHelper order then (a.helperEntry.outcome s).1.map fun e => modules ++ [e]
      else .ok modules := by
  simp only [gather, outcome_bind, outcome_get, outcome_liftResult]
  cases entriesOf s.store order with
  | error e => rfl
  | ok modules =>
    by_cases hneeds : a.needsHelper order
    · simp only [if_pos hneeds, outcome_bind]
      rcases a.helperEntry.outcome s with ⟨e | e, t⟩ <;> rfl
    · simp only [if_neg hneeds]
      rfl

theorem outcome_gather_eq_ok_iff {order : ModuleOrder} :
    (a.gather order).outcome s = (.ok entries, s') ↔
      ∃ modules, entriesOf s.store order = .ok modules ∧
        if a.needsHelper order then
          ∃ e, a.helperEntry.outcome s = (.ok e, s') ∧ entries = modules ++ [e]
        else s' = s ∧ entries = modules := by
  simp only [gather, outcome_bind_eq_ok_iff, outcome_get, outcome_liftResult, Prod.mk.injEq,
    Except.ok.injEq]
  by_cases hneeds : a.needsHelper order
  · simp only [if_pos hneeds, outcome_bind_eq_ok_iff, outcome_pure, Prod.mk.injEq,
      Except.ok.injEq]
    grind
  · simp only [if_neg hneeds, outcome_pure, Prod.mk.injEq, Except.ok.injEq]
    grind

theorem outcome_assembleEntries_eq {order : ModuleOrder}
    (horder : a.order s.files s.store = .ok order) (hfilters : a.checkModules order = .ok ())
    (hload : (a.loadMissing order.modules).outcome s = (.ok (), s')) :
    a.assembleEntries.outcome s = (a.gather order).outcome s' := by
  simp only [assembleEntries_eq, outcome_bind, outcome_get, outcome_liftResult, horder, hfilters,
    hload]

inductive StopsFirst (a : Assembler) (s : BuildState) : Error → Prop
  | order {e : Error} (h : a.order s.files s.store = .error e) : StopsFirst a s e
  | names {order : ModuleOrder} {e : Error} (horder : a.order s.files s.store = .ok order)
      (h : a.checkModules order = .error e) : StopsFirst a s e
  | records {order : ModuleOrder} {e : Error} (horder : a.order s.files s.store = .ok order)
      (h : modulesToLoad s.store order.modules = .error e) : StopsFirst a s e

/-- An assembly is refused before anything is loaded, or it loads those modules of its order that
have no code and goes on from there. -/
theorem outcome_assembleEntries_bind {β : Type} (a : Assembler) (s : BuildState)
    (finish : List Entry → Build β) :
    (∃ e, a.StopsFirst s e ∧ (a.assembleEntries >>= finish).outcome s = (.error e, s)) ∨
      ∃ order pending, a.order s.files s.store = .ok order ∧
        a.checkModules order = .ok () ∧ modulesToLoad s.store order.modules = .ok pending ∧
        (a.assembleEntries >>= finish).outcome s =
          (a.loadAll pending >>= fun _ => a.gather order >>= finish).outcome s := by
  simp only [assembleEntries_eq, loadMissing, bind_assoc]
  rw [outcome_bind, outcome_get]
  simp only
  rw [outcome_bind, outcome_liftResult]
  cases horder : a.order s.files s.store with
  | error e => exact .inl ⟨e, .order horder, rfl⟩
  | ok order =>
    simp only
    rw [outcome_bind, outcome_liftResult]
    cases hfilters : a.checkModules order with
    | error e => exact .inl ⟨e, .names horder hfilters, rfl⟩
    | ok _ =>
      simp only
      rw [outcome_bind, outcome_get]
      simp only
      rw [outcome_bind, outcome_liftResult]
      cases hpending : modulesToLoad s.store order.modules with
      | error e => exact .inl ⟨e, .records horder hpending, rfl⟩
      | ok pending => exact .inr ⟨order, pending, rfl, hfilters, hpending, rfl⟩

/-- An assembly that succeeds loads all modules of its order, which pass the filters, and goes on
with their entries. -/
theorem exists_load_of_assembleEntries (h : a.assembleEntries.outcome s = (.ok entries, s')) :
    ∃ order t, a.order s.files s.store = .ok order ∧ a.checkModules order = .ok () ∧
      (a.loadMissing order.modules).outcome s = (.ok (), t) ∧
      (a.gather order).outcome t = (.ok entries, s') := by
  simp only [assembleEntries_eq, outcome_bind_eq_ok_iff, outcome_get, outcome_liftResult,
    Prod.mk.injEq, Except.ok.injEq] at h
  obtain ⟨_, _, ⟨rfl, rfl⟩, order, _, ⟨horder, rfl⟩, ⟨⟩, _, ⟨hfilters, rfl⟩, ⟨⟩, t, hload,
    hgather⟩ := h
  exact ⟨order, t, horder, hfilters, hload, hgather⟩

/-- The parts of an assembly that succeeds: the entries of the modules, for a store that differs in
its code at most, and the entry of the helpers. -/
theorem of_assembleEntries (h : a.assembleEntries.outcome s = (.ok entries, s')) :
    ∃ order store modules helpers, a.order s.files s.store = .ok order ∧
      s.store.AgreesButCode store ∧ entriesOf store order = .ok modules ∧
      entries = modules ++ helpers ∧
      helpers.map Entry.name = (if a.needsHelper order then [helperName] else []) ∧
      ∀ e ∈ helpers, e.dependencies = [] := by
  obtain ⟨order, t, horder, -, hload, h⟩ := exists_load_of_assembleEntries h
  have hstore : s.store.AgreesButCode t.store :=
    ((a.onlyLoads_loadMissing order.modules).loadsInto hload).store
  obtain ⟨modules, hmodules, h⟩ := outcome_gather_eq_ok_iff.1 h
  refine ⟨order, t.store, modules, ?_⟩
  split at h
  · next hneeds =>
    obtain ⟨e, he, rfl⟩ := h
    obtain ⟨hname, hbare⟩ := of_helperEntry he
    exact ⟨[e], horder, hstore, hmodules, rfl, by simp [hneeds, hname], by simp [hbare]⟩
  · next hneeds =>
    obtain ⟨-, rfl⟩ := h
    exact ⟨[], horder, hstore, hmodules, by simp, by simp [hneeds], by simp⟩

theorem assembled_of_assembleEntries (h : a.assembleEntries.outcome s = (.ok entries, s')) :
    ∃ order, a.order s.files s.store = .ok order ∧ Assembled a s.store order entries := by
  obtain ⟨order, store, modules, helpers, horder, hstore, hmodules, rfl, hhelpers, hbare⟩ :=
    of_assembleEntries h
  obtain ⟨hnames, hdescribed⟩ := of_entriesOf hmodules
  have hlength : modules.length = order.modules.length := by rw [← hnames, List.length_map]
  refine ⟨order, horder, ?_, ?_, ?_⟩
  · rw [List.map_append, hnames, hhelpers]
  · intro i e he hi
    rw [List.getElem?_append_left (by omega)] at he
    exact (hdescribed e (List.mem_of_getElem? he)).of_agreesButCode hstore
  · intro i e he hi
    rw [List.getElem?_append_right (by omega)] at he
    exact hbare e (List.mem_of_getElem? he)

end Assembler

end ModulePack
