import ModulePack.Proofs.Assembly.Emitted
import ModulePack.Proofs.Assembly.Result
import ModulePack.Proofs.Order.Agreement

/-!
# Orders of loading, and assembling again

The loads of modules succeed in every order or in none, and leave the same store where they succeed.
What loads that failed have left in the store is code that the next assembly would load again, so it
does not show: the next assembly comes to what it would have come to without them.
-/

namespace ModulePack

theorem Store.order_eq_of_graph_eq {s t : Store} (h : s.graph = t.graph) (entry : String) :
    t.order entry = s.order entry :=
  order_eq_of_agreesFrom ⟨fun _ _ => by rw [h], fun _ _ _ _ => by rw [h]⟩

namespace Assembler

open Build

variable {a : Assembler} {f : MinifyCall → Except MinifyError String} {s : BuildState}
  {fs fs' : FileSystem} {store : Store} {done names pending : List String} {name : String}

theorem produced_eq_of_readText_eq
    (h : fs'.readText (a.codeFile name) = fs.readText (a.codeFile name)) :
    a.produced f fs' name = a.produced f fs name := by
  simp only [produced, fileText, h]

theorem order_eq_of_agreesButCode {t : Store} (h : store.AgreesButCode t) :
    a.order fs t = a.order fs store := by
  refine order_congr fun entry _ => ⟨(h.isSome_get? entry).symm, ?_⟩
  exact Store.order_eq_of_graph_eq h.graph_eq entry

/-- Code that a load would produce again makes no difference to the code of its module. -/
theorem codeOf?_fill {r : Record} (hlacks : r.name ∈ done → r.hasCode = false)
    (hagain : r.name ∈ done → (a.produced f fs r.name).toOption.isSome →
      a.produced f fs' r.name = a.produced f fs r.name) :
    a.codeOf? f fs' (r.fill (a.producedBy f fs done)) = a.codeOf? f fs' r := by
  by_cases hdone : r.name ∈ done
  · cases hproduced : (a.produced f fs r.name).toOption with
    | none => rw [Record.fill_of_eq_none (by rw [producedBy, if_pos hdone, hproduced])]
    | some code =>
      have hfilled : r.fill (a.producedBy f fs done) = { r with code := some code } := by
        rw [Record.fill, producedBy, if_pos hdone, hproduced, Option.some_or]
      have hagain := hagain hdone (by rw [hproduced]; rfl)
      rw [hfilled, codeOf?, codeOf?, hlacks hdone, hagain, hproduced]
      simp
  · rw [Record.fill_of_eq_none (if_neg hdone)]

/-- Code that loads have left in a store makes no difference where they would produce it again. -/
theorem result?_fill (hlacks : ∀ name ∈ done, lacksCode store name)
    (hagain : ∀ name ∈ done, (a.produced f fs name).toOption.isSome →
      a.produced f fs' name = a.produced f fs name) :
    a.result? f fs' (store.fill (a.producedBy f fs done)) = a.result? f fs' store := by
  have hentry (circular : NameSet) (name : String) :
      a.entryOf? f fs' (store.fill (a.producedBy f fs done)) circular name =
        a.entryOf? f fs' store circular name := by
    rw [entryOf?, entryOf?, Store.get?_fill]
    cases hr : store.get? name with
    | none => rfl
    | some r =>
      obtain rfl := Store.name_of_get? hr
      have hcode : a.codeOf? f fs' (r.fill (a.producedBy f fs done)) = a.codeOf? f fs' r := by
        refine codeOf?_fill (fun hdone => ?_) (hagain r.name)
        simpa [lacksCode, hr] using hlacks r.name hdone
      simp only [Option.map_some, Option.bind_eq_bind, Option.bind_some, hcode]
      rfl
  rw [result?, result?, order_eq_of_agreesButCode (store.agreesButCode_fill _)]
  simp only [funext (hentry _)]

theorem outcome_loadModule_of_isSome (hf : a.minifier = .ofFunction f) (s : BuildState)
    (h : (a.produced f s.files name).toOption.isSome) :
    ∃ s', (a.loadModule name).outcome s = (.ok (), s') ∧
      s'.store.get? name = (s.store.get? name).map (·.fill (a.producedBy f s.files [name])) := by
  obtain ⟨calls, hcalls⟩ := a.outcome_loadModule hf s name
  cases hproduced : a.produced f s.files name with
  | error e => simp [hproduced, Except.toOption] at h
  | ok code =>
    refine ⟨_, hcalls.trans (by rw [hproduced]; rfl), ?_⟩
    rw [Store.get?_fill]
    cases hr : s.store.get? name with
    | none => rfl
    | some r =>
      obtain rfl := Store.name_of_get? hr
      simp [Record.fill, producedBy, hproduced]

end Assembler

namespace Loading

open Assembler Build

variable {a : Assembler} {f : MinifyCall → Except MinifyError String} {s : BuildState}
  {done order order' pending : List String}

theorem loadAll_eq_ok_iff (a : Assembler) (s : BuildState) (order : List String) :
    ((a.loadAll order).outcome s).1 = .ok () ↔ (after a s order).errors = [] := by
  rcases outcome_loadAll a s order with ⟨hout, herrors⟩ | ⟨done, e, hdone, hout, herrors⟩
  · simp [hout, herrors]
  · have hle := errors_after_of_prefix a s hdone
    rw [herrors] at hle
    have hne : (after a s order).errors ≠ [] :=
      List.ne_nil_of_mem (hle.mem (List.mem_singleton_self e))
    simp [hout, hne]

theorem exists_state_loadAll (a : Assembler) (s : BuildState) (order : List String) :
    ∃ done, done <+: order ∧ ((a.loadAll order).outcome s).2 = (after a s done).state := by
  rcases outcome_loadAll a s order with ⟨hout, -⟩ | ⟨done, e, hdone, hout, -⟩
  · exact ⟨order, List.prefix_refl _, by rw [hout]⟩
  · exact ⟨done, hdone, by rw [hout]⟩

/-- Loads that succeed in one order succeed in every order, with the same store. -/
theorem after_perm (hf : a.minifier = .ofFunction f) (s : BuildState) (h : order.Perm order')
    (hok : (after a s order).errors = []) :
    (after a s order').errors = [] ∧
      (after a s order').state.store = (after a s order).state.store := by
  obtain ⟨_, hstate, herrors⟩ := after_eq hf s order
  obtain ⟨_, hstate', herrors'⟩ := after_eq hf s order'
  have hsame : a.producedBy f s.files order' = a.producedBy f s.files order := by
    funext name
    simp only [producedBy, h.mem_iff]
  refine ⟨herrors'.2 fun name hname => herrors.1 hok name (h.mem_iff.2 hname), ?_⟩
  rw [hstate, hstate', hsame]

/-- A record is as it was, or as the load of its module alone would leave it. -/
theorem get?_after (hf : a.minifier = .ofFunction f) (s : BuildState) (done : List String)
    (name : String) :
    (after a s done).state.store.get? name = s.store.get? name ∨
      name ∈ done ∧ ∃ s', (a.loadModule name).outcome s = (.ok (), s') ∧
        (after a s done).state.store.get? name = s'.store.get? name := by
  obtain ⟨_, hstate, -⟩ := after_eq hf s done
  rw [hstate]
  simp only [Store.get?_fill]
  by_cases hloaded : name ∈ done ∧ (a.produced f s.files name).toOption.isSome
  · obtain ⟨s', hload, hstore⟩ := outcome_loadModule_of_isSome hf s hloaded.2
    refine .inr ⟨hloaded.1, s', hload, ?_⟩
    rw [hstore]
    cases hr : s.store.get? name with
    | none => rfl
    | some r =>
      obtain rfl := Store.name_of_get? hr
      simp [Record.fill, producedBy, hloaded.1]
  · left
    cases hr : s.store.get? name with
    | none => rfl
    | some r =>
      obtain rfl := Store.name_of_get? hr
      rw [not_and, Option.not_isSome_iff_eq_none] at hloaded
      rw [Option.map_some, Record.fill_of_eq_none]
      rw [producedBy]
      split
      · next hdone => exact hloaded hdone
      · rfl

/-- What loads have left makes no difference to an assembly that would load the same. -/
theorem assembleArray_after (hf : a.minifier = .ofFunction f) (s : BuildState) (fs' : FileSystem)
    (hlacks : ∀ name ∈ done, lacksCode s.store name)
    (hagain : ∀ name ∈ done, ∀ s', (a.loadModule name).outcome s = (.ok (), s') →
      fs'.readText (a.codeFile name) = s.files.readText (a.codeFile name)) :
    (a.assembleArray.outcome { (after a s done).state with files := fs' }).1.toOption =
      (a.assembleArray.outcome { s with files := fs' }).1.toOption := by
  obtain ⟨_, hstate, -⟩ := after_eq hf s done
  rw [toOption_assembleArray hf, toOption_assembleArray hf, hstate]
  refine result?_fill hlacks fun name hname hproduced => ?_
  obtain ⟨s', hload, -⟩ := outcome_loadModule_of_isSome hf s hproduced
  exact produced_eq_of_readText_eq (hagain name hname s' hload)

end Loading

namespace Assembler

open Build

/-- With a minifier that answers by the call alone, the loads of the modules that have no code
succeed in every order or in none, and leave the same store where they succeed. Whatever of them has
completed, each record is as it was or holds what the load of its module alone would have left; and
when the files that could not be loaded are there, an assembly comes to the same as if nothing had
been loaded before. -/
theorem loads_in_every_order (a : Assembler) (f : MinifyCall → Except MinifyError String)
    (hf : a.minifier = .ofFunction f) (s : BuildState) (names pending : List String)
    (hpending : modulesToLoad s.store names = .ok pending) :
    (∀ order, order.Perm pending →
      (((a.loadAll order).outcome s).1 = .ok () ↔ (Loading.after a s order).errors = []) ∧
      ∃ done, done <+: order ∧ ((a.loadAll order).outcome s).2 = (Loading.after a s done).state) ∧
    (∀ order order', order.Perm pending → order'.Perm pending →
      (Loading.after a s order).errors = [] →
        (Loading.after a s order').errors = [] ∧
        (Loading.after a s order').state.store = (Loading.after a s order).state.store) ∧
    ∀ order done, order.Perm pending → done <+: order →
      (∀ name,
        (Loading.after a s done).state.store.get? name = s.store.get? name ∨
        name ∈ done ∧ ∃ s', (a.loadModule name).outcome s = (.ok (), s') ∧
          (Loading.after a s done).state.store.get? name = s'.store.get? name) ∧
      ∀ fs',
        (∀ name ∈ pending, ∀ s', (a.loadModule name).outcome s = (.ok (), s') →
          fs'.readText (a.codeFile name) = s.files.readText (a.codeFile name)) →
        (a.assembleArray.outcome { (Loading.after a s done).state with files := fs' }).1.toOption =
          (a.assembleArray.outcome { s with files := fs' }).1.toOption := by
  obtain ⟨-, rfl⟩ := modulesToLoad_eq_ok_iff.1 hpending
  refine ⟨?_, ?_, ?_⟩
  · intro order _
    exact ⟨Loading.loadAll_eq_ok_iff a s order, Loading.exists_state_loadAll a s order⟩
  · intro order order' horder horder' hok
    exact Loading.after_perm hf s (horder.trans horder'.symm) hok
  · intro order done horder hdone
    have hmem {name : String} (hname : name ∈ done) : name ∈ names.filter (lacksCode s.store) :=
      horder.mem_iff.1 (hdone.mem hname)
    refine ⟨Loading.get?_after hf s done, fun fs' hfiles => ?_⟩
    exact Loading.assembleArray_after hf s fs' (fun name hname => List.of_mem_filter (hmem hname))
      fun name hname => hfiles name (hmem hname)

/-- The compiled code of one of two modules is there, and later that of both. -/
def halfCompiled : BuildState where
  files := FileTree.mk [] [(["a.js"], .file "a".toUTF8)]
  store := .ofRecords [{ name := "/main", dependencies := ["/a"] }, { name := "/a" }]
  calls := []
  minifiedLoader := none

def compiled : FileTree :=
  ⟨[], [(["a.js"], .file "a".toUTF8), (["main.js"], .file "m".toUTF8)]⟩

/-- The load of `/main` fails, and that of `/a` completes all the same. -/
theorem loads_in_every_order_halfCompiled :
    modulesToLoad halfCompiled.store ["/a", "/main"] = .ok ["/a", "/main"] ∧
      (Loading.after circleAssembler halfCompiled ["/main", "/a"]).errors ≠ [] ∧
      (circleAssembler.assembleArray.outcome
        { (Loading.after circleAssembler halfCompiled ["/main", "/a"]).state with
          files := compiled }).1.toOption = some "[[\"/a\",\"a\"],[\"/main\",[\"/a\"],\"m\"]]" := by
  have hfails : ((circleAssembler.loadModule "/main").outcome halfCompiled).1 =
      .error (.bundle (.codeUnreadable ⟨.here, ["main.js"]⟩ "/main"
        ⟨.notFound, ⟨.here, ["main.js"]⟩⟩)) := rfl
  have hpending : modulesToLoad halfCompiled.store ["/a", "/main"] = .ok ["/a", "/main"] := rfl
  obtain ⟨-, -, hleft⟩ := loads_in_every_order circleAssembler _ rfl halfCompiled _ _ hpending
  obtain ⟨-, hagain⟩ := hleft ["/main", "/a"] _ (.swap _ _ _) (List.prefix_refl _)
  refine ⟨hpending, by decide, (hagain compiled ?_).trans rfl⟩
  intro name hname s' hload
  rcases List.mem_cons.1 hname with rfl | hname
  · rfl
  · obtain rfl := List.mem_singleton.1 hname
    rw [hload] at hfails
    cases hfails

end Assembler

end ModulePack
