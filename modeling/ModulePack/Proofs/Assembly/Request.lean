import ModulePack.Proofs.Assembly.Session

/-!
# Requests

An assembler is asked for what stands before an array, for an array in between, for the array of
the entries, for the text of the bundle or for its file. Where modules are loaded for that, the
loads may run at once, each of them in one step: all of them complete, or one fails and no more than
some of the others complete. What the loads and all other parts keep, a request keeps.
-/

namespace ModulePack

open Build

namespace Assembler

inductive Request
  | opening
  | wrap (bare : String) (p : LaunchParameters)
  | array
  | code (p : LaunchParameters)
  | produce (p : LaunchParameters)

namespace Request

variable {a : Assembler} {s s' : BuildState} {r : Request} {finish : List Entry → Build String}
  {result : Except Error String} {text : String} {asks : String → Prop}
  {R : BuildState → BuildState → Prop}

def run (a : Assembler) : Request → Build String
  | .opening => a.opening
  | .wrap bare p => a.wrap bare p
  | .array => a.assembleArray
  | .code p => a.assembleCode p
  | .produce p => a.produce p

def finish? (a : Assembler) : Request → Option (List Entry → Build String)
  | .opening | .wrap _ _ => none
  | .array => some fun entries => return serializeEntries entries
  | .code p => some fun entries => a.enclose p (serializeEntries entries)
  | .produce p => some fun entries => do
    let code ← a.enclose p (serializeEntries entries)
    a.writeBundle code
    return code

/-- How a request may end: as if the modules were loaded in turn, or with loads that run at once.
All loads of these complete, or one of those that complete has failed. -/
inductive Ends (a : Assembler) (s : BuildState) (r : Request) :
    Except Error String → BuildState → Prop
  | inTurn {result : Except Error String} {s' : BuildState}
      (h : (r.run a).outcome s = (result, s')) : Ends a s r result s'
  | atOnce {finish : List Entry → Build String} {order : ModuleOrder} {pending done : List String}
      {result : Except Error String} {s' : BuildState} (hfinish : r.finish? a = some finish)
      (horder : a.order s.files s.store = .ok order) (hfilters : a.checkModules order = .ok ())
      (hpending : modulesToLoad s.store order.modules = .ok pending) (hdone : done.Perm pending)
      (hloaded : (Loading.after a s done).errors = [])
      (hend : (a.gather order >>= finish).outcome (Loading.after a s done).state = (result, s')) :
      Ends a s r result s'
  | failed {finish : List Entry → Build String} {order : ModuleOrder}
      {pending done : List String} {e : Error} (hfinish : r.finish? a = some finish)
      (horder : a.order s.files s.store = .ok order) (hfilters : a.checkModules order = .ok ())
      (hpending : modulesToLoad s.store order.modules = .ok pending) (hdistinct : done.Nodup)
      (hdone : done ⊆ pending) (he : e ∈ (Loading.after a s done).errors) :
      Ends a s r (.error e) (Loading.after a s done).state

theorem run_eq (h : r.finish? a = some finish) : r.run a = a.assembleEntries >>= finish := by
  cases r with
  | opening => cases h
  | wrap => cases h
  | array =>
    cases h
    rw [run, assembleArray, ← bind_pure_comp]
  | code p =>
    cases h
    exact a.assembleCode_eq p
  | produce p =>
    cases h
    rw [run, Assembler.produce, assembleCode_eq, bind_assoc]

theorem within_finish (hR : BuildState.Allows asks R) (hloader : a.loader.Within R)
    (hfiles : ∀ s files, R s { s with files }) (h : r.finish? a = some finish)
    (entries : List Entry) : (finish entries).Within R := by
  cases r with
  | opening => cases h
  | wrap => cases h
  | array =>
    cases h
    exact .pure hR _
  | code p =>
    cases h
    exact a.within_enclose hR hloader p _
  | produce p =>
    cases h
    exact .bind hR (a.within_enclose hR hloader p _) fun code =>
      .bind hR (a.within_writeBundle hfiles code) fun _ => .pure hR code

/-- A request for which entries are assembled loads some modules that have no code, each of them
once, and either stops there or goes on with entries. -/
theorem Ends.exists_loads (h : r.Ends a s result s') (hfinish : r.finish? a = some finish) :
    ∃ done, done.Nodup ∧ (∀ name ∈ done, lacksCode s.store name) ∧
      ((∃ e, result = .error e ∧ s' = (Loading.after a s done).state) ∨
        ∃ order, (a.gather order >>= finish).outcome (Loading.after a s done).state =
          (result, s')) := by
  have hlacks {order : ModuleOrder} {pending done : List String}
      (hpending : modulesToLoad s.store order.modules = .ok pending) (hdone : done ⊆ pending) :
      ∀ name ∈ done, lacksCode s.store name := by
    obtain ⟨-, rfl⟩ := modulesToLoad_eq_ok_iff.1 hpending
    exact fun name hname => List.of_mem_filter (hdone hname)
  cases h with
  | inTurn h =>
    rw [run_eq hfinish] at h
    rcases outcome_assembleEntries_bind a s finish with
      ⟨e, -, hout⟩ | ⟨order, pending, horder, -, hpending, hout⟩
    · cases hout.symm.trans h
      exact ⟨[], List.nodup_nil, by simp, .inl ⟨e, rfl, rfl⟩⟩
    · have hdistinct : pending.Nodup := Call.nodup_pending horder hpending
      rw [hout, outcome_bind] at h
      rcases Loading.outcome_loadAll a s pending with ⟨hload, -⟩ | ⟨done, e, hdone, hload, -⟩
      · rw [hload] at h
        exact ⟨pending, hdistinct, hlacks hpending (List.Subset.refl _), .inr ⟨order, h⟩⟩
      · rw [hload] at h
        cases h
        exact ⟨done, hdistinct.sublist hdone.sublist, hlacks hpending hdone.subset,
          .inl ⟨e, rfl, rfl⟩⟩
  | @atOnce _ order _ done _ _ hfinish' horder _ hpending hdone _ hend =>
    cases hfinish.symm.trans hfinish'
    exact ⟨done, hdone.nodup_iff.2 (Call.nodup_pending horder hpending),
      hlacks hpending hdone.subset, .inr ⟨order, hend⟩⟩
  | @failed _ _ _ done e _ _ _ hpending hdistinct hdone _ =>
    exact ⟨done, hdistinct, hlacks hpending hdone, .inl ⟨e, rfl, rfl⟩⟩

/-- A request for which no entries are assembled does not load modules. -/
theorem Ends.outcome_run (h : r.Ends a s result s') (hfinish : r.finish? a = none) :
    (r.run a).outcome s = (result, s') := by
  cases h with
  | inTurn h => exact h
  | atOnce hfinish' => cases hfinish.symm.trans hfinish'
  | failed hfinish' => cases hfinish.symm.trans hfinish'

/-- A request keeps what the helpers, the loader, the writing of files and the loads of modules that
have no code keep. -/
theorem Ends.within (hR : BuildState.Allows asks R) (hhelper : asks helperName)
    (hloader : a.loader.Within R) (hfiles : ∀ s files, R s { s with files })
    (hloads : ∀ s done, done.Nodup → (∀ name ∈ done, lacksCode s.store name) →
      R s (Loading.after a s done).state)
    (h : r.Ends a s result s') : R s s' := by
  cases hfinish : r.finish? a with
  | none =>
    have hrun : (r.run a).Within R := by
      cases r with
      | opening => exact a.within_opening hR hloader
      | wrap bare p => exact a.within_wrap hR hloader bare p
      | array | code | produce => cases hfinish
    have hs := hrun s
    rwa [h.outcome_run hfinish] at hs
  | some finish =>
    obtain ⟨done, hdistinct, hlacks, ⟨e, -, rfl⟩ | ⟨order, hend⟩⟩ := h.exists_loads hfinish
    · exact hloads s done hdistinct hlacks
    · have hrest : (a.gather order >>= finish).Within R :=
        .bind hR (a.within_gather hR hhelper order) (within_finish hR hloader hfiles hfinish)
      have hs := hrest (Loading.after a s done).state
      rw [hend] at hs
      exact hR.trans (hloads s done hdistinct hlacks) hs

/-- A request for which entries are assembled comes to a text by what is done with them. -/
theorem Ends.exists_finish (h : r.Ends a s (.ok text) s') (hfinish : r.finish? a = some finish) :
    ∃ entries t, (finish entries).outcome t = (.ok text, s') := by
  obtain ⟨done, -, -, ⟨e, hfailed, -⟩ | ⟨order, hend⟩⟩ := h.exists_loads hfinish
  · cases hfailed
  · obtain ⟨entries, t, -, hend⟩ := outcome_bind_eq_ok_iff.1 hend
    exact ⟨entries, t, hend⟩

end Request

end Assembler

end ModulePack
