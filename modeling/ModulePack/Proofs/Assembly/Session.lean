import Mathlib.Data.List.Infix
import ModulePack.Proofs.Assembly.Schedule

/-!
# Sessions

The store belongs to the session that compiles the modules, and assemblies are calls in between.
Files, configuration and minifier may be others at each call; what is handed on is the store. A call
fills in code where there is none and does nothing else to the store: it loads modules of its order,
if the filters let them pass, and what it does before and behind the loads leaves the store alone.
-/

namespace ModulePack

theorem pairwise_inits_concat {α : Type} (l : List α) : (l.inits ++ [l]).Pairwise (· <+: ·) := by
  have hinits : l.inits.Pairwise (· <+: ·) := by
    refine List.pairwise_iff_getElem.2 fun i j hi hj hij => ?_
    rw [List.getElem_inits, List.getElem_inits]
    exact List.take_prefix_take_left hij.le
  refine List.pairwise_append.2 ⟨hinits, List.pairwise_singleton _ _, ?_⟩
  intro first hfirst whole hwhole
  rw [List.mem_singleton.1 hwhole]
  exact (List.mem_inits _ _).1 hfirst

namespace Store

variable {s t u : Store}

/-- Whether a store may become another one by having code filled in where there is none. -/
structure GrowsInto (s t : Store) : Prop where
  agrees : s.AgreesButCode t
  code : ∀ name r, s.get? name = some r → r.hasCode → t.get? name = some r

namespace GrowsInto

theorem refl (s : Store) : s.GrowsInto s := ⟨.refl s, fun _ _ hr _ => hr⟩

theorem trans (h : s.GrowsInto t) (h' : t.GrowsInto u) : s.GrowsInto u :=
  ⟨h.agrees.trans h'.agrees, fun name r hr hcode => h'.code name r (h.code name r hr hcode) hcode⟩

end GrowsInto

theorem get?_setCode_of_ne {name other : String} (h : other ≠ name) (s : Store) (code : String) :
    (s.setCode name code).get? other = s.get? other := by
  rw [setCode_eq_fill, get?_fill]
  cases hr : s.get? other with
  | none => rfl
  | some r =>
    obtain rfl := name_of_get? hr
    rw [Option.map_some, Record.fill_of_eq_none (if_neg h)]

end Store

open Build

namespace BuildState

def SameStore (s s' : BuildState) : Prop := s'.store = s.store

theorem Allows.sameStore : Allows (fun _ => True) SameStore where
  refl _ := rfl
  trans h h' := h'.trans h
  asked _ _ _ := rfl

/-- Whether no record but that of one module is another. -/
def SameBut (name : String) (s s' : BuildState) : Prop :=
  ∀ other, other ≠ name → s'.store.get? other = s.store.get? other

theorem Allows.sameBut (name : String) : Allows (fun _ => True) (SameBut name) where
  refl _ _ _ := rfl
  trans h h' other hother := (h' other hother).trans (h other hother)
  asked _ _ _ _ _ := rfl

end BuildState

theorem Build.store_bind {α β : Type} {b : Build α} {rest : Build β}
    (h : rest.Within BuildState.SameStore) (s : BuildState) :
    ((b >>= fun _ => rest).outcome s).2.store = (b.outcome s).2.store := by
  rw [outcome_bind]
  rcases b.outcome s with ⟨e | x, t⟩
  · rfl
  · exact h t

namespace Loading

open Assembler

variable {a : Assembler} {s : BuildState} {done done' names pending rest : List String}
  {name : String}

theorem state_complete (l : Loading) (name : String) :
    (l.complete a name).state = ((a.loadModule name).outcome l.state).2 := by
  rw [complete]
  rcases (a.loadModule name).outcome l.state with ⟨e | ⟨⟩, s'⟩ <;> rfl

theorem within_after {asks : String → Prop} {R : BuildState → BuildState → Prop}
    (hR : BuildState.Allows asks R) (s : BuildState)
    (hload : ∀ name ∈ done, (a.loadModule name).Within R) : R s (after a s done).state := by
  induction done using List.reverseRecOn with
  | nil => exact hR.refl s
  | append_singleton done last ih =>
    rw [List.forall_mem_append, List.forall_mem_singleton] at hload
    rw [after_concat, state_complete]
    exact hR.trans (ih hload.1) (hload.2 _)

/-- Loads that complete later leave the records of other modules alone. -/
theorem get?_after_append (h : name ∉ rest) :
    (after a s (done ++ rest)).state.store.get? name =
      (after a s done).state.store.get? name := by
  induction rest using List.reverseRecOn with
  | nil => rw [List.append_nil]
  | append_singleton rest last ih =>
    rw [List.mem_append, List.mem_singleton, not_or] at h
    have hlast : BuildState.SameBut last (after a s (done ++ rest)).state
        ((a.loadModule last).outcome (after a s (done ++ rest)).state).2 :=
      a.within_loadModule (.sameBut last) trivial
        (fun t code other hother => t.store.get?_setCode_of_ne hother code) _
    rw [← List.append_assoc, after_concat, state_complete, hlast name h.2, ih h.1]

theorem agreesButCode_after_append (a : Assembler) (s : BuildState) (done rest : List String) :
    (after a s done).state.store.AgreesButCode (after a s (done ++ rest)).state.store := by
  induction rest using List.reverseRecOn with
  | nil =>
    rw [List.append_nil]
    exact .refl _
  | append_singleton rest last ih =>
    rw [← List.append_assoc, after_concat, state_complete]
    exact ih.trans (a.onlyLoads_loadModule last _).store

theorem get?_after_of_notMem (h : name ∉ done) :
    (after a s done).state.store.get? name = s.store.get? name := by
  have hstart : (after a s ([] ++ done)).state.store.get? name =
    (after a s []).state.store.get? name := get?_after_append h
  exact hstart

/-- As long as no module is loaded twice and none that has code, no code is lost. -/
theorem growsInto_after (hpending : modulesToLoad s.store names = .ok pending)
    (hdistinct : done'.Nodup) (hdone : done' ⊆ pending) (h : done <+: done') :
    (after a s done).state.store.GrowsInto (after a s done').state.store := by
  obtain ⟨-, rfl⟩ := modulesToLoad_eq_ok_iff.1 hpending
  obtain ⟨rest, rfl⟩ := h
  refine ⟨agreesButCode_after_append a s done rest, fun name r hr hcode => ?_⟩
  by_cases hname : name ∈ rest
  · -- The module is loaded later only, so its record is still that of the beginning.
    have hbefore : name ∉ done := fun hdone =>
      List.disjoint_of_nodup_append hdistinct hdone hname
    have hlacks := List.of_mem_filter (hdone (List.mem_append_right _ hname))
    rw [get?_after_of_notMem hbefore] at hr
    rw [lacksCode, hr, Option.any_some, hcode] at hlacks
    cases hlacks
  · rw [get?_after_append hname, hr]

theorem mem_of_get?_after_ne (hpending : modulesToLoad s.store names = .ok pending)
    (hdone : done ⊆ pending) (hname : (after a s done).state.store.get? name ≠ s.store.get? name) :
    name ∈ names := by
  obtain ⟨-, rfl⟩ := modulesToLoad_eq_ok_iff.1 hpending
  by_contra hnot
  have hloaded : name ∉ done := fun hmem => hnot (List.mem_of_mem_filter (hdone hmem))
  exact hname (get?_after_of_notMem hloaded)

/-- What loads leave in the store one after the other, seen at some of their times. -/
theorem growsInto_of_loads {times : List (List String)}
    (hpending : modulesToLoad s.store names = .ok pending) (hdistinct : done.Nodup)
    (hdone : done ⊆ pending) (htimes : times.Pairwise (· <+: ·))
    (hfirst : ∀ first ∈ times, first <+: done) :
    (s.store :: times.map fun first => (after a s first).state.store).Pairwise Store.GrowsInto ∧
      ∀ t ∈ times.map fun first => (after a s first).state.store,
        ∀ name, t.get? name ≠ s.store.get? name → name ∈ names := by
  have hle : ∀ first ∈ times, first.Nodup ∧ first ⊆ pending := fun first hmem =>
    ⟨hdistinct.sublist (hfirst first hmem).sublist,
      List.Subset.trans (hfirst first hmem).subset hdone⟩
  refine ⟨List.pairwise_cons.2 ⟨List.forall_mem_map.2 fun first hmem => ?_, ?_⟩,
    List.forall_mem_map.2 fun first hmem name hname => ?_⟩
  · have hnil : [] <+: first := List.nil_prefix
    exact growsInto_after hpending (hle first hmem).1 (hle first hmem).2 hnil
  · refine List.pairwise_map.2 (htimes.imp_of_mem fun _ hmem h => ?_)
    exact growsInto_after hpending (hle _ hmem).1 (hle _ hmem).2 h
  · exact mem_of_get?_after_ne hpending (hle first hmem).2 hname

end Loading

namespace Assembler

def enclose (a : Assembler) (p : LaunchParameters) (array : String) : Build String :=
  if a.config.noLoaderCode.isTruthy then return array else a.wrap array p

theorem within_enclose (a : Assembler) {asks : String → Prop} {R : BuildState → BuildState → Prop}
    (hR : BuildState.Allows asks R) (hloader : a.loader.Within R) (p : LaunchParameters)
    (array : String) : (a.enclose p array).Within R := by
  rw [enclose]
  split
  · exact .pure hR array
  · exact a.within_wrap hR hloader array p

theorem assembleCode_eq (a : Assembler) (p : LaunchParameters) :
    a.assembleCode p =
      a.assembleEntries >>= fun entries => a.enclose p (serializeEntries entries) := by
  simp only [assembleCode, assembleArray, ← bind_pure_comp, bind_assoc, pure_bind, enclose]

inductive Call
  | order
  | array
  | code (p : LaunchParameters)
  | wrap (bare : String) (p : LaunchParameters)
  | produce (p : LaunchParameters)

namespace Call

def run (a : Assembler) : Call → Build Unit
  | .order => do
    let s ← get
    let _ ← liftResult (a.order s.files s.store)
    return ()
  | .array => do
    let _ ← a.assembleArray
    return ()
  | .code p => do
    let _ ← a.assembleCode p
    return ()
  | .wrap bare p => do
    let _ ← a.wrap bare p
    return ()
  | .produce p => do
    let _ ← a.produce p
    return ()

def assembles : Call → Bool
  | .order | .wrap _ _ => false
  | .array | .code _ | .produce _ => true

def finish (a : Assembler) (call : Call) (entries : List Entry) : Build Unit :=
  match call with
  | .order | .array | .wrap _ _ => return ()
  | .code p => do
    let _ ← a.enclose p (serializeEntries entries)
    return ()
  | .produce p => do
    let code ← a.enclose p (serializeEntries entries)
    a.writeBundle code

/-- Whether a module is in the order of a call that assembles entries, and the filters let all
modules of the order pass. -/
def MayLoad (a : Assembler) (s : BuildState) (call : Call) (name : String) : Prop :=
  call.assembles ∧ ∃ order, a.order s.files s.store = .ok order ∧ name ∈ order.modules ∧
    a.checkModules order = .ok ()

/-- The stores that a call goes through: that which it leaves if the modules are loaded in turn, or
those that loads leave that run at once, each of them when one more load has completed, and that of
the end. Some of the loads may never complete. -/
inductive Passes (a : Assembler) (s : BuildState) (call : Call) : List Store → Prop
  | inTurn : Passes a s call [((call.run a).outcome s).2.store]
  | atOnce {order : ModuleOrder} {pending done : List String} (hcall : call.assembles)
      (horder : a.order s.files s.store = .ok order)
      (hfilters : a.checkModules order = .ok ())
      (hpending : modulesToLoad s.store order.modules = .ok pending)
      (hdistinct : done.Nodup) (hdone : done ⊆ pending) :
      Passes a s call <| (done.inits.map fun first => (Loading.after a s first).state.store) ++
        [((a.gather order >>= call.finish a).outcome (Loading.after a s done).state).2.store]

theorem run_eq (a : Assembler) {call : Call} (h : call.assembles) :
    call.run a = a.assembleEntries >>= call.finish a := by
  cases call with
  | order => cases h
  | wrap => cases h
  | array =>
    rw [run, assembleArray, ← bind_pure_comp, bind_assoc]
    rfl
  | code p =>
    rw [run, assembleCode_eq, bind_assoc]
    rfl
  | produce p =>
    rw [run, Assembler.produce, assembleCode_eq, bind_assoc, bind_assoc]
    simp only [bind_assoc, pure_bind, bind_pure_unit]
    rfl

theorem within_finish (a : Assembler) (call : Call) (entries : List Entry) :
    (call.finish a entries).Within BuildState.SameStore := by
  have hloader : a.loader.Within BuildState.SameStore :=
    a.within_loader .sameStore trivial fun _ _ => rfl
  have henclose (p : LaunchParameters) (array : String) :
      (a.enclose p array).Within BuildState.SameStore :=
    a.within_enclose .sameStore hloader p array
  cases call with
  | order | array | wrap => exact .pure .sameStore ()
  | code p => exact .bind .sameStore (henclose p _) fun _ => .pure .sameStore ()
  | produce p =>
    exact .bind .sameStore (henclose p _) fun code => a.within_writeBundle (fun _ _ => rfl) code

theorem within_gather_finish (a : Assembler) (order : ModuleOrder) (call : Call) :
    (a.gather order >>= call.finish a).Within BuildState.SameStore :=
  .bind .sameStore (a.within_gather .sameStore trivial order) (call.within_finish a)

/-- A call leaves the store as it is, or as loads leave it of modules of its order that have passed
the filters. -/
theorem store_run (a : Assembler) (s : BuildState) (call : Call) :
    ((call.run a).outcome s).2.store = s.store ∨
      call.assembles ∧ ∃ order pending done, a.order s.files s.store = .ok order ∧
        a.checkModules order = .ok () ∧
        modulesToLoad s.store order.modules = .ok pending ∧ done <+: pending ∧
        ((call.run a).outcome s).2.store = (Loading.after a s done).state.store := by
  by_cases hcall : call.assembles
  · rw [run_eq a hcall]
    rcases outcome_assembleEntries_bind a s (call.finish a) with
      ⟨e, -, hout⟩ | ⟨order, pending, horder, hfilters, hpending, hout⟩
    · exact .inl (by rw [hout])
    · obtain ⟨done, hdone, hstate⟩ := Loading.exists_state_loadAll a s pending
      refine .inr ⟨hcall, order, pending, done, horder, hfilters, hpending, hdone, ?_⟩
      rw [hout, store_bind (within_gather_finish a order call), hstate]
  · left
    cases call with
    | order =>
      rw [run, outcome_bind, outcome_get]
      simp only [outcome_bind, outcome_liftResult]
      cases a.order s.files s.store <;> rfl
    | wrap bare p =>
      have hloader : a.loader.Within BuildState.SameStore :=
        a.within_loader .sameStore trivial fun _ _ => rfl
      have hwrap : ((Call.wrap bare p).run a).Within BuildState.SameStore :=
        .bind .sameStore (a.within_wrap .sameStore hloader bare p) fun _ => .pure .sameStore ()
      exact hwrap s
    | array | code | produce => exact absurd rfl hcall

theorem nodup_pending {a : Assembler} {fs : FileSystem} {store : Store} {order : ModuleOrder}
    {pending : List String} (horder : a.order fs store = .ok order)
    (hpending : modulesToLoad store order.modules = .ok pending) : pending.Nodup := by
  obtain ⟨entry, -, hentry, rfl⟩ := exists_entry_of_order horder
  obtain ⟨-, rfl⟩ := modulesToLoad_eq_ok_iff.1 hpending
  exact (Store.nodup_modules hentry).filter _

/-- The store only grows from one store to the next that a call goes through, and records change of
modules of its order only, which have passed the filters. -/
theorem growsInto_of_passes {a : Assembler} {s : BuildState} {call : Call} {passed : List Store}
    (h : call.Passes a s passed) :
    (s.store :: passed).Pairwise Store.GrowsInto ∧
      ∀ t ∈ passed, ∀ name, t.get? name ≠ s.store.get? name → call.MayLoad a s name := by
  cases h with
  | inTurn =>
    rcases store_run a s call with
      hsame | ⟨hcall, order, pending, done, horder, hfilters, hpending, hdone, hstore⟩
    · rw [hsame]
      refine ⟨by simp [Store.GrowsInto.refl], fun t ht name hname => ?_⟩
      rw [List.mem_singleton.1 ht] at hname
      exact absurd rfl hname
    · have hdistinct : done.Nodup := (nodup_pending horder hpending).sublist hdone.sublist
      have hloads := Loading.growsInto_of_loads (a := a) hpending hdistinct hdone.subset
        (List.pairwise_singleton _ done) (by simp)
      rw [hstore]
      exact ⟨hloads.1, fun t ht name hname =>
        ⟨hcall, order, horder, hloads.2 t ht name hname, hfilters⟩⟩
  | @atOnce order pending done hcall horder hfilters hpending hdistinct hdone =>
    have hend := within_gather_finish a order call (Loading.after a s done).state
    have hloads := Loading.growsInto_of_loads (a := a) hpending hdistinct hdone
      (pairwise_inits_concat done) (by simp [List.mem_inits, or_imp])
    rw [List.map_append, List.map_singleton, ← hend] at hloads
    exact ⟨hloads.1, fun t ht name hname =>
      ⟨hcall, order, horder, hloads.2 t ht name hname, hfilters⟩⟩

end Call

/-- A session of calls by the stores that it goes through. Files, configuration, minifier and all
else but the store may be others at each call. -/
inductive Session : List Store → Prop
  | start (store : Store) : Session [store]
  | call {before passed : List Store} {a : Assembler} {s : BuildState} {call : Call}
      (hbefore : Session (before ++ [s.store])) (hcall : call.Passes a s passed) :
      Session (before ++ [s.store] ++ passed)

/-- No session loses or changes anything in the store but code that is not there: the names stay the
same and so do the records up to their code, and code that is there once stays for good. Each call
changes the code of modules only that are in its order and have passed the filters. -/
theorem session_keeps_store (stores : List Store) (h : Session stores) :
    (stores.Pairwise fun x y => x.names = y.names ∧ x.AgreesButCode y ∧
      ∀ name r, x.get? name = some r → r.hasCode → y.get? name = some r) ∧
    ∀ (a : Assembler) (s : BuildState) (call : Call) (passed : List Store),
      stores.getLast? = some s.store → call.Passes a s passed →
        ∀ t ∈ passed, ∀ name, t.get? name ≠ s.store.get? name → call.MayLoad a s name := by
  have hgrows : stores.Pairwise Store.GrowsInto := by
    -- Every store of a session grows into the last one, and that one into those of the next call.
    induction h with
    | start store => exact List.pairwise_singleton _ _
    | @call before passed a s call _ hcall ih =>
      have hpassed := (Call.growsInto_of_passes hcall).1
      rw [List.append_assoc, List.singleton_append]
      refine List.pairwise_append.2 ⟨(List.pairwise_append.1 ih).1, hpassed, fun x hx y hy => ?_⟩
      have hlast : x.GrowsInto s.store :=
        (List.pairwise_append.1 ih).2.2 x hx _ (List.mem_singleton_self _)
      rcases List.mem_cons.1 hy with rfl | hy
      · exact hlast
      · exact hlast.trans ((List.pairwise_cons.1 hpassed).1 y hy)
  refine ⟨hgrows.imp fun hxy => ⟨hxy.agrees.names_eq, hxy.agrees, hxy.code⟩, ?_⟩
  intro a s call passed _ hcall
  exact (Call.growsInto_of_passes hcall).2

/-- What a first call leaves, which loads `/a` and fails at `/main`, and what a second one leaves
with the same minifier when all is compiled. -/
def halfLoaded : BuildState := ((Call.array.run circleAssembler).outcome halfCompiled).2

def loaded : BuildState :=
  (((Call.code {}).run circleAssembler).outcome { halfLoaded with files := compiled }).2

theorem session_keeps_store_halfCompiled :
    Session [halfCompiled.store, halfLoaded.store, loaded.store] ∧
      (halfCompiled.store.get? "/a").map Record.hasCode = some false ∧
      (∃ r, halfLoaded.store.get? "/a" = some r ∧ r.hasCode ∧ loaded.store.get? "/a" = some r) ∧
      (loaded.store.get? "/main").map Record.hasCode = some true := by
  have hsession : Session [halfCompiled.store, halfLoaded.store, loaded.store] := by
    have hstart : Session ([] ++ [halfCompiled.store]) := .start _
    have hfirst : Session ([halfCompiled.store] ++ [halfLoaded.store]) := .call hstart .inTurn
    exact .call (s := { halfLoaded with files := compiled }) hfirst .inTurn
  obtain ⟨hkeeps, -⟩ := session_keeps_store _ hsession
  have hlater := (List.pairwise_cons.1 (List.pairwise_cons.1 hkeeps).2).1
  obtain ⟨-, -, hcode⟩ := hlater loaded.store (List.mem_singleton_self _)
  exact ⟨hsession, rfl, ⟨_, rfl, rfl, hcode _ _ rfl rfl⟩, rfl⟩

end Assembler

end ModulePack
