import ModulePack.Proofs.Assembly.Request
import ModulePack.Proofs.Assembly.Wrapping
import ModulePack.Proofs.Minify.Asked

/-!
# Minified once

An assembler lives through requests, between which its configuration and the files may become
others. What was minified is not minified again: the loader is kept by the assembler, and the code
of a module by its record. Calls that fail leave neither of them, and no more do answers to a module
that hold nothing, as empty code is none. Calls are told apart by their labels, and the name of a
module may be the label of the loader.
-/

namespace ModulePack

open Build

def BuildState.Keeps (P : BuildState → Prop) (s s' : BuildState) : Prop := P s → P s'

theorem BuildState.Allows.keeps {asks : String → Prop} {P : BuildState → Prop}
    (h : ∀ s call, asks call.label → P s → P { s with calls := call :: s.calls }) :
    BuildState.Allows asks (BuildState.Keeps P) where
  refl _ := id
  trans hst htu := htu ∘ hst
  asked := h

namespace Assembler

open BuildState

section Code

variable {store : Store} {name other code : String}

theorem has_setCode (store : Store) (name code other : String) :
    (store.setCode name code).has other = store.has other :=
  ((store.agreesButCode_setCode name code).isSome_get? other).symm

theorem has_of_lacksCode (h : lacksCode store name) : store.has name := by
  rw [lacksCode] at h
  cases hr : store.get? name with
  | none => simp [hr] at h
  | some r => rw [Store.has, hr, Option.isSome_some]

theorem lacksCode_setCode_of_ne (h : other ≠ name) (store : Store) (code : String) :
    lacksCode (store.setCode name code) other = lacksCode store other := by
  rw [lacksCode, store.get?_setCode_of_ne h, lacksCode]

theorem lacksCode_setCode_self (h : code ≠ "") (store : Store) (name : String) :
    lacksCode (store.setCode name code) name = false := by
  rw [lacksCode, Store.setCode]
  cases hr : store.get? name with
  | none => rw [hr, Option.any_none]
  | some r =>
    obtain rfl := Store.name_of_get? hr
    simp [Record.hasCode, h]

end Code

variable {a : Assembler} {m : Minifier} {s s' t : BuildState} {r : Request} {name : String}
  {result : Except Error String} {code text array : String} {p : LaunchParameters}

/-- What is known of the loader: no module has its label, it is minified for one target, and it is
sent to the minifier until that has answered and the loader is kept. -/
structure LoaderKept (m : Minifier) (s : BuildState) : Prop where
  unnamed : s.store.has loaderLabel = false
  target : ∀ call ∈ s.calls, call.label = loaderLabel → call.target = loaderTarget
  settles : Settles m loaderLabel (fun _ => True) s.minifiedLoader.isSome s.calls

theorem allows_loaderKept (m : Minifier) : Allows (· ≠ loaderLabel) (Keeps (LoaderKept m)) :=
  .keeps fun _ _ hlabel h =>
    { unnamed := h.unnamed
      target := List.forall_mem_cons.2 ⟨fun hsame => absurd hsame hlabel, h.target⟩
      settles := h.settles.other hlabel }

theorem within_loader_loaderKept (a : Assembler) :
    a.loader.Within (Keeps (LoaderKept a.minifier)) := by
  intro s h
  have htarget : ∀ call ∈ a.loaderCall :: s.calls,
      call.label = loaderLabel → call.target = loaderTarget :=
    List.forall_mem_cons.2 ⟨fun _ => rfl, h.target⟩
  obtain ⟨-, hout⟩ | ⟨code, -, -, hout⟩ | ⟨e, -, hnone, hfails, hout⟩ |
    ⟨answer, -, hnone, -, hout⟩ := a.outcome_loader_cases s
  · rwa [hout]
  · rwa [hout]
  · rw [hout]
    exact ⟨h.unnamed, htarget, h.settles.ask (by simp [hnone]) (by simp [hfails])⟩
  · rw [hout]
    exact ⟨h.unnamed, htarget, h.settles.ask (by simp [hnone]) fun _ _ _ => rfl⟩

theorem loaderKept_of_ends (h : r.Ends a s result s') (hs : LoaderKept a.minifier s) :
    LoaderKept a.minifier s' := by
  have hR := allows_loaderKept a.minifier
  refine h.within hR (by decide) a.within_loader_loaderKept (fun _ _ h => ⟨h.1, h.2, h.3⟩) ?_ hs
  intro s done _ hlacks hs
  refine Loading.within_after hR s (fun name hname => ?_) hs
  have hlabel : name ≠ loaderLabel := by
    rintro rfl
    exact Bool.false_ne_true (hs.unnamed.symm.trans (has_of_lacksCode (hlacks _ hname)))
  refine a.within_loadModule hR hlabel fun t code ht => ?_
  exact ⟨(has_setCode t.store name code loaderLabel).trans ht.unnamed, ht.target, ht.settles⟩

/-- What is known of a module: it is sent to the minifier until that has answered with code for it,
and then it does not lack code. -/
def ModuleKept (m : Minifier) (name : String) (s : BuildState) : Prop :=
  Settles m name (fun answer => releaseExpression answer ≠ "") (lacksCode s.store name = false)
    s.calls

theorem allows_moduleKept (m : Minifier) (name : String) :
    Allows (· ≠ name) (Keeps (ModuleKept m name)) :=
  .keeps fun _ _ hlabel h => h.other hlabel

/-- The load of a module that has no code yet. -/
theorem moduleKept_loadModule (hs : ModuleKept a.minifier name s)
    (hlacks : lacksCode s.store name) :
    ModuleKept a.minifier name ((a.loadModule name).outcome s).2 := by
  have hopen : ¬ lacksCode s.store name = false := by simp [hlacks]
  simp only [loadModule, outcome_bind, outcome_get, outcome_liftResult]
  cases fileText s.files (a.codeFile name) (.codeUnreadable (a.codeFile name) name) with
  | error e => exact hs
  | ok code =>
    simp only
    rw [minifyIfConfigured]
    by_cases hon : a.config.minify.isTruthy
    · rw [if_pos hon, outcome_minifyExpression]
      cases hanswer : a.minifier s.calls ⟨name, a.config.compiler.target, holdExpression code⟩ with
      | error e => exact hs.ask hopen (by simp [hanswer])
      | ok answer =>
        refine hs.ask hopen fun other hother hcode => ?_
        cases hanswer.symm.trans hother
        exact lacksCode_setCode_self hcode s.store name
    · rw [if_neg hon]
      exact hs.mono fun hcode => absurd hcode hopen

theorem moduleKept_of_ends (hloader : name ≠ loaderLabel) (hhelper : name ≠ helperName)
    (h : r.Ends a s result s') (hs : ModuleKept a.minifier name s) :
    ModuleKept a.minifier name s' := by
  have hR := allows_moduleKept a.minifier name
  refine h.within hR hhelper.symm (a.within_loader hR hloader.symm fun _ _ h => h)
    (fun _ _ h => h) ?_ hs
  intro s done hdistinct hlacks hs
  induction done using List.reverseRecOn with
  | nil => exact hs
  | append_singleton done last ih =>
    rw [List.forall_mem_append, List.forall_mem_singleton] at hlacks
    have hs := ih (List.Nodup.of_append_left hdistinct) hlacks.1
    rw [Loading.after_concat, Loading.state_complete]
    by_cases hlast : last = name
    · -- Loads of other modules came before, so its record is still that of the beginning.
      subst hlast
      have hbefore : last ∉ done := fun hmem =>
        List.disjoint_of_nodup_append hdistinct hmem (List.mem_singleton_self _)
      refine moduleKept_loadModule hs ?_
      rw [lacksCode, Loading.get?_after_of_notMem hbefore]
      exact hlacks.2
    · refine a.within_loadModule hR hlast (fun t code ht => ?_) _ hs
      rw [ModuleKept, lacksCode_setCode_of_ne (Ne.symm hlast)]
      exact ht

/-- A loader that is kept is kept for good. -/
theorem minifiedLoader_of_ends (h : r.Ends a s result s') (hs : s.minifiedLoader = some code) :
    s'.minifiedLoader = some code := by
  have hR : Allows (fun _ => True) (Keeps fun s => s.minifiedLoader = some code) :=
    .keeps fun _ _ _ h => h
  have hloader : a.loader.Within (Keeps fun s => s.minifiedLoader = some code) := by
    intro s hs
    obtain ⟨-, hout⟩ | ⟨_, -, -, hout⟩ | ⟨_, -, hnone, -⟩ | ⟨_, -, hnone, -⟩ :=
      a.outcome_loader_cases s
    · rwa [hout]
    · rwa [hout]
    · cases hnone.symm.trans hs
    · cases hnone.symm.trans hs
  refine h.within hR trivial hloader (fun _ _ h => h) (fun s done _ _ => ?_) hs
  exact Loading.within_after hR s fun name _ => a.within_loadModule hR trivial fun _ _ h => h

def openingOf (code : String) : String := "(" ++ Text.dropTerminator code ++ ")("

/-- Whether a text that a request comes to has something before its array, as far as anything stands
there. -/
def Request.OpensWith (c : Config) (opening : String) : Request → String → Prop
  | .opening, text => text = opening
  | .wrap bare _, text => ∃ closing, text = Text.join "\n" [opening, bare, closing]
  | .array, _ => True
  | .code _, text | .produce _, text =>
    c.noLoaderCode.isTruthy ∨ ∃ array closing, text = Text.join "\n" [opening, array, closing]

theorem opening_kept (hon : a.config.minify.isTruthy) (h : a.opening.outcome t = (.ok text, s')) :
    ∃ code, s'.minifiedLoader = some code ∧ text = openingOf code := by
  rw [outcome_opening] at h
  obtain ⟨hoff, -⟩ | ⟨code, -, hkept, hout⟩ | ⟨e, -, -, -, hout⟩ | ⟨answer, -, -, -, hout⟩ :=
    a.outcome_loader_cases t
  · cases hon.symm.trans hoff
  · rw [hout] at h
    cases h
    exact ⟨code, hkept, rfl⟩
  · rw [hout] at h
    cases h
  · rw [hout] at h
    obtain ⟨htext, rfl⟩ := Prod.mk.inj h
    exact ⟨releaseExpression answer, rfl, (Except.ok.inj htext).symm⟩

theorem wrap_kept (hon : a.config.minify.isTruthy)
    (h : (a.wrap array p).outcome t = (.ok text, s')) :
    ∃ code closing, s'.minifiedLoader = some code ∧
      text = Text.join "\n" [openingOf code, array, closing] := by
  obtain ⟨opening, closing, hopening, -, rfl⟩ := outcome_wrap_eq_ok_iff.1 h
  obtain ⟨code, hkept, rfl⟩ := opening_kept hon hopening
  exact ⟨code, closing, hkept, rfl⟩

theorem enclose_kept (hon : a.config.minify.isTruthy)
    (h : (a.enclose p array).outcome t = (.ok text, s')) :
    a.config.noLoaderCode.isTruthy ∨ ∃ code closing, s'.minifiedLoader = some code ∧
      text = Text.join "\n" [openingOf code, array, closing] := by
  rw [enclose] at h
  split at h
  · next hbare => exact .inl hbare
  · exact .inr (wrap_kept hon h)

/-- With minifying on, what stands before an array is that of the loader that is kept. -/
theorem opensWith_of_ends (hon : a.config.minify.isTruthy) (h : r.Ends a s (.ok text) s') :
    (∃ code, s'.minifiedLoader = some code ∧ r.OpensWith a.config (openingOf code) text) ∨
      ∀ opening, r.OpensWith a.config opening text := by
  cases r with
  | opening => exact .inl (opening_kept hon (h.outcome_run rfl))
  | wrap bare p =>
    obtain ⟨code, closing, hkept, htext⟩ := wrap_kept hon (h.outcome_run rfl)
    exact .inl ⟨code, hkept, closing, htext⟩
  | array => exact .inr fun _ => trivial
  | code p =>
    obtain ⟨entries, t, hend⟩ := h.exists_finish rfl
    rcases enclose_kept hon hend with hbare | ⟨code, closing, hkept, htext⟩
    · exact .inr fun _ => .inl hbare
    · exact .inl ⟨code, hkept, .inr ⟨_, closing, htext⟩⟩
  | produce p =>
    obtain ⟨entries, t, hend⟩ := h.exists_finish rfl
    obtain ⟨written, u, henclose, hwrite⟩ := outcome_bind_eq_ok_iff.1 hend
    obtain ⟨_, _, hfile, hsame⟩ := outcome_bind_eq_ok_iff.1 hwrite
    cases hsame
    have hkeeps : s'.minifiedLoader = u.minifiedLoader := by
      have hstate := a.within_writeBundle (R := fun s s' => s'.minifiedLoader = s.minifiedLoader)
        (fun _ _ => rfl) text u
      rwa [hfile] at hstate
    rcases enclose_kept hon henclose with hbare | ⟨code, closing, hkept, htext⟩
    · exact .inr fun _ => .inl hbare
    · exact .inl ⟨code, hkeeps.trans hkept, .inr ⟨_, closing, htext⟩⟩

structure Event where
  config : Config
  request : Request
  result : Except Error String

def under (a : Assembler) (config : Config) : Assembler := { a with config }

/-- The life of an assembler by its requests, the last one first, and the state that they lead to.
The files and the configuration may be others at each request; the store is changed by nothing but
the requests. -/
inductive Life (a : Assembler) (store : Store) : List Event → BuildState → Prop
  | start (files : FileSystem) : Life a store [] ⟨files, store, [], none⟩
  | request {events : List Event} {s s' : BuildState} (h : Life a store events s)
      (files : FileSystem) (event : Event)
      (hends : event.request.Ends (a.under event.config) { s with files } event.result s') :
      Life a store (event :: events) s'

namespace Life

variable {store : Store} {events : List Event}

/-- A request with nothing else in between. -/
theorem again (h : a.Life store events s) (r : Request) (result : Except Error String)
    (s' : BuildState) (hout : (r.run a).outcome s = (result, s')) :
    a.Life store (⟨a.config, r, result⟩ :: events) s' :=
  h.request s.files ⟨a.config, r, result⟩ (.inTurn hout)

theorem loaderKept (h : a.Life store events s) (hstore : store.has loaderLabel = false) :
    LoaderKept a.minifier s := by
  induction h with
  | start files => exact ⟨hstore, nofun, .nil⟩
  | request _ files event hends ih =>
    exact loaderKept_of_ends (a := a.under event.config) hends ⟨ih.unnamed, ih.target, ih.settles⟩

theorem moduleKept (h : a.Life store events s) (hloader : name ≠ loaderLabel)
    (hhelper : name ≠ helperName) : ModuleKept a.minifier name s := by
  induction h with
  | start files => exact .nil
  | request _ files event hends ih =>
    exact moduleKept_of_ends (a := a.under event.config) hloader hhelper hends ih

theorem opensWith (h : a.Life store events s) :
    ∀ event ∈ events, event.config.minify.isTruthy → ∀ text, event.result = .ok text →
      (∃ code, s.minifiedLoader = some code ∧
          event.request.OpensWith event.config (openingOf code) text) ∨
        ∀ opening, event.request.OpensWith event.config opening text := by
  induction h with
  | start files => exact fun _ hmem => absurd hmem List.not_mem_nil
  | request _ files event hends ih =>
    refine List.forall_mem_cons.2 ⟨fun hon text htext => ?_, fun earlier hmem hon text htext => ?_⟩
    · rw [htext] at hends
      exact opensWith_of_ends (a := a.under event.config) hon hends
    · rcases ih earlier hmem hon text htext with ⟨code, hkept, hopens⟩ | hopens
      · exact .inl ⟨code, minifiedLoader_of_ends hends hkept, hopens⟩
      · exact .inr hopens

end Life

/-- As long as no module has the label of the loader for its name, the loader is minified once and
for one target. What stands before arrays with minifying on is always the same. Every module but the
helpers is sent to the minifier until that has answered with code for it, and not once more. -/
theorem minifies_once (a : Assembler) (store : Store) (events : List Event) (s : BuildState)
    (h : a.Life store events s) :
    (store.has loaderLabel = false →
      AskedUntil a.minifier loaderLabel (fun _ => True) s.calls ∧
        ∀ call ∈ s.calls, call.label = loaderLabel → call.target = .text "ES5") ∧
    (∃ opening, ∀ event ∈ events, event.config.minify.isTruthy →
      ∀ text, event.result = .ok text → event.request.OpensWith event.config opening text) ∧
    ∀ name, name ≠ loaderLabel → name ≠ helperName →
      AskedUntil a.minifier name (fun answer => releaseExpression answer ≠ "") s.calls := by
  refine ⟨fun hstore => ?_, ?_, fun name hloader hhelper => ?_⟩
  · have hkept := h.loaderKept hstore
    exact ⟨hkept.settles.asked, hkept.target⟩
  · refine ⟨openingOf (s.minifiedLoader.getD ""), fun event hmem hon text htext => ?_⟩
    rcases h.opensWith event hmem hon text htext with ⟨code, hkept, hopens⟩ | hopens
    · rwa [hkept, Option.getD_some]
    · exact hopens _
  · exact (h.moduleKept hloader hhelper).asked

/-- A minifier that first fails, then answers with nothing and then with a letter. -/
def reluctant : Minifier := fun calls _ =>
  match calls with
  | [] => .error .toolNotFound
  | [_] => .ok ""
  | _ => .ok "x"

def shortLoader (minifier : Minifier) : Assembler :=
  { circleAssembler with
    config :=
      { circleAssembler.config with
        compiler := { circleAssembler.config.compiler with target := .text "ES2017" }
        minify := .bool true
        embedHelper := .bool false }
    minifier
    loaderCode := "f" }

def oneFile (file : String) (records : List Record) (calls : List MinifyCall) : BuildState where
  files := FileTree.mk [] [([file], .file "m".toUTF8)]
  store := .ofRecords records
  calls
  minifiedLoader := none

def mainState (code : Option String) (calls : List MinifyCall) : BuildState :=
  oneFile "main.js" [{ name := "/main", code }] calls

def mainCall : MinifyCall := ⟨"/main", .text "ES2017", "var __tsbundle_expr=m;"⟩

def shortCall : MinifyCall := ⟨"<loader>", .text "ES5", "var __tsbundle_expr=f;"⟩

/-- The loader and then the array fail, and both are there at the second time. -/
theorem minifies_once_reluctant :
    ∃ events s, (shortLoader reluctant).Life (mainState none []).store events s ∧
      events.map Event.result = [.ok "(x)(", .ok (serializeEntries [⟨"/main", [], none, "x"⟩]),
        .error (.bundle (.codeMissing "/main")), .error (.minify .toolNotFound)] ∧
      s.calls = [shortCall, mainCall, mainCall, shortCall] ∧
      Answered reluctant "<loader>" (fun _ => True) s.calls ∧
      AskedUntil reluctant "<loader>" (fun _ => True) s.calls ∧
      Answered reluctant "/main" (fun answer => releaseExpression answer ≠ "") s.calls ∧
      AskedUntil reluctant "/main" (fun answer => releaseExpression answer ≠ "") s.calls := by
  have hstart : (shortLoader reluctant).Life (mainState none []).store [] (mainState none []) :=
    .start _
  have hrefused := hstart.again .opening (.error (.minify .toolNotFound))
    (mainState none [shortCall]) (by rfl)
  have hempty := hrefused.again .array (.error (.bundle (.codeMissing "/main")))
    (mainState (some "") [mainCall, shortCall]) (by rfl)
  have harray := hempty.again .array (.ok (serializeEntries [⟨"/main", [], none, "x"⟩]))
    (mainState (some "x") [mainCall, mainCall, shortCall]) (by rfl)
  have hlife := harray.again .opening (.ok "(x)(")
    { mainState (some "x") [shortCall, mainCall, mainCall, shortCall] with
      minifiedLoader := some "x" } (by rfl)
  obtain ⟨hloader, -, hmodule⟩ := minifies_once _ _ _ _ hlife
  refine ⟨_, _, hlife, rfl, rfl, ?_, (hloader rfl).1, ?_, hmodule "/main" (by decide) (by decide)⟩
  · exact ⟨[], shortCall, _, "x", rfl, rfl, rfl, trivial⟩
  · exact ⟨[shortCall], mainCall, _, "x", rfl, rfl, rfl, by decide⟩

/-- A module whose name is the label of the loader, and another one that depends on it. -/
def namedState (code : Option String) (calls : List MinifyCall) : BuildState :=
  oneFile "<loader>.js" [{ name := "/main", dependencies := ["<loader>"], code := some "m" },
    { name := "<loader>", code }] calls

def lettered : Minifier := .ofFunction fun _ => .ok "x"

def namedCall : MinifyCall := ⟨"<loader>", .text "ES2017", "var __tsbundle_expr=m;"⟩

/-- With a module that has the label of the loader for its name, two calls under it are answered,
and one of them is for another target. -/
theorem minifies_twice_namedLoader :
    ∃ events s, (shortLoader lettered).Life (namedState none []).store events s ∧
      s.calls = [shortCall, namedCall] ∧
      namedCall.label = loaderLabel ∧ lettered [] namedCall = .ok "x" ∧
      shortCall.label = loaderLabel ∧ lettered [namedCall] shortCall = .ok "x" ∧
      namedCall.target ≠ .text "ES5" ∧
      ¬ AskedUntil lettered loaderLabel (fun _ => True) s.calls := by
  have hstart : (shortLoader lettered).Life (namedState none []).store [] (namedState none []) :=
    .start _
  have harray := hstart.again .array
    (.ok (serializeEntries [⟨"<loader>", [], none, "x"⟩, ⟨"/main", ["<loader>"], none, "m"⟩]))
    (namedState (some "x") [namedCall]) (by rfl)
  have hlife := harray.again .opening (.ok "(x)(")
    { namedState (some "x") [shortCall, namedCall] with minifiedLoader := some "x" } (by rfl)
  have htarget : namedCall.target ≠ .text "ES5" := by simp [namedCall]
  refine ⟨_, _, hlife, rfl, rfl, rfl, rfl, rfl, htarget, fun hasked => ?_⟩
  exact hasked [shortCall] namedCall [] "x" rfl rfl rfl trivial shortCall
    (List.mem_singleton_self _) rfl

end Assembler

end ModulePack
