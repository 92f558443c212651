import ModulePack.Proofs.Assembly.Emitted
import ModulePack.Proofs.Assembly.Launch
import ModulePack.Proofs.Json.Characters
import ModulePack.Proofs.Path.Naming

/-!
# Wrapped arrays

A bundle is a loader, an array and launch parameters, with a line feed between them. The array is
JSON on one line and so are all settings behind it, which leaves the code that is given with a
launch as the one place where a line feed can come behind the array. Without one there, the last two
line feeds of a bundle are those around the array, whatever the loader holds.
-/

namespace ModulePack

namespace Text

section Cut

variable {separator : Char} {cs front back : List Char}

def cutLast? (separator : Char) : List Char → Option (List Char × List Char)
  | [] => none
  | c :: cs =>
    match cutLast? separator cs with
    | some (front, back) => some (c :: front, back)
    | none => if c = separator then some ([], cs) else none

theorem cutLast?_of_notMem (h : separator ∉ cs) : cutLast? separator cs = none := by
  induction cs with
  | nil => rfl
  | cons c cs ih =>
    rw [List.mem_cons, not_or] at h
    rw [cutLast?, ih h.2]
    exact if_neg (Ne.symm h.1)

theorem cutLast?_append (h : separator ∉ back) :
    cutLast? separator (front ++ separator :: back) = some (front, back) := by
  induction front with
  | nil =>
    rw [List.nil_append, cutLast?, cutLast?_of_notMem h]
    exact if_pos rfl
  | cons c front ih => rw [List.cons_append, cutLast?, ih]

end Cut

def cutAtLastFeeds? (s : String) : Option (String × String × String) := do
  let (front, closing) ← cutLast? '\n' s.toList
  let (opening, array) ← cutLast? '\n' front
  return (String.ofList opening, String.ofList array, String.ofList closing)

def OneLine (s : String) : Prop := '\n' ∉ s.toList

instance (s : String) : Decidable (OneLine s) := inferInstanceAs (Decidable ('\n' ∉ s.toList))

variable {s t separator opening array closing : String} {parts : List String}

theorem cutAtLastFeeds?_join (harray : OneLine array) (hclosing : OneLine closing) :
    cutAtLastFeeds? (join "\n" [opening, array, closing]) = some (opening, array, closing) := by
  have htext : (join "\n" [opening, array, closing]).toList =
      (opening.toList ++ '\n' :: array.toList) ++ '\n' :: closing.toList := by
    simp [join]
  rw [cutAtLastFeeds?, htext, cutLast?_append hclosing]
  simp only [Option.bind_eq_bind, Option.bind_some, cutLast?_append harray, String.ofList_toList]
  rfl

namespace OneLine

theorem append (hs : OneLine s) (ht : OneLine t) : OneLine (s ++ t) := by
  rw [OneLine, String.toList_append, List.mem_append, not_or]
  exact ⟨hs, ht⟩

theorem join (hseparator : OneLine separator) (hparts : ∀ part ∈ parts, OneLine part) :
    OneLine (Text.join separator parts) := by
  intro hfeed
  rcases Path.mem_toList_join hfeed with hfeed | ⟨part, hpart, hfeed⟩
  · exact hseparator hfeed
  · exact hparts part hpart hfeed

theorem of_le_toNat (h : ∀ c ∈ s.toList, 0x20 ≤ c.toNat) : OneLine s := by
  intro hfeed
  exact absurd (h _ hfeed) (by decide)

theorem print_compact (v : Value) : OneLine (Json.print .compact v) :=
  .of_le_toNat fun _ => Json.le_toNat_of_mem_compact

end OneLine

end Text

namespace Assembler

open Build Text

variable {a : Assembler} {s s' t : BuildState} {fs : FileSystem} {p : LaunchParameters}
  {key code text array opening closing : String} {v : Value} {fields : List String}

/-- Whether the code that is given with a launch is on one line, as far as it is a text. -/
structure LaunchesInOneLine (c : Config) (p : LaunchParameters) : Prop where
  eval : ∀ code, c.evalCapability = .text code → OneLine code
  handler : ∀ code, errorHandler? c = .ok code → OneLine code
  callback : ∀ code, p.afterEntryPoint = some code → OneLine code
  args : ∀ code ∈ p.entryPointArgs, OneLine code

theorem oneLine_compact (h : compact v = .ok text) : OneLine text := by
  rw [compact] at h
  split at h
  · cases h
  · cases h
    exact .print_compact v

theorem oneLine_member (hkey : OneLine key) (hcode : OneLine code) :
    OneLine ("\"" ++ key ++ "\":" ++ code) := by
  have hquote : OneLine "\"" := by decide
  exact ((hquote.append hkey).append (by decide)).append hcode

theorem oneLine_unlessDefault (hkey : OneLine key) (h : unlessDefault key v = .ok fields) :
    ∀ field ∈ fields, OneLine field := by
  rw [unlessDefault] at h
  split at h
  · cases h
    simp
  · obtain ⟨code, hcode, hfields⟩ := bind_eq_ok_iff.1 h
    cases hfields
    intro field hfield
    rw [List.mem_singleton.1 hfield]
    exact oneLine_member hkey (oneLine_compact hcode)

theorem oneLine_codeField (hkey : OneLine key) (hcode : OneLine code) :
    ∀ field ∈ codeField key code, OneLine field := by
  intro field hfield
  rw [codeField] at hfield
  split at hfield
  · exact absurd hfield List.not_mem_nil
  · rw [List.mem_singleton.1 hfield]
    exact oneLine_member hkey hcode

theorem oneLine_rawFields (h : LaunchesInOneLine a.config p)
    (hhandler : errorHandler? a.config = .ok code) :
    ∀ field ∈ rawFields code p, OneLine field := by
  have hcallback : OneLine (p.afterEntryPoint.getD "") := by
    cases hp : p.afterEntryPoint with
    | none => decide
    | some code => exact h.callback code hp
  have hargs : ∀ field ∈ (if p.entryPointArgs.isEmpty then []
      else ["\"entryPointArgs\":[" ++ join "," p.entryPointArgs ++ "]"]), OneLine field := by
    intro field hfield
    split at hfield
    · exact absurd hfield List.not_mem_nil
    · have hopen : OneLine "\"entryPointArgs\":[" := by decide
      rw [List.mem_singleton.1 hfield]
      exact (hopen.append (.join (by decide) h.args)).append (by decide)
  rw [rawFields, List.forall_mem_append, List.forall_mem_append]
  exact ⟨⟨oneLine_codeField (by decide) hcallback, hargs⟩,
    oneLine_codeField (by decide) (h.handler code hhandler)⟩

/-- No setting brings in a line feed, whatever it is. -/
theorem oneLine_closing (h : LaunchesInOneLine a.config p)
    (hclosing : a.closing fs p = .ok closing) : OneLine closing := by
  obtain ⟨name, fields, eval, -, hfields, heval, rfl⟩ := closing_eq_ok_iff.1 hclosing
  obtain ⟨entryPoint, amd, commonjs, handler, hentry, hamd, hcommonjs, hhandler, rfl⟩ :=
    launchFields_eq_ok_iff.1 hfields
  have hentry : OneLine ("\"entryPoint\":" ++ entryPoint) :=
    .append (by decide) (oneLine_compact hentry)
  have hpreference : ∀ field ∈ (if a.config.preferCommonjs.isTruthy then
      ["\"preferCommonjs\":true"] else []), OneLine field := by
    split <;> decide
  have hall : ∀ field ∈ (["\"entryPoint\":" ++ entryPoint] ++ amd ++ commonjs ++
      if a.config.preferCommonjs.isTruthy then ["\"preferCommonjs\":true"] else []) ++
      rawFields handler p, OneLine field := by
    simp only [List.forall_mem_append, List.forall_mem_singleton]
    exact ⟨⟨⟨⟨hentry, oneLine_unlessDefault (by decide) hamd⟩,
      oneLine_unlessDefault (by decide) hcommonjs⟩, hpreference⟩, oneLine_rawFields h hhandler⟩
  have hbrace : OneLine ",\x7b" := by decide
  exact (((hbrace.append (.join (by decide) hall)).append (by decide)).append
    (h.eval eval heval)).append (by decide)

theorem outcome_wrap_eq_ok_iff :
    (a.wrap array p).outcome t = (.ok text, s') ↔
      ∃ opening closing, a.opening.outcome t = (.ok opening, s') ∧
        a.closing s'.files p = .ok closing ∧ join "\n" [opening, array, closing] = text := by
  simp only [wrap, outcome_bind_eq_ok_iff, outcome_get, outcome_liftResult, outcome_pure,
    Prod.mk.injEq, Except.ok.injEq, mapError_eq_ok_iff]
  grind

theorem outcome_loader_again (h : a.loader.outcome t = (.ok code, s')) :
    a.loader.outcome s' = (.ok code, s') := by
  obtain ⟨-, hout⟩ | ⟨_, -, -, hout⟩ | ⟨e, -, -, -, hout⟩ | ⟨answer, hon, -, -, hout⟩ :=
    a.outcome_loader_cases t
  · cases hout.symm.trans h
    exact hout
  · cases hout.symm.trans h
    exact hout
  · cases hout.symm.trans h
  · obtain ⟨hcode, rfl⟩ := Prod.mk.inj (hout.symm.trans h)
    exact outcome_loader_of_some hon (congrArg some (Except.ok.inj hcode))

/-- The loader is minified once, so what stands before the array is the same from then on. -/
theorem outcome_opening_again (h : a.opening.outcome t = (.ok opening, s')) :
    a.opening.outcome s' = (.ok opening, s') := by
  obtain ⟨code, u, hcode, h⟩ := outcome_bind_eq_ok_iff.1 h
  cases h
  exact outcome_bind_eq_ok_iff.2 ⟨code, s', outcome_loader_again hcode, rfl⟩

theorem outcome_assembleCode_eq_ok_iff :
    (a.assembleCode p).outcome s = (.ok text, s') ↔
      ∃ array t, a.assembleArray.outcome s = (.ok array, t) ∧
        (if a.config.noLoaderCode.isTruthy then (pure array : Build String)
          else a.wrap array p).outcome t = (.ok text, s') :=
  outcome_bind_eq_ok_iff

def bare (a : Assembler) : Assembler :=
  { a with config := { a.config with noLoaderCode := .bool true } }

theorem assembleArray_bare (a : Assembler) : a.bare.assembleArray = a.assembleArray := by
  have hbare : Alike a a.bare := ⟨rfl, rfl, rfl, rfl, rfl⟩
  have horder : a.bare.order = a.order := rfl
  have hcheck : a.bare.checkModules = a.checkModules := rfl
  simp only [assembleArray, assembleEntries_eq, hbare.loadMissing_eq, hbare.gather_eq, horder,
    hcheck]

/-- The array of a bundle is its text between the last two line feeds, unless code that is given
with the launch holds a line feed. -/
theorem assembleCode_cut (a : Assembler) (s : BuildState) :
    (∀ array t, a.assembleArray.outcome s = (.ok array, t) → ∀ c ∈ array.toList, 0x20 ≤ c.toNat) ∧
      ∀ p text s', a.config.noLoaderCode.isTruthy = false → LaunchesInOneLine a.config p →
        (a.assembleCode p).outcome s = (.ok text, s') →
        ∃ opening array closing t, cutAtLastFeeds? text = some (opening, array, closing) ∧
          a.assembleArray.outcome s = (.ok array, t) ∧
          (a.bare.assembleCode p).outcome s = (.ok array, t) ∧
          a.opening.outcome t = (.ok opening, s') ∧ a.opening.outcome s' = (.ok opening, s') ∧
          a.closing s.files p = .ok closing := by
  have hplain : ∀ array t, a.assembleArray.outcome s = (.ok array, t) →
      ∀ c ∈ array.toList, 0x20 ≤ c.toNat := by
    intro array t harray c hc
    obtain ⟨entries, -, rfl⟩ := outcome_map_eq_ok_iff.1 harray
    exact Json.le_toNat_of_mem_compact hc
  refine ⟨hplain, fun p text s' hwrapped hline h => ?_⟩
  have hfiles : s'.files = s.files := ((a.onlyLoads_assembleCode p).loadsInto h).files
  obtain ⟨array, t, harray, hwrap⟩ := outcome_assembleCode_eq_ok_iff.1 h
  rw [if_neg (by simp [hwrapped])] at hwrap
  obtain ⟨opening, closing, hopening, hclosing, rfl⟩ := outcome_wrap_eq_ok_iff.1 hwrap
  rw [hfiles] at hclosing
  have hbare : (a.bare.assembleCode p).outcome s = (.ok array, t) :=
    outcome_assembleCode_eq_ok_iff.2 ⟨array, t, by rwa [assembleArray_bare], rfl⟩
  have hcut : cutAtLastFeeds? (join "\n" [opening, array, closing]) =
      some (opening, array, closing) :=
    cutAtLastFeeds?_join (.of_le_toNat (hplain array t harray)) (oneLine_closing hline hclosing)
  exact ⟨opening, array, closing, t, hcut, harray, hbare, hopening,
    outcome_opening_again hopening, hclosing⟩

def feedingAssembler : Assembler :=
  { circleAssembler with
    config :=
      { circleAssembler.config with
        entryModule := .text "ma\nin.ts"
        entryFunction := .text "r\nun" }
    loaderCode := "load\n(1);\n" }

def feedingState : BuildState :=
  { circleState with store := .ofRecords [{ name := "/ma\nin", code := some "m\n;" }] }

def feedingArray : String := "[[\"/ma\\nin\",\"m\\n;\"]]"

def feedingClosing : String :=
  ",\x7b\"entryPoint\":\x7b\"module\":\"/ma\\nin\",\"function\":\"r\\nun\"\x7d\x7d,eval);"

def feedingText : String := join "\n" ["(load\n(1))(", feedingArray, feedingClosing]

theorem assembleCode_cut_feeding :
    LaunchesInOneLine feedingAssembler.config {} ∧
      (feedingAssembler.assembleCode {}).outcome feedingState = (.ok feedingText, feedingState) ∧
      cutAtLastFeeds? feedingText = some ("(load\n(1))(", feedingArray, feedingClosing) ∧
      feedingAssembler.assembleArray.outcome feedingState = (.ok feedingArray, feedingState) := by
  have hline : LaunchesInOneLine feedingAssembler.config {} := by
    constructor
    case eval =>
      rintro code ⟨⟩
      decide
    case handler =>
      rintro code ⟨⟩
      decide
    case callback => exact nofun
    case args => exact fun code hcode => absurd hcode List.not_mem_nil
  have hout : (feedingAssembler.assembleCode {}).outcome feedingState =
      (.ok feedingText, feedingState) := by rfl
  obtain ⟨opening, array, closing, t, hcut, harray, -, hopening, -, hclosing⟩ :=
    (assembleCode_cut feedingAssembler feedingState).2 {} feedingText feedingState rfl hline hout
  have harray' : feedingAssembler.assembleArray.outcome feedingState =
      (.ok feedingArray, feedingState) := by rfl
  have hclosing' : feedingAssembler.closing feedingState.files {} = .ok feedingClosing := by rfl
  obtain ⟨harray, rfl⟩ := Prod.mk.inj (harray.symm.trans harray')
  cases harray
  cases hopening
  cases hclosing.symm.trans hclosing'
  exact ⟨hline, hout, hcut, harray'⟩

end Assembler

end ModulePack
