import ModulePack.Assembly
import ModulePack.Proofs.Entry.Wire
import ModulePack.Proofs.Except

/-!
# Launch parameters

What stands behind the array of a bundle launches it: an object of settings, then the code that is
given with them, which is copied and not read. The settings are those that differ from their
defaults, in JSON, so they are read back as they are configured. Code comes behind all settings and
before the brace that closes the object.
-/

namespace ModulePack

namespace Text

def eachBehind (separator : String) : List String → String
  | [] => ""
  | s :: rest => separator ++ s ++ eachBehind separator rest

variable {separator : String}

theorem join_cons (separator s : String) (rest : List String) :
    join separator (s :: rest) = s ++ eachBehind separator rest := by
  induction rest generalizing s with
  | nil => rw [join, eachBehind, String.append_empty]
  | cons t rest ih => rw [join, ih, eachBehind, String.append_assoc, String.append_assoc]

theorem eachBehind_append (parts others : List String) :
    eachBehind separator (parts ++ others) =
      eachBehind separator parts ++ eachBehind separator others := by
  induction parts with
  | nil => rw [List.nil_append, eachBehind, String.empty_append]
  | cons s parts ih =>
    rw [List.cons_append, eachBehind, eachBehind, ih, ← String.append_assoc]

theorem join_append {parts : List String} (h : parts ≠ []) (others : List String) :
    join separator (parts ++ others) = join separator parts ++ eachBehind separator others := by
  cases parts with
  | nil => exact absurd rfl h
  | cons s parts =>
    rw [List.cons_append, join_cons, join_cons, eachBehind_append, String.append_assoc]

end Text

namespace Json

variable {l : Layout} {fields : List (String × Value)}

mutual

/-- Without lines it does not matter how deep a value stands. -/
theorem render_of_lineless (h : l.indent = none) (depth other : Nat) :
    (v : Value) → render l depth v = render l other v
  | .null | .bool _ | .int _ | .float _ | .text _ | .moment _ | .list [] | .table [] => by
    simp only [render]
  | .list (v :: rest) => by
    simp only [render, lineBreak, h]
    rw [render_of_lineless h _ (other + 1) v, renderItems_of_lineless h _ (other + 1) rest]
  | .table ((key, v) :: rest) => by
    simp only [render, lineBreak, h]
    rw [render_of_lineless h _ (other + 1) v, renderFields_of_lineless h _ (other + 1) rest]

theorem renderItems_of_lineless (h : l.indent = none) (depth other : Nat) :
    (items : List Value) → renderItems l depth items = renderItems l other items
  | [] => rfl
  | v :: rest => by
    simp only [renderItems, lineBreak, h]
    rw [render_of_lineless h depth other v, renderItems_of_lineless h depth other rest]

theorem renderFields_of_lineless (h : l.indent = none) (depth other : Nat) :
    (fields : List (String × Value)) → renderFields l depth fields = renderFields l other fields
  | [] => rfl
  | (key, v) :: rest => by
    simp only [renderFields, lineBreak, h]
    rw [render_of_lineless h depth other v, renderFields_of_lineless h depth other rest]

end

def fieldText (field : String × Value) : String :=
  String.ofList (renderText .compact field.1) ++ ":" ++ print .compact field.2

theorem ofList_renderFields (depth : Nat) (fields : List (String × Value)) :
    String.ofList (renderFields .compact depth fields) =
      Text.eachBehind "," (fields.map fieldText) := by
  induction fields with
  | nil => rfl
  | cons field rest ih =>
    obtain ⟨key, v⟩ := field
    have hvalue : render .compact depth v = render .compact 0 v := render_of_lineless rfl _ _ v
    have hfield : renderFields .compact depth ((key, v) :: rest) =
        ',' :: (renderText .compact key ++ ':' :: render .compact 0 v) ++
          renderFields .compact depth rest := by
      rw [renderFields, hvalue]
      simp [lineBreak, colon, Layout.compact]
    rw [hfield, List.map_cons, Text.eachBehind, ← ih]
    apply String.toList_inj.1
    simp [fieldText, print]

/-- A table is written field by field between braces. -/
theorem print_table (fields : List (String × Value)) :
    print .compact (.table fields) =
      "\x7b" ++ Text.join "," (fields.map fieldText) ++ "\x7d" := by
  cases fields with
  | nil => rfl
  | cons field rest =>
    obtain ⟨key, v⟩ := field
    have hvalue : render .compact 1 v = render .compact 0 v := render_of_lineless rfl _ _ v
    have htable : render .compact 0 (.table ((key, v) :: rest)) =
        '\x7b' :: (renderText .compact key ++ ':' :: render .compact 0 v) ++
          renderFields .compact 1 rest ++ ['\x7d'] := by
      rw [render, hvalue]
      simp [lineBreak, colon, Layout.compact]
    rw [print, htable, List.map_cons, Text.join_cons, ← ofList_renderFields 1]
    apply String.toList_inj.1
    simp [fieldText, print]

end Json

structure LaunchSettings where
  entryModule : String
  entryFunction : String
  amdRequire : String := defaultRequireName
  commonjsRequire : String := defaultRequireName
  preferCommonjs : Bool := false
  deriving DecidableEq, Repr

namespace LaunchSettings

def keys : List String := ["entryPoint", "amdRequire", "commonjsRequire", "preferCommonjs"]

def nameField? (v : Value) (key : String) : Option String :=
  match v.field? key with
  | none => some defaultRequireName
  | some name => name.text?

def preference? (v : Value) : Option Bool :=
  match v.field? "preferCommonjs" with
  | none => some false
  | some (.bool b) => some b
  | some _ => none

/-- The settings in an object, where a key that is missing stands for its default. -/
def ofValue? (v : Value) : Option LaunchSettings := do
  let entryPoint ← v.field? "entryPoint"
  let entryModule ← (← entryPoint.field? "module").text?
  let entryFunction ← (← entryPoint.field? "function").text?
  let amdRequire ← nameField? v "amdRequire"
  let commonjsRequire ← nameField? v "commonjsRequire"
  let preferCommonjs ← preference? v
  return ⟨entryModule, entryFunction, amdRequire, commonjsRequire, preferCommonjs⟩

def nameFields (key name : String) : List (String × Value) :=
  if name = defaultRequireName then [] else [(key, .text name)]

def preferenceFields (b : Bool) : List (String × Value) :=
  if b then [("preferCommonjs", .bool true)] else []

def entryPoint (x : LaunchSettings) : Value :=
  .table [("module", .text x.entryModule), ("function", .text x.entryFunction)]

def toFields (x : LaunchSettings) : List (String × Value) :=
  ("entryPoint", x.entryPoint) ::
    (nameFields "amdRequire" x.amdRequire ++ nameFields "commonjsRequire" x.commonjsRequire ++
      preferenceFields x.preferCommonjs)

variable {x : LaunchSettings}

theorem keys_sublist (x : LaunchSettings) : (Dictionary.keys x.toFields).Sublist keys := by
  have hname (key name : String) : (Dictionary.keys (nameFields key name)).Sublist [key] := by
    rw [nameFields]
    split
    · exact List.nil_sublist _
    · exact List.Sublist.refl _
  have hpreference (b : Bool) :
      (Dictionary.keys (preferenceFields b)).Sublist ["preferCommonjs"] := by
    cases b
    · exact List.nil_sublist _
    · exact List.Sublist.refl _
  have hrest := ((hname "amdRequire" x.amdRequire).append
    (hname "commonjsRequire" x.commonjsRequire)).append (hpreference x.preferCommonjs)
  rw [toFields, Dictionary.keys, List.map_cons, List.map_append, List.map_append]
  exact hrest.cons_cons "entryPoint"

theorem mem_nameFields {key name other : String} {v : Value}
    (h : (other, v) ∈ nameFields key name) : v = .text name := by
  rw [nameFields] at h
  split at h
  · exact absurd h List.not_mem_nil
  · exact (Prod.mk.inj (List.mem_singleton.1 h)).2

theorem plain_toFields (x : LaunchSettings) {levels : Nat} :
    Json.Plain (levels + 2) (.table x.toFields) := by
  have hentry : Json.Plain (levels + 1) x.entryPoint := by
    refine .table (by simp [Dictionary.keys]) fun key v hv => ?_
    simp only [List.mem_cons, Prod.mk.injEq, List.not_mem_nil, or_false] at hv
    rcases hv with ⟨-, rfl⟩ | ⟨-, rfl⟩
    · exact .text x.entryModule
    · exact .text x.entryFunction
  refine .table ((keys_sublist x).nodup (by decide)) fun key v hv => ?_
  simp only [toFields, List.mem_cons, List.mem_append, Prod.mk.injEq] at hv
  rcases hv with ⟨-, rfl⟩ | (hamd | hcommonjs) | hpreference
  · exact hentry
  · rw [mem_nameFields hamd]
    exact .text x.amdRequire
  · rw [mem_nameFields hcommonjs]
    exact .text x.commonjsRequire
  · rw [preferenceFields] at hpreference
    split at hpreference
    · rw [(Prod.mk.inj (List.mem_singleton.1 hpreference)).2]
      exact .bool true
    · exact absurd hpreference List.not_mem_nil

theorem find?_nameFields (key name other : String) :
    Dictionary.find? (nameFields key name) other =
      if key = other ∧ name ≠ defaultRequireName then some (.text name) else none := by
  rw [nameFields]
  by_cases hname : name = defaultRequireName
  · simp [hname]
  · by_cases hkey : key = other <;> simp [hname, hkey, Dictionary.find?]

theorem find?_preferenceFields (b : Bool) (key : String) :
    Dictionary.find? (preferenceFields b) key =
      if key = "preferCommonjs" ∧ b then some (.bool true) else none := by
  cases b with
  | false => simp [preferenceFields]
  | true =>
    by_cases hkey : "preferCommonjs" = key
    · simp [preferenceFields, Dictionary.find?, hkey]
    · simp [preferenceFields, Dictionary.find?, hkey, Ne.symm hkey]

theorem find?_toFields (x : LaunchSettings) {key : String} (h : "entryPoint" ≠ key) :
    Dictionary.find? x.toFields key =
      ((Dictionary.find? (nameFields "amdRequire" x.amdRequire) key).or
        (Dictionary.find? (nameFields "commonjsRequire" x.commonjsRequire) key)).or
          (Dictionary.find? (preferenceFields x.preferCommonjs) key) := by
  rw [toFields, Dictionary.find?, if_neg h, Dictionary.find?_append, Dictionary.find?_append]

/-- Settings are read back as they were written. -/
theorem ofValue?_toFields (x : LaunchSettings) : ofValue? (.table x.toFields) = some x := by
  have hamd : nameField? (.table x.toFields) "amdRequire" = some x.amdRequire := by
    rw [nameField?, Value.field?, find?_toFields x (by decide), find?_nameFields,
      find?_nameFields, find?_preferenceFields]
    by_cases hname : x.amdRequire = defaultRequireName <;> simp [hname, Value.text?]
  have hcommonjs : nameField? (.table x.toFields) "commonjsRequire" = some x.commonjsRequire := by
    rw [nameField?, Value.field?, find?_toFields x (by decide), find?_nameFields,
      find?_nameFields, find?_preferenceFields]
    by_cases hname : x.commonjsRequire = defaultRequireName <;> simp [hname, Value.text?]
  have hpreference : preference? (.table x.toFields) = some x.preferCommonjs := by
    rw [preference?, Value.field?, find?_toFields x (by decide), find?_nameFields,
      find?_nameFields, find?_preferenceFields]
    cases x.preferCommonjs <;> simp
  have hentry : (Value.table x.toFields).field? "entryPoint" = some x.entryPoint := rfl
  simp only [ofValue?, hentry, hamd, hcommonjs, hpreference]
  rfl

end LaunchSettings

namespace Assembler

variable {a : Assembler} {fs : FileSystem} {p : LaunchParameters} {name closing : String}
  {fields : List String} {x : LaunchSettings}

def errorHandler? (c : Config) : Except Fault String :=
  if c.errorHandlerName.isTruthy then c.errorHandlerName.display? else .ok ""

def rawFields (handler : String) (p : LaunchParameters) : List String :=
  codeField "afterEntryPointExecuted" (p.afterEntryPoint.getD "") ++
    (if p.entryPointArgs.isEmpty then []
      else ["\"entryPointArgs\":[" ++ Text.join "," p.entryPointArgs ++ "]"]) ++
    codeField "errorHandler" handler

theorem launchFields_eq (a : Assembler) (name : String) (p : LaunchParameters) :
    a.launchFields name p = (do
      let entryPoint ←
        compact (.table [("module", .text name), ("function", a.config.entryFunction)])
      let amd ← unlessDefault "amdRequire" a.config.amdRequireName
      let commonjs ← unlessDefault "commonjsRequire" a.config.commonjsRequireName
      let handler ← errorHandler? a.config
      return (["\"entryPoint\":" ++ entryPoint] ++ amd ++ commonjs ++
        if a.config.preferCommonjs.isTruthy then ["\"preferCommonjs\":true"] else []) ++
        rawFields handler p) := by
  simp only [launchFields, errorHandler?, rawFields]
  split <;> simp only [List.append_assoc]

theorem launchFields_eq_ok_iff :
    a.launchFields name p = .ok fields ↔
      ∃ entryPoint amd commonjs handler,
        compact (.table [("module", .text name), ("function", a.config.entryFunction)]) =
          .ok entryPoint ∧
        unlessDefault "amdRequire" a.config.amdRequireName = .ok amd ∧
        unlessDefault "commonjsRequire" a.config.commonjsRequireName = .ok commonjs ∧
        errorHandler? a.config = .ok handler ∧
        (["\"entryPoint\":" ++ entryPoint] ++ amd ++ commonjs ++
          if a.config.preferCommonjs.isTruthy then ["\"preferCommonjs\":true"] else []) ++
          rawFields handler p = fields := by
  simp only [launchFields_eq, bind_eq_ok_iff, pure, Except.pure, Except.ok.injEq,
    exists_and_left]

theorem closing_eq_ok_iff :
    a.closing fs p = .ok closing ↔
      ∃ name fields eval, a.entryName fs = .ok name ∧ a.launchFields name p = .ok fields ∧
        a.config.evalCapability = .text eval ∧
        ",\x7b" ++ Text.join "," fields ++ "\x7d," ++ eval ++ ");" = closing := by
  simp only [Assembler.closing, bind_eq_ok_iff]
  constructor
  · rintro ⟨name, hname, fields, hfields, h⟩
    split at h
    · next eval heval => exact ⟨name, fields, eval, hname, hfields, heval, Except.ok.inj h⟩
    · cases h
  · rintro ⟨name, fields, eval, hname, hfields, heval, rfl⟩
    refine ⟨name, hname, fields, hfields, ?_⟩
    rw [heval]
    rfl

/-- The settings are those of a configuration, in which all names are texts. -/
structure Configures (x : LaunchSettings) (c : Config) : Prop where
  entryFunction : c.entryFunction = .text x.entryFunction
  amdRequire : c.amdRequireName = .text x.amdRequire
  commonjsRequire : c.commonjsRequireName = .text x.commonjsRequire
  preferCommonjs : c.preferCommonjs = .bool x.preferCommonjs

theorem compact_eq {v : Value} (h : Json.fault? v = none) :
    compact v = .ok (Json.print .compact v) := by
  rw [compact, h]

theorem fieldText_of_mem_keys {key : String} (hkey : key ∈ LaunchSettings.keys) (v : Value) :
    Json.fieldText (key, v) = "\"" ++ key ++ "\":" ++ Json.print .compact v := by
  -- No character of a key is escaped.
  have hquoted : ∀ key ∈ LaunchSettings.keys,
      String.ofList (Json.renderText .compact key) = "\"" ++ key ++ "\"" := by decide
  rw [Json.fieldText, hquoted key hkey]
  simp only [String.append_assoc]
  rfl

theorem unlessDefault_text {key : String} (hkey : key ∈ LaunchSettings.keys) (s : String) :
    unlessDefault key (.text s) = .ok ((LaunchSettings.nameFields key s).map Json.fieldText) := by
  rw [unlessDefault, LaunchSettings.nameFields, Value.text?]
  by_cases hs : s = defaultRequireName
  · simp [hs]
  · rw [if_neg (by simpa using hs), if_neg hs, compact_eq rfl, List.map_singleton,
      fieldText_of_mem_keys hkey]
    rfl

theorem launchFields_of_settings {handler : String} (h : Configures x a.config)
    (hhandler : errorHandler? a.config = .ok handler) :
    a.launchFields x.entryModule p =
      .ok (x.toFields.map Json.fieldText ++ rawFields handler p) := by
  have hentry : compact (.table [("module", .text x.entryModule),
      ("function", a.config.entryFunction)]) = .ok (Json.print .compact x.entryPoint) := by
    rw [h.entryFunction]
    exact compact_eq rfl
  have hamd := @unlessDefault_text "amdRequire" (by decide) x.amdRequire
  have hcommonjs := @unlessDefault_text "commonjsRequire" (by decide) x.commonjsRequire
  have hpreference : (LaunchSettings.preferenceFields x.preferCommonjs).map Json.fieldText =
      if a.config.preferCommonjs.isTruthy then ["\"preferCommonjs\":true"] else [] := by
    rw [h.preferCommonjs]
    cases x.preferCommonjs <;> decide
  rw [← h.amdRequire] at hamd
  rw [← h.commonjsRequire] at hcommonjs
  refine launchFields_eq_ok_iff.2 ⟨_, _, _, handler, hentry, hamd, hcommonjs, hhandler, ?_⟩
  rw [← hpreference, LaunchSettings.toFields, List.map_cons, List.map_append, List.map_append,
    fieldText_of_mem_keys (by decide)]
  simp only [List.cons_append, List.append_assoc]
  rfl

def member (key code : String) : String := if code = "" then "" else ",\"" ++ key ++ "\":" ++ code

def arrayCode : List String → String
  | [] => ""
  | args => "[" ++ Text.join "," args ++ "]"

/-- What the code of a launch adds to the object of its settings. -/
def rawMembers (handler : String) (p : LaunchParameters) : String :=
  member "afterEntryPointExecuted" (p.afterEntryPoint.getD "") ++
    member "entryPointArgs" (arrayCode p.entryPointArgs) ++ member "errorHandler" handler

theorem eachBehind_singleton (key code : String) :
    Text.eachBehind "," ["\"" ++ key ++ "\":" ++ code] = ",\"" ++ key ++ "\":" ++ code := by
  have hquote : ",\"" = "," ++ "\"" := rfl
  rw [Text.eachBehind, Text.eachBehind, String.append_empty, hquote]
  simp only [String.append_assoc]

theorem eachBehind_codeField (key code : String) :
    Text.eachBehind "," (codeField key code) = member key code := by
  rw [codeField, member]
  split
  · rfl
  · exact eachBehind_singleton key code

theorem eachBehind_rawFields (handler : String) (p : LaunchParameters) :
    Text.eachBehind "," (rawFields handler p) = rawMembers handler p := by
  have hargs : Text.eachBehind "," (if p.entryPointArgs.isEmpty then []
      else ["\"entryPointArgs\":[" ++ Text.join "," p.entryPointArgs ++ "]"]) =
        member "entryPointArgs" (arrayCode p.entryPointArgs) := by
    cases hp : p.entryPointArgs with
    | nil => rfl
    | cons arg args =>
      have hcode : arrayCode (arg :: args) ≠ "" := by
        intro hempty
        have hlist := congrArg String.toList hempty
        simp [arrayCode] at hlist
      rw [member, if_neg hcode, ← eachBehind_singleton]
      simp only [arrayCode, String.append_assoc]
      rfl
  rw [rawFields, Text.eachBehind_append, Text.eachBehind_append, eachBehind_codeField,
    eachBehind_codeField, hargs, rawMembers]

/-- The object of settings with the members of code, between what encloses it. -/
theorem closing_of_settings {handler eval : String} (hname : a.entryName fs = .ok x.entryModule)
    (h : Configures x a.config) (heval : a.config.evalCapability = .text eval)
    (hhandler : errorHandler? a.config = .ok handler) :
    a.closing fs p = .ok ("," ++ ("\x7b" ++ Text.join "," (x.toFields.map Json.fieldText) ++
      rawMembers handler p ++ "\x7d") ++ "," ++ eval ++ ");") := by
  have hfields : x.toFields.map Json.fieldText ≠ [] := List.cons_ne_nil _ _
  refine closing_eq_ok_iff.2 ⟨_, _, eval, hname, launchFields_of_settings h hhandler, heval, ?_⟩
  rw [Text.join_append hfields, eachBehind_rawFields]
  apply String.toList_inj.1
  simp

def handling (a : Assembler) (handler : Value) : Assembler :=
  { a with config := { a.config with errorHandlerName := handler } }

theorem errorHandler?_handling {v : Value} {handler : String}
    (h : v.isTruthy = false ∧ handler = "" ∨ v = .text handler) :
    errorHandler? (a.handling v).config = .ok handler := by
  have hsetting : (a.handling v).config.errorHandlerName = v := rfl
  rw [errorHandler?, hsetting]
  rcases h with ⟨hunset, rfl⟩ | rfl
  · rw [hunset]
    rfl
  · split
    · rfl
    · next hempty =>
      have hempty : handler = "" := by simpa [Value.isTruthy] using hempty
      rw [hempty]

/-- The settings of a launch are an object in JSON with no other keys than theirs, from which they
are read back with the defaults for missing keys. Code that is given with them stands behind them,
before the end of the object, and leaves its text as it is. -/
theorem closing_decodes (a : Assembler) (fs : FileSystem) (x : LaunchSettings) (eval : String)
    (hname : a.entryName fs = .ok x.entryModule) (hsettings : Configures x a.config)
    (heval : a.config.evalCapability = .text eval) :
    ∃ body fields,
      Json.parse ("\x7b" ++ body ++ "\x7d") = .ok (.table fields) ∧
      (∀ key ∈ Dictionary.keys fields,
        key ∈ ["entryPoint", "amdRequire", "commonjsRequire", "preferCommonjs"]) ∧
      LaunchSettings.ofValue? (.table fields) = some x ∧
      (∀ v p, v.isTruthy = false → p.afterEntryPoint.getD "" = "" → p.entryPointArgs = [] →
        (a.handling v).closing fs p =
          .ok ("," ++ ("\x7b" ++ body ++ "\x7d") ++ "," ++ eval ++ ");")) ∧
      ∀ v handler p, (v.isTruthy = false ∧ handler = "" ∨ v = .text handler) →
        (a.handling v).closing fs p = .ok ("," ++ ("\x7b" ++ body ++
          rawMembers handler p ++ "\x7d") ++ "," ++ eval ++ ");") := by
  have hclosing (v : Value) (handler : String) (p : LaunchParameters)
      (h : v.isTruthy = false ∧ handler = "" ∨ v = .text handler) :=
    closing_of_settings (a := a.handling v) (p := p) hname ⟨hsettings.1, hsettings.2, hsettings.3,
      hsettings.4⟩ heval (errorHandler?_handling h)
  refine ⟨Text.join "," (x.toFields.map Json.fieldText), x.toFields, ?_, ?_, ?_, ?_, ?_⟩
  · rw [← Json.print_table]
    exact Json.parse_print .compact (LaunchSettings.plain_toFields x)
  · intro key hkey
    exact (LaunchSettings.keys_sublist x).subset hkey
  · exact LaunchSettings.ofValue?_toFields x
  · intro v p hunset hcallback hargs
    have hmembers : rawMembers "" p = "" := by
      rw [rawMembers, hcallback, hargs]
      rfl
    rw [hclosing v "" p (.inl ⟨hunset, rfl⟩), hmembers, String.append_empty]
  · exact hclosing

def launched : LaunchSettings where
  entryModule := "/ma\"in"
  entryFunction := "r\\un\n"
  amdRequire := "é"
  preferCommonjs := true

def launcher : Assembler where
  config :=
    { projectDir := ⟨.root, ["p"]⟩
      entryModule := .text "ma\"in.ts"
      entryFunction := .text launched.entryFunction
      outFile := ⟨.root, ["p", "out.js"]⟩
      compiler := default
      amdRequireName := .text launched.amdRequire
      preferCommonjs := .bool true }
  specifiers := ⟨⟨.root, ["p"]⟩, .listed [], []⟩
  minifier := .identity

theorem closing_decodes_launched :
    launcher.entryName default = .ok launched.entryModule ∧
      Configures launched launcher.config ∧
      launcher.config.evalCapability = .text "eval" ∧
      ∃ body fields,
        Json.parse ("\x7b" ++ body ++ "\x7d") = .ok (.table fields) ∧
        LaunchSettings.ofValue? (.table fields) = some launched ∧
        (launcher.handling (.text "onError")).closing default ⟨some "done", ["1", "x"]⟩ =
          .ok ("," ++ ("\x7b" ++ body ++ (",\"afterEntryPointExecuted\":done" ++
            ",\"entryPointArgs\":[1,x]" ++ ",\"errorHandler\":onError") ++ "\x7d") ++ "," ++
            "eval" ++ ");") := by
  have hname : launcher.entryName default = .ok launched.entryModule := rfl
  have hsettings : Configures launched launcher.config := ⟨rfl, rfl, rfl, rfl⟩
  obtain ⟨body, fields, hparse, -, hread, -, hraw⟩ :=
    closing_decodes launcher default launched "eval" hname hsettings rfl
  exact ⟨hname, hsettings, rfl, body, fields, hparse, hread, hraw _ "onError" _ (.inr rfl)⟩

end Assembler

end ModulePack
