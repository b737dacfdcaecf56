import Mathlib.Data.List.Basic
import SignalLint.Proofs.Settings.Accepted
import SignalLint.Proofs.Settings.CallerOptions
import SignalLint.Proofs.Toml.Document
import SignalLint.Proofs.Value.Equality

/-!
# Which place a setting comes from

Two tables are filled side by side from up to five places, and the places are not treated alike: a
file replaces settings as wholes but adds to the options of the rule, the environment knows some of
the settings only, and the caller's options come under another key than those of the files. The main
statement, `loadConfig_precedence`, says what comes out without the tables.

* `lastGiven` — the strongest of several places that may give something.
* `GatheredSettings.Holds` — the invariant: what is gathered is, for each key, what the last of the
  files so far gives. `Holds.addFile` is one file, `Holds.addFileAt` one that may be missing, and
  `Holds.addConfigFiles` goes through those of a run.
* `EnvironmentGives` — what the environment gives a setting; `get?_readVariables` has the
  environment as a table.
* `LintConfig.get_of_ofTable` — settings are what the table says, or the default.
-/

namespace SignalLint

/-! ### Places -/

/-- The last value that is given. -/
def lastGiven {α : Type} (given : List (Option α)) : Option α := (given.filterMap id).getLast?

theorem lastGiven_concat {α : Type} (given : List (Option α)) (o : Option α) :
    lastGiven (given ++ [o]) = o.or (lastGiven given) := by
  unfold lastGiven
  rw [List.filterMap_append, List.getLast?_append]
  cases o <;> rfl

/-- The table that a configuration file holds. A file that is not there holds nothing. -/
def configTable (store : Store) (path : FilePath) : Table String Value :=
  match readConfigFile store path with
  | .ok entries => .ofList entries
  | .error _ => .empty

/-- A path that leads nowhere has no table. -/
theorem configTable_of_probe_eq_false {store : Store} {path : FilePath}
    (h : store.probe path = .ok false) : configTable store path = .empty := by
  cases hread : readConfigFile store path with
  | error e => rw [configTable, hread]
  | ok entries => cases h.symm.trans (probe_of_readConfigFile hread)

/-- The options of the rule in the table of a configuration file. -/
def ruleTable (file : Table String Value) : Table String Value :=
  match file.get? ruleTableKey with
  | some (.table options) => .ofList options
  | _ => .empty

/-! ### Files -/

theorem nodup_keys_of_readConfigFile {store : Store} {path : FilePath}
    {entries : List (String × Value)} (h : readConfigFile store path = .ok entries) :
    (entries.map (·.1)).Nodup := by
  unfold readConfigFile at h
  split at h
  · cases h
  · split at h
    · cases h
    · split at h
      · cases h
      · cases h
      · rename_i hparse
        exact Except.ok.inj h ▸ Toml.nodup_keys_read hparse

/-- **What is gathered from files.** Under each key stands what the last file that has the key gives,
and each option of the rule is what the last file that has the option gives. -/
structure GatheredSettings.Holds (g : GatheredSettings) (files : List (Table String Value)) :
    Prop where
  settings : ∀ key, key ≠ ruleTableKey → g.settings.get? key = lastGiven (files.map (·.get? key))
  ruleOptions : ∀ key, g.ruleOptions.get? key =
    lastGiven (files.map fun file => (ruleTable file).get? key)
  nodup : g.ruleOptions.keys.Nodup

namespace GatheredSettings.Holds

variable {g g' : GatheredSettings} {files : List (Table String Value)} {store : Store}
  {path : FilePath} {entries : List (String × Value)}

theorem start : Holds {} [] where
  settings _ _ := rfl
  ruleOptions _ := rfl
  nodup := List.nodup_nil

/-- A file that is not there changes nothing. -/
theorem skip (h : g.Holds files) : g.Holds (files ++ [.empty]) where
  settings key hkey := by
    rw [List.map_append, List.map_singleton, lastGiven_concat, Table.get?_empty, Option.none_or]
    exact h.settings key hkey
  ruleOptions key := by
    have hnone : (ruleTable .empty).get? key = none := rfl
    rw [List.map_append, List.map_singleton, lastGiven_concat, hnone, Option.none_or]
    exact h.ruleOptions key
  nodup := h.nodup

/-- **One file.** It replaces the keys that it has, and adds the options that it has. -/
theorem addFile (h : g.Holds files) (hentries : (entries.map (·.1)).Nodup)
    (hadd : g.addFile entries = .ok g') : g'.Holds (files ++ [.ofList entries]) := by
  -- whatever the table of the rule is, the other keys are entered like this
  have hsettings : ∀ key, key ≠ ruleTableKey →
      (g.settings.insertAll (entries.filter (·.1 ≠ ruleTableKey))).get? key =
        lastGiven ((files ++ [Table.ofList entries]).map (·.get? key)) := by
    intro key hkey
    rw [Table.get?_insertAll, Table.get?_ofList_filter hkey, List.map_append, List.map_singleton,
      lastGiven_concat, h.settings key hkey]
  have hrule : (Table.ofList entries).get? ruleTableKey =
      (entries.find? (·.1 = ruleTableKey)).map (·.2) := by
    rw [Table.ofList_of_nodup hentries]
    rfl
  have hoptions : ∀ key, lastGiven ((files ++ [Table.ofList entries]).map fun file =>
      (ruleTable file).get? key) =
        ((ruleTable (.ofList entries)).get? key).or (g.ruleOptions.get? key) := by
    intro key
    rw [List.map_append, List.map_singleton, lastGiven_concat, ← h.ruleOptions key]
  -- no table of the rule, a table, or something else under its key, which is an error
  unfold GatheredSettings.addFile at hadd
  dsimp only at hadd
  split at hadd
  · rename_i hfind
    obtain rfl := Except.ok.inj hadd
    refine ⟨hsettings, fun key => ?_, h.nodup⟩
    rw [hoptions, ruleTable, hrule, hfind]
    rfl
  · rename_i key options hfind
    obtain rfl := Except.ok.inj hadd
    refine ⟨hsettings, fun key => ?_, Table.nodup_keys_insertAll h.nodup options⟩
    rw [hoptions, ruleTable, hrule, hfind]
    exact Table.get?_insertAll g.ruleOptions options key
  · cases hadd

/-- **One configuration file**, whether it is there or not. -/
theorem addFileAt {file : ConfigFile} (h : g.Holds files)
    (hadd : g.addFileAt store file = .ok g') :
    g'.Holds (files ++ [configTable store file.path]) := by
  unfold GatheredSettings.addFileAt at hadd
  -- the way is barred, the file is there, or it is missing
  split at hadd
  · cases hadd
  · obtain ⟨entries, hread, hfile⟩ := Except.bind_eq_ok_iff.1 hadd
    rw [configTable, hread]
    exact h.addFile (nodup_keys_of_readConfigFile hread) hfile
  · rename_i hmissing
    split at hadd
    · cases hadd
    · obtain rfl := Except.ok.inj hadd
      rw [configTable_of_probe_eq_false hmissing]
      exact h.skip

/-- Several configuration files, one after the other. -/
theorem addFilesAt {configs : List ConfigFile} (h : g.Holds files)
    (hadd : configs.foldlM (GatheredSettings.addFileAt store) g = .ok g') :
    g'.Holds (files ++ configs.map (configTable store ·.path)) := by
  -- the induction is on the files to come; `files` are those that `g` holds
  induction configs generalizing g files with
  | nil =>
    obtain rfl := Except.ok.inj hadd
    rwa [List.map_nil, List.append_nil]
  | cons file configs ih =>
    rw [List.foldlM_cons] at hadd
    obtain ⟨g₁, hfirst, hrest⟩ := Except.bind_eq_ok_iff.1 hadd
    rw [List.map_cons, List.append_cons]
    exact ih (h.addFileAt hfirst) hrest

/-- **The configuration files of a run.** If the user names none, it is as if the last one were
missing. -/
theorem addConfigFiles {named : Option FilePath}
    (hadd : (configFiles store named).foldlM (GatheredSettings.addFileAt store) {} = .ok g) :
    g.Holds [configTable store (store.inHome ".prefer-signals.toml"),
      configTable store (store.inWorking "prefer-signals.toml"),
      named.elim .empty (configTable store)] := by
  have h := start.addFilesAt hadd
  cases named with
  | none => exact h.skip
  | some path => exact h

end GatheredSettings.Holds

/-! ### The environment -/

/-- **What the text of a variable gives a setting**: one of some words sets or clears a flag, a
number is the size limit, and any text an output format. -/
inductive VariableGives : Setting → String → Value → Prop where
  | on {s : Setting} {text : String} (hs : s ∈ [.typeInformation, .followSymlinks])
      (h : lowerCase text ∈ ["true", "1", "yes", "on"]) : VariableGives s text (.bool true)
  | off {s : Setting} {text : String} (hs : s ∈ [.typeInformation, .followSymlinks])
      (h : lowerCase text ∈ ["false", "0", "no", "off"]) : VariableGives s text (.bool false)
  | size {text : String} {x : Binary64} (h : NumberText.readBinary64 text = some x) :
      VariableGives .maxFileSize text (.float x)
  | format {text : String} : VariableGives .outputFormat text (.text text)

/-- **What the environment gives a setting**: what the text of its variable gives. -/
def EnvironmentGives (environment : Environment) (s : Setting) (v : Value) : Prop :=
  ∃ text, environment.find? (·.1 = s.variableName) = some (s.variableName, text) ∧
    VariableGives s text v

namespace Setting

/-- The value that the environment gives a setting. -/
def environmentValue? (environment : Environment) (s : Setting) : Option Value :=
  (s.fromEnvironment environment).toOption.join

theorem read_flag_eq_ok_some_iff {text : String} {v : Value} :
    VariableType.flag.read text = .ok (some v) ↔
      lowerCase text ∈ VariableType.wordsOn ∧ v = .bool true ∨
        lowerCase text ∈ VariableType.wordsOff ∧ v = .bool false := by
  -- no word is in both lists, so the order of the two tests does not matter
  have hdisjoint : ∀ word ∈ VariableType.wordsOn, word ∉ VariableType.wordsOff := by decide
  simp only [VariableType.read, List.contains_iff_mem]
  split
  · rename_i hon
    rw [Except.ok.injEq, Option.some.injEq, eq_comm]
    exact ⟨fun h => .inl ⟨hon, h⟩, fun h => h.elim And.right fun h => absurd h.1 (hdisjoint _ hon)⟩
  · rename_i hon
    split
    · rename_i hoff
      rw [Except.ok.injEq, Option.some.injEq, eq_comm]
      exact ⟨fun h => .inr ⟨hoff, h⟩, fun h => h.elim (fun h => absurd h.1 hon) And.right⟩
    · rename_i hoff
      exact iff_of_false nofun (not_or_intro (fun h => hon h.1) fun h => hoff h.1)

/-- The text of a variable is read as what it gives. -/
theorem read_variableType_eq_ok_some_iff {s : Setting} {text : String} {v : Value} :
    s.variableType.read text = .ok (some v) ↔ VariableGives s text v := by
  constructor
  · intro h
    cases s with
    | typeInformation | followSymlinks =>
      rcases read_flag_eq_ok_some_iff.1 h with ⟨hword, rfl⟩ | ⟨hword, rfl⟩
      · exact .on (by decide) hword
      · exact .off (by decide) hword
    | maxFileSize =>
      rw [variableType, VariableType.read] at h
      split at h
      · rename_i x hx
        obtain rfl := Option.some.inj (Except.ok.inj h)
        exact .size hx
      · cases h
    | outputFormat =>
      obtain rfl := Option.some.inj (Except.ok.inj h)
      exact .format
    | ruleOptions | excludePatterns => cases Except.ok.inj h
  · intro h
    have hflag : ∀ s ∈ [typeInformation, followSymlinks], s.variableType = .flag := by decide
    cases h with
    | on hs hword => exact hflag s hs ▸ read_flag_eq_ok_some_iff.2 (.inl ⟨hword, rfl⟩)
    | off hs hword => exact hflag s hs ▸ read_flag_eq_ok_some_iff.2 (.inr ⟨hword, rfl⟩)
    | size hx => simp only [variableType, VariableType.read, hx]
    | format => rfl

theorem environmentValue?_eq_some_iff {environment : Environment} {s : Setting} {v : Value} :
    s.environmentValue? environment = some v ↔ EnvironmentGives environment s v := by
  unfold environmentValue? fromEnvironment EnvironmentGives
  cases hfind : environment.find? (·.1 = s.variableName) with
  | none => exact iff_of_false nofun nofun
  | some found =>
    obtain ⟨name, text⟩ := found
    have hname : name = s.variableName := by simpa using List.find?_some hfind
    simp only [hname, Option.some.injEq, Prod.mk.injEq, true_and, exists_eq_left',
      ← read_variableType_eq_ok_some_iff]
    cases s.variableType.read text with
    | error e => exact iff_of_false nofun nofun
    | ok value => simp [Except.mapError, Except.toOption]

end Setting

theorem Setting.key_injective : Function.Injective Setting.key := by
  intro s t h
  cases s <;> cases t <;> first | rfl | exact absurd h (by decide)

theorem Setting.key_ne_ruleTableKey (s : Setting) : s.key ≠ ruleTableKey := by
  cases s <;> decide

/-- The settings whose variables are read, one after the other. -/
theorem get?_ofList_of_mapM_fromEnvironment {environment : Environment} {settings : List Setting}
    {found : List (Option (String × Value))}
    (h : (settings.mapM fun s => do
      return (← s.fromEnvironment environment).map (s.key, ·)) = Except.ok found) (s : Setting) :
    (Table.ofList (found.filterMap id)).get? s.key =
      if s ∈ settings then s.environmentValue? environment else none := by
  -- later entries win, so the rest is asked first and the head only where it is silent
  induction settings generalizing found with
  | nil =>
    cases h
    rfl
  | cons t rest ih =>
    rw [List.mapM_cons] at h
    obtain ⟨first, hfirst, h⟩ := Except.bind_eq_ok_iff.1 h
    obtain ⟨others, hothers, h⟩ := Except.bind_eq_ok_iff.1 h
    obtain rfl := Except.ok.inj h
    obtain ⟨value, hvalue, hfirst⟩ := Except.bind_eq_ok_iff.1 hfirst
    obtain rfl := Except.ok.inj hfirst
    have ht : t.environmentValue? environment = value := by
      rw [Setting.environmentValue?, hvalue]
      rfl
    have hrest := ih hothers
    cases value with
    | none =>
      rw [Option.map_none, List.filterMap_cons_none rfl, hrest]
      by_cases hs : s = t
      · rw [hs, ht, ite_self, ite_self]
      · simp only [List.mem_cons, hs, false_or]
    | some v =>
      change (Table.ofList ((t.key, v) :: others.filterMap id)).get? s.key = _
      rw [Table.get?_ofList_cons, hrest]
      by_cases hs : s = t
      · -- a later reading of the same setting would give the same value
        rw [hs, ht, if_pos rfl, if_pos List.mem_cons_self]
        split <;> rfl
      · rw [if_neg fun hkey => hs (Setting.key_injective hkey), Option.or_none]
        simp only [List.mem_cons, hs, false_or]

/-- The environment gives the settings whose variables can be read. -/
theorem get?_readVariables {environment : Environment} {given : List (String × Value)}
    (h : readVariables environment = .ok given) (s : Setting) :
    (Table.ofList given).get? s.key = s.environmentValue? environment := by
  have hall : s ∈ Setting.all := by cases s <;> decide
  unfold readVariables at h
  obtain ⟨found, hfound, h⟩ := Except.bind_eq_ok_iff.1 h
  obtain rfl := Except.ok.inj h
  rw [get?_ofList_of_mapM_fromEnvironment hfound, if_pos hall]

/-! ### The settings of a run -/

theorem LintConfig.get_of_ofTable {given : Table String Value} {c : LintConfig}
    (h : ofTable given = .ok c) (s : Setting) : c.get s = (given.get? s.key).getD s.default := by
  unfold ofTable at h
  dsimp only at h
  split at h
  · cases h
  · split at h
    · cases h
    · split at h
      · cases h
      · obtain rfl := Except.ok.inj h
        cases s <;> rfl

/-- **What the caller adds.** A setting is replaced, an option of the rule is added to the
others. -/
theorem GatheredSettings.get?_addOverrides {g g' : GatheredSettings}
    {overrides : List (String × Value)} (h : g.addOverrides (.ofList overrides) = .ok g') :
    ∃ given,
      OptionsGiven (((Table.ofList overrides).get? Setting.ruleOptions.key).getD .null) given ∧
      (∀ key, key ≠ Setting.ruleOptions.key → g'.settings.get? key =
        ((Table.ofList overrides).get? key).or (g.settings.get? key)) ∧
      (∀ key, g'.ruleOptions.get? key =
        ((Table.ofList given).get? key).or (g.ruleOptions.get? key)) ∧
      (g.ruleOptions.keys.Nodup → g'.ruleOptions.keys.Nodup) := by
  obtain ⟨given, hgiven, rfl⟩ := addOverrides_eq_ok_iff.1 h
  refine ⟨given, hgiven, fun key hkey => ?_, Table.get?_insertAll g.ruleOptions given,
    fun hnodup => Table.nodup_keys_insertAll hnodup given⟩
  rw [Table.get?_insertAll, Table.erase, Table.get?_ofList_filter hkey,
    Table.ofList_of_nodup (Table.nodup_keys_ofList overrides)]

/-- The places that the settings of a run come from, the weakest first. The options of the rule that
the caller gives stand apart from the other settings that it overrides. -/
structure SettingPlaces where
  home : Table String Value
  project : Table String Value
  named : Table String Value
  environment : Setting → Option Value
  overrides : Table String Value
  options : Table String Value

namespace SettingPlaces

/-- The value that the strongest place gives a setting, if one does. -/
def value? (p : SettingPlaces) (s : Setting) : Option Value :=
  lastGiven [p.home.get? s.key, p.project.get? s.key, p.named.get? s.key, p.environment s,
    p.overrides.get? s.key]

/-- The value that the strongest place gives an option of the rule, if one does. -/
def option? (p : SettingPlaces) (key : String) : Option Value :=
  lastGiven [(ruleTable p.home).get? key, (ruleTable p.project).get? key,
    (ruleTable p.named).get? key, p.options.get? key]

end SettingPlaces

/-- **Which place a setting comes from.** Whenever settings can be loaded, each of them except the
options of the rule has the value of the last place that gives it, of the file in the home directory,
the file in the working directory, the file that is named, the environment and the caller, and its
default if none does; the environment gives no list and no table. The options of the rule are those
that the tables of the rule in these files and the caller's options give and no others, each with the
value of the last that gives it. -/
theorem loadConfig_precedence {store : Store} {environment : Environment}
    {named : Option FilePath} {overrides : List (String × Value)} {config : LintConfig}
    (h : loadConfig store environment named (.ofList overrides) = .ok config) :
    ∃ (fromVariable : Setting → Option Value) (given : List (String × Value)),
      (∀ s v, fromVariable s = some v ↔ EnvironmentGives environment s v) ∧
      OptionsGiven (((Table.ofList overrides).get? Setting.ruleOptions.key).getD .null) given ∧
      let places : SettingPlaces := {
        home := configTable store (store.inHome ".prefer-signals.toml")
        project := configTable store (store.inWorking "prefer-signals.toml")
        named := named.elim .empty (configTable store)
        environment := fromVariable
        overrides := .ofList overrides
        options := .ofList given }
      (∀ s, s ≠ .ruleOptions → config.get s = (places.value? s).getD s.default) ∧
        (∃ options : Table String Value, config.ruleOptions = .table options.entries ∧
          options.keys.Nodup ∧ ∀ key, options.get? key = places.option? key) ∧
        ∀ s ∈ [Setting.ruleOptions, .excludePatterns], fromVariable s = none := by
  -- stage by stage: the files, the environment, the caller; then the settings are made
  obtain ⟨g₁, hfiles, h⟩ := Except.bind_eq_ok_iff.1 h
  obtain ⟨found, hfound, h⟩ := Except.bind_eq_ok_iff.1 h
  obtain ⟨g₂, hoverrides, h⟩ := Except.bind_eq_ok_iff.1 h
  have hholds := GatheredSettings.Holds.addConfigFiles hfiles
  obtain ⟨given, hgiven, hsettings, hoptions, hnodup⟩ :=
    GatheredSettings.get?_addOverrides (Except.mapError_eq_ok_iff.1 hoverrides)
  have hconfig := Except.mapError_eq_ok_iff.1 (Except.mapError_eq_ok_iff.1 h)
  refine ⟨(·.environmentValue? environment), given,
    fun s v => Setting.environmentValue?_eq_some_iff, hgiven, fun s hs => ?_,
    ⟨g₂.ruleOptions, ?_, hnodup hholds.nodup, fun key => ?_⟩, fun s hs => ?_⟩
  · have hkey : s.key ≠ Setting.ruleOptions.key := fun heq => hs (Setting.key_injective heq)
    rw [LintConfig.get_of_ofTable hconfig, Table.get?_insert, if_neg hkey, hsettings _ hkey,
      GatheredSettings.addVariables, Table.get?_insertAll,
      get?_readVariables (Except.mapError_eq_ok_iff.1 hfound),
      hholds.settings _ s.key_ne_ruleTableKey, ← lastGiven_concat, ← lastGiven_concat]
    rfl
  · have hget := LintConfig.get_of_ofTable hconfig .ruleOptions
    rw [Table.get?_insert, if_pos rfl] at hget
    exact hget
  · rw [hoptions key, GatheredSettings.addVariables, hholds.ruleOptions key, ← lastGiven_concat]
    rfl
  · -- no text of a variable is a list or a table
    refine Option.eq_none_iff_forall_ne_some.2 fun v hv => ?_
    obtain ⟨text, -, hgives⟩ := Setting.environmentValue?_eq_some_iff.1 hv
    have hstructured : s = .ruleOptions ∨ s = .excludePatterns := by simpa using hs
    rcases hstructured with rfl | rfl <;> cases hgives <;> contradiction

/-- Every place gives something: the file in the home directory an option, that in the working
directory a format and another option, the one that is named a size, the environment the format once
more, and the caller a flag and, as a list of pairs, two options. -/
theorem loadConfig_precedence_allPlaces :
    let store : Store := {
      root := .directory [
        ("home", .directory [(".prefer-signals.toml",
          .file (Utf8.encode "[rule]\nuseTypeChecking = false\n"))]),
        ("work", .directory [
          ("prefer-signals.toml",
            .file (Utf8.encode "output_format = 'json'\n[rule]\npreferReadonly = false\n")),
          ("ci.toml", .file (Utf8.encode "max_file_size_mb = 5\n"))])]
      home := ["home"]
      working := ["work"] }
    let environment : Environment := [("PREFER_SIGNALS_OUTPUT_FORMAT", "github")]
    let overrides : List (String × Value) := [("type_information", .bool false),
      ("rule_options", .list [.list [.text "preferReadonly", .bool true],
        .list [.text "preferInputSignal", .bool false]])]
    ∃ config,
      loadConfig store environment (some ⟨"", ["ci.toml"]⟩) (.ofList overrides) = .ok config ∧
      config.get .maxFileSize = .int 5 ∧ config.get .outputFormat = .text "github" ∧
      config.get .typeInformation = .bool false ∧ config.get .followSymlinks = .bool false ∧
      ∃ options : Table String Value, config.ruleOptions = .table options.entries ∧
        options.get? "useTypeChecking" = some (.bool false) ∧
        options.get? "preferReadonly" = some (.bool true) ∧
        options.get? "preferInputSignal" = some (.bool false) ∧
        options.get? "preferQuerySignal" = none := by
  intro store environment overrides
  have hhome : readConfigFile store (store.inHome ".prefer-signals.toml") =
      .ok [("rule", .table [("useTypeChecking", .bool false)])] :=
    readConfigFile_of_read "[rule]\nuseTypeChecking = false\n"
      (Store.read_of_isDirect rfl rfl rfl) (by decide +kernel) (by decide +kernel)
  have hproject : readConfigFile store (store.inWorking "prefer-signals.toml") =
      .ok [("output_format", .text "json"), ("rule", .table [("preferReadonly", .bool false)])] :=
    readConfigFile_of_read "output_format = 'json'\n[rule]\npreferReadonly = false\n"
      (Store.read_of_isDirect rfl rfl rfl) (by decide +kernel) (by decide +kernel)
  have hnamed : readConfigFile store ⟨"", ["ci.toml"]⟩ = .ok [("max_file_size_mb", .int 5)] :=
    readConfigFile_of_read "max_file_size_mb = 5\n"
      (Store.read_of_isDirect rfl rfl rfl) (by decide +kernel) (by decide +kernel)
  have hload : ∃ config,
      loadConfig store environment (some ⟨"", ["ci.toml"]⟩) (.ofList overrides) = .ok config := by
    have hfound : readVariables environment = .ok [("output_format", .text "github")] := rfl
    simp only [loadConfig, configFiles, Option.map_some, Option.toList_some, List.cons_append,
      List.nil_append, List.foldlM_cons, GatheredSettings.addFileAt_of_read hhome,
      GatheredSettings.addFileAt_of_read hproject, GatheredSettings.addFileAt_of_read hnamed,
      GatheredSettings.complete, hfound]
    exact ⟨_, rfl⟩
  obtain ⟨config, hload⟩ := hload
  obtain ⟨fromVariable, given, hvariable, hgiven, hvalues, ⟨options, hoptions, -, hget⟩, -⟩ :=
    loadConfig_precedence hload
  have hformat : fromVariable .outputFormat = some (.text "github") :=
    (hvariable _ _).2 ⟨"github", rfl, .format⟩
  have hunset : ∀ s ∈ [Setting.maxFileSize, .followSymlinks], fromVariable s = none := by
    intro s hs
    have hfind : environment.find? (·.1 = s.variableName) = none := by
      simp only [List.mem_cons, List.not_mem_nil, or_false] at hs
      rcases hs with rfl | rfl <;> rfl
    refine Option.eq_none_iff_forall_ne_some.2 fun v hv => ?_
    obtain ⟨text, htext, -⟩ := (hvariable _ _).1 hv
    cases hfind.symm.trans htext
  obtain rfl : [("preferReadonly", .bool true), ("preferInputSignal", .bool false)] = given :=
    Except.ok.inj ((entriesOf_eq_ok_iff rfl).2 hgiven)
  simp only [configTable, hhome, hproject, hnamed, Option.elim_some, SettingPlaces.value?,
    SettingPlaces.option?] at hvalues hget
  refine ⟨config, hload, ?_, ?_, ?_, ?_, options, hoptions, ?_, ?_, ?_, ?_⟩
  · rw [hvalues .maxFileSize (by decide), hunset _ (by decide)]
    rfl
  · rw [hvalues .outputFormat (by decide), hformat]
    rfl
  · rw [hvalues .typeInformation (by decide)]
    cases fromVariable .typeInformation <;> rfl
  · rw [hvalues .followSymlinks (by decide), hunset _ (by decide)]
    rfl
  · exact hget "useTypeChecking"
  · exact hget "preferReadonly"
  · exact hget "preferInputSignal"
  · exact hget "preferQuerySignal"

end SignalLint
