import SignalLint.Proofs.Files.Write
import SignalLint.Proofs.Settings.Accepted
import SignalLint.Proofs.Settings.CallerOptions
import SignalLint.Proofs.Value.Text

/-!
# How loading the settings ends

Whatever goes wrong while the settings of a run are loaded should be told as an error, and settings
that are loaded should be good to use. This module goes through all that can happen, stage after
stage: the files are read one after the other, then the environment, then what the caller gives, and
at last the settings are made.

* `LintError.IsGeneral` — the errors that a stage tells, and no stage tells another
  (`isGeneral_of_loadConfig`).
* `FileBreaks` — the ways in which a configuration file is not told of; `addFileAt_eq_fault_iff` finds
  them in the code.
* `LoadingBreaks` — hence the ways to fail without telling: at one of the files, or at options of the
  caller that are neither a table nor a list of pairs.

The main statement, `loadConfig_outcome`, has all ends of loading. The ways to fail without telling
are there: `loadConfig_breaks` has inputs for them.
-/

namespace SignalLint

/-! ### What is good to use -/

namespace LintConfig

/-- A size limit passes if it is the truth value true, or a number that is not zero or less. -/
theorem sizeProblem?_eq_none_iff {v : Value} :
    sizeProblem? v = none ↔
      v = .bool true ∨ (∃ n, 0 < n ∧ v = .int n) ∨ ∃ x, x.isNonpositive = false ∧ v = .float x := by
  cases v with
  | bool b => cases b <;> simp [sizeProblem?]
  | int n => simp [sizeProblem?]
  | float x => simp [sizeProblem?]
  | _ => simp [sizeProblem?]

theorem formatProblem?_eq_none_iff {v : Value} :
    formatProblem? v = none ↔ ∃ name ∈ formats, v = .text name := by
  cases v with
  | text s => simp [formatProblem?]
  | _ => simp [formatProblem?]

end LintConfig

/-! ### Errors that are told -/

/-- An error of no family but the widest, or one about the value of a setting. -/
def LintError.IsGeneral (e : LintError) : Prop :=
  e.family = .general ∨ e.family = .invalidSetting

section Told

variable {α : Type} {e : LintError} {f : Fault}

/-- A stage that tells its errors does so by the errors that it has. -/
theorem mapError_error_eq_error_iff {x : Except LintError α} :
    x.mapError Failure.error = .error (.error e) ↔ x = .error e := by
  rw [Except.mapError_eq_error_iff]
  constructor
  · rintro ⟨e', h, heq⟩
    cases heq
    exact h
  · intro h
    exact ⟨e, h, rfl⟩

theorem mapError_error_ne_fault {x : Except LintError α} :
    x.mapError Failure.error ≠ .error (.fault f) := by
  intro h
  obtain ⟨e, -, heq⟩ := Except.mapError_eq_error_iff.1 h
  cases heq

/-- A stage that breaks does so by the faults that it has. -/
theorem mapError_fault_eq_fault_iff {x : Except Fault α} :
    x.mapError Failure.fault = .error (.fault f) ↔ x = .error f := by
  rw [Except.mapError_eq_error_iff]
  constructor
  · rintro ⟨f', h, heq⟩
    cases heq
    exact h
  · intro h
    exact ⟨f, h, rfl⟩

theorem mapError_fault_ne_error {x : Except Fault α} :
    x.mapError Failure.fault ≠ .error (.error e) := by
  intro h
  obtain ⟨f, -, heq⟩ := Except.mapError_eq_error_iff.1 h
  cases heq

end Told

/-! ### Files -/

section Files

variable {store : Store} {file : ConfigFile} {path : FilePath} {g g' : GatheredSettings}
  {entries : List (String × Value)} {e : LintError} {f : Fault}

/-- **Why a file is not told of** that cannot be taken. It cannot be told whether it is there; it is
no text; it holds a number with too many digits to be read; or what it has as the table of the rule
is none, and has too many digits to be told. -/
inductive FileBreaks (store : Store) (path : FilePath) : Fault → Prop where
  | barred {r : Refusal} (h : store.find path = .error (.refused r)) :
      FileBreaks store path (.refused r path)
  | notText {content : Bytes} {ill : Utf8.IllFormed} (readable : store.read path = .ok content)
      (illFormed : Utf8.decode content = .error ill) : FileBreaks store path (.notText ill)
  | longNumber {content : Bytes} {text : String} {digits : Nat}
      (readable : store.read path = .ok content) (wellFormed : Utf8.decode content = .ok text)
      (long : Toml.read text = .error (.tooManyDigits digits)) :
      FileBreaks store path (.tooManyDigits (some digits))
  | longRule {entries : List (String × Value)} {v : Value}
      (read : readConfigFile store path = .ok entries)
      (rule : entries.find? (·.1 = "rule") = some ("rule", v)) (noTable : ∀ es, v ≠ .table es)
      (long : v.HoldsLong) : FileBreaks store path (.tooManyDigits none)

/-- A file cannot be read without being told exactly if it is no text or has too many digits. -/
theorem readConfigFile_eq_fault_iff :
    readConfigFile store path = .error (.fault f) ↔
      ∃ content, store.read path = .ok content ∧
        ((∃ ill, Utf8.decode content = .error ill ∧ f = .notText ill) ∨
          ∃ text digits, Utf8.decode content = .ok text ∧
            Toml.read text = .error (.tooManyDigits digits) ∧ f = .tooManyDigits (some digits)) := by
  unfold readConfigFile
  -- that a file cannot be opened is told; what breaks is its decoding or a number in it
  cases store.read path with
  | error p => exact iff_of_false nofun nofun
  | ok content =>
    simp only [Except.ok.injEq, exists_eq_left']
    cases Utf8.decode content with
    | error ill => simp [eq_comm]
    | ok text =>
      dsimp only
      cases hread : Toml.read text with
      | error problem => cases problem <;> simp [hread, eq_comm]
      | ok entries => simp [hread]

/-- All else that is wrong with a file is told as such. -/
theorem exists_of_readConfigFile_eq_error (h : readConfigFile store path = .error (.error e)) :
    ∃ reason, e = .configUnreadable path.text reason := by
  unfold readConfigFile at h
  -- not opened, no text, no document: the second breaks, the others are told
  split at h
  · cases h
    exact ⟨_, rfl⟩
  · split at h
    · cases h
    · split at h
      · cases h
        exact ⟨_, rfl⟩
      · cases h
      · cases h

/-- What is read of a file is taken, unless what stands under the key of the rule is no table. -/
theorem addFile_eq_error_iff {failure : Failure} :
    g.addFile entries = .error failure ↔
      ∃ v, entries.find? (·.1 = ruleTableKey) = some (ruleTableKey, v) ∧
        (∀ es, v ≠ .table es) ∧ failure = .misfit ruleTableKey v "expected a table" := by
  unfold GatheredSettings.addFile
  cases hfind : entries.find? (·.1 = ruleTableKey) with
  | none => exact iff_of_false nofun nofun
  | some found =>
    obtain ⟨key, v⟩ := found
    obtain rfl : key = ruleTableKey := by simpa using List.find?_some hfind
    simp only [Option.some.injEq, Prod.mk.injEq, true_and, exists_eq_left']
    -- only a table is taken, whatever is in it
    cases v with
    | table es => exact iff_of_false nofun fun h => h.1 es rfl
    | _ => exact ⟨fun h => ⟨nofun, (Except.error.inj h).symm⟩, fun h => h.2 ▸ rfl⟩

/-- **A file is not told of exactly if it breaks.** -/
theorem addFileAt_eq_fault_iff :
    g.addFileAt store file = .error (.fault f) ↔ FileBreaks store file.path f := by
  constructor
  · intro h
    -- barred, there, or missing; a missing file breaks nothing
    unfold GatheredSettings.addFileAt at h
    split at h
    · rename_i hprobe
      obtain rfl := Failure.fault.inj (Except.error.inj h)
      exact .barred (Store.probe_eq_error_iff.1 hprobe)
    · rcases Except.bind_eq_error_iff.1 h with h | ⟨entries, hread, h⟩
      · obtain ⟨content, hcontent, h⟩ := readConfigFile_eq_fault_iff.1 h
        rcases h with ⟨ill, hdecode, rfl⟩ | ⟨text, digits, hdecode, hlong, rfl⟩
        · exact .notText hcontent hdecode
        · exact .longNumber hcontent hdecode hlong
      · obtain ⟨v, hrule, hnoTable, hmisfit⟩ := addFile_eq_error_iff.1 h
        obtain ⟨hlong, rfl⟩ := Failure.misfit_eq_fault_iff.1 hmisfit.symm
        exact .longRule hread hrule hnoTable hlong
    · split at h <;> cases h
  · intro h
    unfold GatheredSettings.addFileAt
    cases h with
    | barred hfind => rw [Store.probe_eq_error_iff.2 hfind]
    | notText hcontent hdecode =>
      rw [Store.probe_of_read hcontent]
      exact Except.bind_eq_error_iff.2 (.inl (readConfigFile_eq_fault_iff.2
        ⟨_, hcontent, .inl ⟨_, hdecode, rfl⟩⟩))
    | longNumber hcontent hdecode hlong =>
      rw [Store.probe_of_read hcontent]
      exact Except.bind_eq_error_iff.2 (.inl (readConfigFile_eq_fault_iff.2
        ⟨_, hcontent, .inr ⟨_, _, hdecode, hlong, rfl⟩⟩))
    | longRule hread hrule hnoTable hlong =>
      rw [probe_of_readConfigFile hread]
      exact Except.bind_eq_error_iff.2 (.inr ⟨_, hread, addFile_eq_error_iff.2
        ⟨_, hrule, hnoTable, (Failure.misfit_eq_fault_iff.2 ⟨hlong, rfl⟩).symm⟩⟩)

theorem isGeneral_of_addFileAt (h : g.addFileAt store file = .error (.error e)) :
    e.IsGeneral := by
  unfold GatheredSettings.addFileAt at h
  -- of the two ends that are told one is about reading and one about the table of the rule
  split at h
  · cases h
  · rcases Except.bind_eq_error_iff.1 h with h | ⟨entries, -, h⟩
    · obtain ⟨reason, rfl⟩ := exists_of_readConfigFile_eq_error h
      exact Or.inl rfl
    · obtain ⟨v, -, -, hmisfit⟩ := addFile_eq_error_iff.1 h
      obtain ⟨-, rfl⟩ := Failure.misfit_eq_error_iff.1 hmisfit.symm
      exact Or.inr rfl
  · split at h
    · cases h
      exact Or.inl rfl
    · cases h

end Files

/-! ### What follows the files -/

section Complete

variable {environment : Environment} {overrides : Table String Value} {g : GatheredSettings}
  {e : LintError} {f : Fault}

theorem isGeneral_of_readVariables (h : readVariables environment = .error e) : e.IsGeneral := by
  rw [readVariables, Except.bind_eq_error_iff] at h
  rcases h with h | ⟨found, -, h⟩
  · -- the text of some variable is not one that its setting takes
    obtain ⟨setting, -, h⟩ := Except.exists_of_mapM_eq_error h
    rcases Except.bind_eq_error_iff.1 h with h | ⟨value, -, h⟩
    · unfold Setting.fromEnvironment at h
      split at h
      · cases h
      · obtain ⟨reason, -, rfl⟩ := Except.mapError_eq_error_iff.1 h
        exact Or.inl rfl
    · cases h
  · cases h

theorem isGeneral_of_complete (h : g.complete environment overrides = .error (.error e)) :
    e.IsGeneral := by
  -- the caller only breaks; the environment and the making of the settings only tell
  rcases Except.bind_eq_error_iff.1 h with h | ⟨found, -, h⟩
  · exact isGeneral_of_readVariables (mapError_error_eq_error_iff.1 h)
  rcases Except.bind_eq_error_iff.1 h with h | ⟨g', -, h⟩
  · exact absurd h mapError_fault_ne_error
  · obtain ⟨problem, -, rfl⟩ :=
      Except.mapError_eq_error_iff.1 (mapError_error_eq_error_iff.1 h)
    exact Or.inl rfl

/-- Once the files have been read, only options of the caller are not told of. -/
theorem complete_eq_fault_iff :
    g.complete environment overrides = .error (.fault f) ↔
      (∃ found, readVariables environment = .ok found) ∧
        ∃ v, overrides.get? Setting.ruleOptions.key = some v ∧ (∀ given, ¬ OptionsGiven v given) ∧
          entriesOf v = .error f := by
  constructor
  · intro h
    rcases Except.bind_eq_error_iff.1 h with h | ⟨found, hfound, h⟩
    · exact absurd h mapError_error_ne_fault
    rcases Except.bind_eq_error_iff.1 h with h | ⟨g', -, h⟩
    · exact ⟨⟨found, Except.mapError_eq_ok_iff.1 hfound⟩,
        GatheredSettings.addOverrides_eq_error_iff.1 (mapError_fault_eq_fault_iff.1 h)⟩
    · exact absurd h mapError_error_ne_fault
  · rintro ⟨⟨found, hfound⟩, hoptions⟩
    have hbreaks : ((g.addVariables found).addOverrides overrides).mapError Failure.fault =
        .error (.fault f) :=
      mapError_fault_eq_fault_iff.2 (GatheredSettings.addOverrides_eq_error_iff.2 hoptions)
    refine Except.bind_eq_error_iff.2 (.inr ⟨found, ?_, Except.bind_eq_error_iff.2 (.inl hbreaks)⟩)
    exact Except.mapError_eq_ok_iff.2 hfound

end Complete

/-! ### How loading ends -/

/-- **The ways to fail without telling.** One of the files breaks, and all before it were taken or
are not there; or all files were taken, and the environment too, and the options that the caller gives
are none. -/
inductive LoadingBreaks (store : Store) (environment : Environment) (named : Option FilePath)
    (overrides : Table String Value) : Fault → Prop where
  | file {before after : List ConfigFile} {file : ConfigFile} {g : GatheredSettings} {f : Fault}
      (files : configFiles store named = before ++ file :: after)
      (taken : before.foldlM (GatheredSettings.addFileAt store) {} = .ok g)
      (breaks : FileBreaks store file.path f) : LoadingBreaks store environment named overrides f
  | noOptions {g : GatheredSettings} {found : List (String × Value)} {v : Value} {f : Fault}
      (taken : (configFiles store named).foldlM (GatheredSettings.addFileAt store) {} = .ok g)
      (environmentRead : readVariables environment = .ok found)
      (options : overrides.get? Setting.ruleOptions.key = some v)
      (noOptions : ∀ given, ¬ OptionsGiven v given) (told : entriesOf v = .error f) :
      LoadingBreaks store environment named overrides f

section Outcome

variable {store : Store} {environment : Environment} {named : Option FilePath}
  {overrides : Table String Value}

theorem isGeneral_of_loadConfig {e : LintError}
    (h : loadConfig store environment named overrides = .error (.error e)) : e.IsGeneral := by
  rcases Except.bind_eq_error_iff.1 h with h | ⟨g, -, h⟩
  · obtain ⟨g, file, -, h⟩ := Except.exists_of_foldlM_eq_error h
    exact isGeneral_of_addFileAt h
  · exact isGeneral_of_complete h

theorem loadConfig_eq_fault_iff {f : Fault} :
    loadConfig store environment named overrides = .error (.fault f) ↔
      LoadingBreaks store environment named overrides f := by
  -- what breaks is a file or, once all files are taken, what follows them
  refine Except.bind_eq_error_iff.trans ?_
  constructor
  · rintro (h | ⟨g, hfiles, h⟩)
    · obtain ⟨before, file, after, g, heq, hbefore, h⟩ := Except.foldlM_eq_error_iff.1 h
      exact .file heq hbefore (addFileAt_eq_fault_iff.1 h)
    · obtain ⟨⟨found, hfound⟩, v, hget, hnone, hentries⟩ := complete_eq_fault_iff.1 h
      exact .noOptions hfiles hfound hget hnone hentries
  · intro h
    cases h with
    | file heq hbefore hbreaks =>
      exact .inl (Except.foldlM_eq_error_iff.2
        ⟨_, _, _, _, heq, hbefore, addFileAt_eq_fault_iff.2 hbreaks⟩)
    | noOptions hfiles hfound hget hnone hentries =>
      exact .inr ⟨_, hfiles, complete_eq_fault_iff.2 ⟨⟨_, hfound⟩, _, hget, hnone, hentries⟩⟩

end Outcome

/-- **How loading ends**, for any files, any environment, and anything that the caller gives.

Settings that are loaded have a size limit that is not zero or less and an output format that there
is. An error that is told is a general one, or says that the value of a setting does not fit. Without
being told loading fails exactly at a configuration file that breaks, and for options of the caller
that are neither a table nor a list of pairs. -/
theorem loadConfig_outcome (store : Store) (environment : Environment) (named : Option FilePath)
    (overrides : Table String Value) :
    (∀ c, loadConfig store environment named overrides = .ok c →
      (c.maxFileSize = .bool true ∨ (∃ n, 0 < n ∧ c.maxFileSize = .int n) ∨
        ∃ x, x.isNonpositive = false ∧ c.maxFileSize = .float x) ∧
      ∃ name ∈ ["rich", "json", "github"], c.outputFormat = .text name) ∧
    (∀ e, loadConfig store environment named overrides = .error (.error e) → e.IsGeneral) ∧
    ∀ f, loadConfig store environment named overrides = .error (.fault f) ↔
      LoadingBreaks store environment named overrides f := by
  refine ⟨fun c h => ?_, fun e => isGeneral_of_loadConfig, fun f => loadConfig_eq_fault_iff⟩
  have haccepted : c.Accepted := accepted_of_loadConfig h
  exact ⟨LintConfig.sizeProblem?_eq_none_iff.1 haccepted.size,
    LintConfig.formatProblem?_eq_none_iff.1 haccepted.format⟩

/-- In an empty store there are no configuration files to be added. -/
theorem GatheredSettings.foldlM_addFileAt_emptyStore :
    (configFiles {} none).foldlM (addFileAt {}) {} = .ok {} := by
  refine foldlM_addFileAt_of_missing (fun file hfile => ?_) {}
  have hcases : file ∈ [(⟨⟨"/", [".prefer-signals.toml"]⟩, false⟩ : ConfigFile),
    ⟨⟨"/", ["prefer-signals.toml"]⟩, false⟩] := hfile
  simp only [List.mem_cons, List.not_mem_nil, or_false] at hcases
  rcases hcases with rfl | rfl <;>
    exact ⟨Store.probe_of_find_missing (Store.find_of_missing rfl rfl (by decide) rfl), rfl⟩

/-- Loading fails without telling at a file of one byte that begins no character, at one in a
directory that is barred, and for options that are a number. -/
theorem loadConfig_breaks :
    let store : Store := { root := .directory [("prefer-signals.toml", .file [0xFF])] }
    let barred : Store := {
      root := .directory [("home", .directory [])]
      home := ["home"]
      barred := [(["home"], .denied)] }
    loadConfig store [] none .empty = .error (.fault (.notText ⟨.badStart, 0, 1, 0xFF⟩)) ∧
      loadConfig barred [] none .empty =
        .error (.fault (.refused .denied ⟨"/", ["home", ".prefer-signals.toml"]⟩)) ∧
      loadConfig {} [] none (.ofList [("rule_options", .int 5)]) =
        .error (.fault (.notIterable "int")) := by
  intro store barred
  refine ⟨loadConfig_eq_fault_iff.2 ?_, loadConfig_eq_fault_iff.2 ?_, loadConfig_eq_fault_iff.2 ?_⟩
  · let home : ConfigFile := ⟨⟨"/", [".prefer-signals.toml"]⟩, false⟩
    have hfiles : configFiles store none =
        [home] ++ ⟨⟨"/", ["prefer-signals.toml"]⟩, false⟩ :: [] := rfl
    have htaken : [home].foldlM (GatheredSettings.addFileAt store) {} = .ok {} := by
      have hmissing : store.probe home.path = .ok false :=
        Store.probe_of_find_missing (Store.find_of_missing rfl rfl (by decide) rfl)
      rw [List.foldlM_cons, GatheredSettings.addFileAt_of_missing hmissing rfl]
      rfl
    have hread : store.read ⟨"/", ["prefer-signals.toml"]⟩ = .ok [0xFF] :=
      Store.read_of_isDirect rfl rfl rfl
    have hdecode : Utf8.decode [0xFF] = .error ⟨.badStart, 0, 1, 0xFF⟩ := by decide +kernel
    exact .file hfiles htaken (.notText hread hdecode)
  · have hfiles : configFiles barred none = [] ++
        ⟨⟨"/", ["home", ".prefer-signals.toml"]⟩, false⟩ ::
          [⟨⟨"/", ["prefer-signals.toml"]⟩, false⟩] := rfl
    have hfind : barred.find ⟨"/", ["home", ".prefer-signals.toml"]⟩ =
        .error (.refused .denied) := by
      rw [Store.find, Store.locate, Store.resolve,
        Store.follow_cons_of_at? (n := .directory []) rfl (by decide) rfl (fun _ h => by cases h),
        Store.follow]
      rfl
    exact .file hfiles rfl (.barred hfind)
  · -- where there are no files, the options of the caller are reached
    have htaken := GatheredSettings.foldlM_addFileAt_emptyStore
    exact .noOptions htaken rfl rfl (fun _ hgiven => by cases hgiven) rfl

end SignalLint
