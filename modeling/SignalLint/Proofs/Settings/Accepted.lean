import SignalLint.Lint.Source
import SignalLint.Proofs.Failing
import SignalLint.Proofs.Files.Write
import SignalLint.Report.Format
import SignalLint.Settings.Load

/-!
# Settings that are accepted

A setting is a value of any type until it is used, so a run could break down wherever a value is
used that does not fit. This module says which of the checks at the start of a run rule that out.

* `LooseOptions.exists_resolve` — options that fit the schema can be resolved.
* `LintConfig.Accepted` — what is known of the settings of a run; `ReportFormat.exists_ofName` and
  `LintConfig.maxBytes_eq_error` say what it is good for.
* `accepted_of_loadConfig` — loading gives such settings.
* `Linter.exists_of_make_eq_error` — a linter is refused for its options only.
-/

namespace SignalLint

/-! ### Options -/

namespace OptionName

theorem ofKey?_name (o : OptionName) : ofKey? o.name = some o := by
  cases o <;> decide

end OptionName

/-- Options are accepted if nothing is wrong with any. -/
theorem Schema.check_eq_ok_iff {schema : Schema} {entries : List (String × Value)} :
    schema.check (.table entries) = .ok () ↔ ∀ x ∈ entries, schema.objection? x.1 x.2 = none := by
  refine Except.forM_eq_ok_iff.trans (forall₂_congr fun x _ => ?_)
  dsimp only
  split <;> simp [*]

/-- Options are refused for a value that does not fit. -/
theorem Schema.exists_of_check_eq_error {schema : Schema} {given : Value} {e : Failure}
    (h : schema.check given = .error e) : ∃ key v reason, e = .misfit key v reason := by
  unfold Schema.check at h
  split at h
  · cases h
  · obtain ⟨_, ⟨key, v⟩, _, -, -, hfails⟩ := Except.forM_eq_error_iff.1 h
    dsimp only at hfails
    split at hfails
    · exact ⟨_, _, _, (Except.error.inj hfails).symm⟩
    · cases hfails
  · exact ⟨_, _, _, (Except.error.inj h).symm⟩

/-- The schema of the rule knows its options by their public names. -/
theorem exists_of_ruleSchema_objection?_eq_none {key : String} {v : Value}
    (h : ruleSchema.objection? key v = none) :
    ∃ o : OptionName, o.name = key ∧ o.type.objection? v = none := by
  unfold Schema.objection? at h
  -- a type under the key comes from an option of this name
  split at h
  · rename_i type htype
    unfold Schema.type? at htype
    rw [Option.join_eq_some_iff, Option.map_eq_some_iff] at htype
    obtain ⟨⟨name, type'⟩, hfind, htype⟩ := htype
    obtain ⟨o, -, ho⟩ := List.mem_map.1 (List.mem_of_find?_eq_some hfind)
    have hname : name = key := by simpa using List.find?_some hfind
    cases ho
    cases htype
    exact ⟨o, hname, h⟩
  · cases h

namespace Value

/-- Of a list of texts, a set has the distinct ones. -/
theorem asSet_of_all_isText {items : List Value} (h : items.all isText = true) :
    (list items).asSet = .ok (distinct items) := by
  -- texts can be members of a set, so none stands in the way
  have hhashable : items.find? (!·.isHashable) = none := by
    refine List.find?_eq_none.2 fun v hv => ?_
    have htext := List.all_eq_true.1 h v hv
    cases v <;> simp_all [isText, isHashable]
  have hitems : (list items).items = .ok items := rfl
  rw [asSet, hitems]
  simp only [bind, Except.bind, hhashable]
  rfl

end Value

namespace LooseOptions

theorem exists_set {o : LooseOptions} {name : OptionName} {v : Value}
    (h : name.type.objection? v = none) : ∃ o', o.set name v = .ok o' := by
  have hset : name.type = .array true → ∃ vs, v.asSet = .ok vs := by
    intro htype
    rw [htype] at h
    cases v with
    | list items =>
      refine ⟨_, Value.asSet_of_all_isText ?_⟩
      simpa [PropertyType.objection?] using h
    | _ => cases h
  -- flags take any value here; sets of names ask whether it is a list of texts
  cases name with
  | typesToReplace =>
    obtain ⟨vs, hvs⟩ := hset rfl
    exact ⟨_, by rw [set, hvs]; rfl⟩
  | signalCreationFunctions =>
    obtain ⟨vs, hvs⟩ := hset rfl
    exact ⟨_, by rw [set, hvs]; rfl⟩
  | _ => exact ⟨_, rfl⟩

/-- A table of options that there are is resolved as soon as they can be set. -/
theorem resolve_table {entries : List (String × Value)} {o : LooseOptions}
    (hknown : ∀ e ∈ entries, ∃ name : OptionName, name.name = e.1)
    (hset : default.setAll entries = .ok o) : resolve (.table entries) = .ok o := by
  have hnone : entries.find? (fun e => (OptionName.ofKey? e.1).isNone) = none := by
    refine List.find?_eq_none.2 fun e he => ?_
    obtain ⟨name, hname⟩ := hknown e he
    rw [← hname, OptionName.ofKey?_name]
    exact nofun
  unfold resolve
  split
  · -- nothing is read of a table without entries
    rename_i hempty
    obtain rfl : entries = [] := by simpa [Value.isTruthy] using hempty
    exact hset
  · simp only [hset, hnone]
    rfl

/-- **Options that fit the schema can be resolved.** -/
theorem exists_resolve {given : Value} (h : ruleSchema.check given = .ok ()) :
    ∃ o, resolve given = .ok o := by
  cases given with
  | table entries =>
    -- each entry was looked at by the schema, so it sets an option with a value of its type
    have hfits : ∀ e ∈ entries, ∃ o : OptionName, o.name = e.1 ∧ o.type.objection? e.2 = none :=
      fun e he => exists_of_ruleSchema_objection?_eq_none (Schema.check_eq_ok_iff.1 h e he)
    obtain ⟨options, hoptions⟩ : ∃ o, default.setAll entries = .ok o := by
      refine Except.exists_foldlM_eq_ok (fun o e he => ?_) default
      obtain ⟨name, hname, hfit⟩ := hfits e he
      rw [← hname, OptionName.ofKey?_name]
      exact exists_set hfit
    exact ⟨options, resolve_table (fun e he => (hfits e he).imp fun _ => And.left) hoptions⟩
  | null => exact ⟨_, rfl⟩
  | _ => cases h

end LooseOptions

/-! ### Settings -/

namespace LintConfig

/-- **What is known of the settings of a run**: the size limit is a positive number, and the output
format is one of those that there are. -/
structure Accepted (c : LintConfig) : Prop where
  size : sizeProblem? c.maxFileSize = none
  format : formatProblem? c.outputFormat = none

theorem accepted_of_ofTable {given : Table String Value} {c : LintConfig}
    (h : ofTable given = .ok c) : c.Accepted := by
  unfold ofTable at h
  dsimp only at h
  -- unknown settings, the size, the format: one check after the other
  split at h
  · cases h
  · split at h
    · cases h
    · rename_i hsize
      split at h
      · cases h
      · rename_i hformat
        obtain rfl := Except.ok.inj h
        exact ⟨hsize, hformat⟩

/-- Only a size limit that is infinite, or no number, has no bytes. -/
theorem Accepted.maxBytes_eq_error {c : LintConfig} {f : Fault} (h : c.Accepted)
    (hbytes : c.maxBytes = .error f) : f = .infiniteSize ∨ f = .sizeIsNoNumber := by
  have hsize := h.size
  unfold maxBytes at hbytes
  -- by the type of the size limit: a truth value, an integer, a number, or something else
  split at hbytes
  · cases hbytes
  · cases hbytes
  · split at hbytes
    · exact Or.inr (Except.error.inj hbytes).symm
    · exact Or.inl (Except.error.inj hbytes).symm
    · split at hbytes
      · cases hbytes
      · exact Or.inl (Except.error.inj hbytes).symm
  · -- a value of another type is no positive number
    unfold sizeProblem? at hsize
    split at hsize
    · exact absurd ‹_› (‹∀ b, c.maxFileSize = .bool b → False› _)
    · exact absurd ‹_› (‹∀ n, c.maxFileSize = .int n → False› _)
    · exact absurd ‹_› (‹∀ x, c.maxFileSize = .float x → False› _)
    · cases hsize

/-- Reports can be had in the format of the settings. -/
theorem Accepted.exists_ofName {c : LintConfig} (h : c.Accepted) :
    ∃ format, ReportFormat.ofName c.outputFormat = .ok format := by
  have hformat := h.format
  unfold formatProblem? at hformat
  split at hformat
  · rename_i s hs
    split at hformat
    · rename_i hknown
      rw [hs]
      simp only [formats, List.contains_cons, List.contains_nil, Bool.or_false, Bool.or_eq_true,
        beq_iff_eq] at hknown
      rcases hknown with rfl | rfl | rfl
      · exact ⟨.screen, rfl⟩
      · exact ⟨.json, rfl⟩
      · exact ⟨.commands, rfl⟩
    · cases hformat
  · cases hformat

end LintConfig

/-! ### Loading -/

/-- The entries of a document in a file. -/
theorem readConfigFile_of_read {store : Store} {path : FilePath} {content : Bytes} (text : String)
    {entries : List (String × Value)} (hread : store.read path = .ok content)
    (hdecode : Utf8.decode content = .ok text) (hentries : Toml.read text = .ok entries) :
    readConfigFile store path = .ok entries := by
  rw [readConfigFile, hread]
  simp only [hdecode, hentries]

/-- A configuration file that is read is there. -/
theorem probe_of_readConfigFile {store : Store} {path : FilePath} {entries : List (String × Value)}
    (h : readConfigFile store path = .ok entries) : store.probe path = .ok true := by
  unfold readConfigFile at h
  split at h
  · cases h
  · rename_i content hread
    exact Store.probe_of_read hread

/-- A file that is read adds its entries. -/
theorem GatheredSettings.addFileAt_of_read {store : Store} {path : FilePath} {required : Bool}
    {entries : List (String × Value)} (h : readConfigFile store path = .ok entries)
    (g : GatheredSettings) : g.addFileAt store ⟨path, required⟩ = g.addFile entries := by
  rw [addFileAt, probe_of_readConfigFile h, h]
  rfl

/-- A file that need not be there and is not changes nothing. -/
theorem GatheredSettings.addFileAt_of_missing {store : Store} {file : ConfigFile}
    (hprobe : store.probe file.path = .ok false) (hrequired : file.required = false)
    (g : GatheredSettings) : g.addFileAt store file = .ok g := by
  rw [addFileAt, hprobe, hrequired]
  rfl

theorem GatheredSettings.foldlM_addFileAt_of_missing {store : Store} {files : List ConfigFile}
    (h : ∀ file ∈ files, store.probe file.path = .ok false ∧ file.required = false)
    (g : GatheredSettings) : files.foldlM (addFileAt store) g = .ok g := by
  induction files with
  | nil => rfl
  | cons file files ih =>
    obtain ⟨⟨hprobe, hrequired⟩, hrest⟩ := List.forall_mem_cons.1 h
    rw [List.foldlM_cons, addFileAt_of_missing hprobe hrequired]
    exact ih hrest

/-- The settings that are loaded are accepted. -/
theorem accepted_of_loadConfig {store : Store} {environment : Environment}
    {named : Option FilePath} {overrides : Table String Value} {c : LintConfig}
    (h : loadConfig store environment named overrides = .ok c) : c.Accepted := by
  obtain ⟨g, -, h⟩ := Except.bind_eq_ok_iff.1 h
  obtain ⟨given, -, h⟩ := Except.bind_eq_ok_iff.1 h
  obtain ⟨g, -, h⟩ := Except.bind_eq_ok_iff.1 h
  exact LintConfig.accepted_of_ofTable
    (Except.mapError_eq_ok_iff.1 (Except.mapError_eq_ok_iff.1 h))

/-! ### Linters -/

namespace Linter

variable {config : LintConfig} {parser : Option Parser}

/-- A linter is refused for an option that does not fit. -/
theorem exists_of_make_eq_error {e : Failure} (h : make config parser = .error e) :
    ∃ key v reason, e = .misfit key v reason := by
  unfold make at h
  split at h
  · rename_i hcheck
    exact Except.error.inj h ▸ Schema.exists_of_check_eq_error hcheck
  · rename_i hcheck
    obtain ⟨options, hoptions⟩ := LooseOptions.exists_resolve hcheck
    rw [hoptions] at h
    cases h

theorem config_of_make {l : Linter} (h : make config parser = .ok l) : l.config = config := by
  unfold make at h
  split at h
  · cases h
  · split at h
    · cases h
    · rw [← Except.ok.inj h]

end Linter

end SignalLint
