import SignalLint.CommandLine.Run
import SignalLint.Proofs.Lint.Discovery
import SignalLint.Proofs.Lint.Files
import SignalLint.Proofs.Report.Markup
import SignalLint.Proofs.Settings.Loading
import SignalLint.Proofs.Value.Equality

/-!
# What the exit code of a lint run tells

A lint run goes through many stages, each of which can fail in its own way, and its exit code is
meant to be 2 whatever keeps it from being completed. `exitCode_run` says what it tells in fact: 0
and 1 are right for every run that is completed, and a run that fails has exit code 2 unless it
breaks down (`LintRequest.BreaksDown`), which cannot be told from a run that found something.

What the results are shown on is any console at all that shows styled texts (`Console.ShowsStyles`).

* `LintRequest.exists_keepRecords` — a log file that can be opened can be closed, since linting
  leaves files files; so the log makes no difference later on.
* `LintRequest.cases_of_result_eq_error` — a run that fails does so while it loads the settings or
  searches for files, or for an option that does not fit, or with an error that is told: accepted
  settings leave the later stages nothing to stumble over.
* `ReportFormat.problem_print`, `CommandResult.exitCode_refused` — what is shown at the end cannot
  turn a clean run into a breakdown, but the message of a failure can.
* `breaksDown_iff` — hence the breakdowns among the failures.
-/

namespace SignalLint

/-! ### Printing -/

namespace CommandResult

variable {console : Console}

theorem problem_ofMarkup_eq_none_iff {s : String} :
    (Printout.ofMarkup console s).problem = none ↔ console.Shows s := by
  unfold Printout.ofMarkup Console.Shows
  cases console.text s <;> simp [Except.map, Printout.ofLines]

/-- A refusal is told if its message can be shown. -/
theorem exitCode_refused (store : Store) (message : String) :
    (refused console store message).exitCode =
      if console.Shows (errorLine message) then 2 else 1 := by
  unfold refused
  dsimp only
  by_cases h : console.Shows (errorLine message)
  · rw [if_pos h, problem_ofMarkup_eq_none_iff.2 h]
    rfl
  · rw [if_neg h]
    split
    · rename_i hnone
      exact absurd (problem_ofMarkup_eq_none_iff.1 hnone) h
    · rfl

theorem exitCode_printed (store : Store) (exitCode : Nat) (p : Printout) :
    (printed store exitCode p).exitCode = if p.problem.isNone then exitCode else 1 := by
  unfold printed
  cases p.problem <;> rfl

end CommandResult

/-- A report without diagnostics can be shown in every format. -/
theorem ReportFormat.problem_print {console : Console} (hconsole : console.ShowsStyles)
    {report : LintReport} (h : report.diagnostics = []) (format : ReportFormat) :
    (format.print console report).problem = none := by
  -- only the screen shows marked-up text, and without diagnostics it is the summary alone
  cases format with
  | json => rfl
  | commands =>
    rw [print, h]
    rfl
  | screen =>
    have hreported : (report.files.filter fun f => !f.diagnostics.isEmpty) = [] := by
      refine List.filter_eq_nil_iff.2 fun f hf => ?_
      simp [List.flatMap_eq_nil_iff.1 h f hf]
    have hsummary : report.summary = [styled "green" "No problems found" ++
        s!" in {report.files.length} file(s)."] := by
      rw [LintReport.summary, h]
      rfl
    -- a number of files is written in digits, which are no markup
    have hcount : Console.IsPlain s!" in {report.files.length} file(s)." := by
      have hdigits : Console.IsPlain (toString report.files.length) := by
        rw [Nat.toString_eq_repr, Console.IsPlain, Nat.toList_repr]
        intro c hc
        have hdigit := Nat.isDigit_of_mem_toDigits (by decide) (by decide) hc
        exact ⟨fun hbracket => absurd (hbracket ▸ hdigit) (by decide),
          fun hslash => absurd (hslash ▸ hdigit) (by decide)⟩
      intro c hc
      rw [String.toList_append, String.toList_append, List.mem_append, List.mem_append] at hc
      have hfront : Console.IsPlain " in " := by decide
      have hbehind : Console.IsPlain " file(s)." := by decide
      rcases hc with (hc | hc) | hc
      · exact hfront c hc
      · exact hdigits c hc
      · exact hbehind c hc
    have hshown := hconsole "green" (by decide) "No problems found" _ (by decide) hcount
    change (report.screen console).problem = none
    rw [LintReport.screen, hreported, hsummary]
    exact CommandResult.problem_ofMarkup_eq_none_iff.2 hshown

namespace LintRequest

variable {r : LintRequest} {i : Invocation} {store s₁ s₂ : Store}

/-! ### The log file -/

/-- A log file that could be opened can be added to as long as files stay files. -/
theorem exists_keepRecords {time : String} {log : Log}
    (hopen : r.keepRecords time log store = .ok s₁) (hkeeps : s₁.KeepsFiles s₂) (log' : Log) :
    ∃ s₃, r.keepRecords time log' s₂ = .ok s₃ := by
  unfold keepRecords at hopen ⊢
  cases hfile : r.logFile with
  | none => exact ⟨s₂, rfl⟩
  | some path =>
    rw [hfile] at hopen
    have happend := Except.mapError_eq_ok_iff.1 hopen
    -- opening has made the file, and its path is told as before it was there
    have habsolute : s₂.absolute path = store.absolute path :=
      (hkeeps.absolute path).trans (Store.absolute_append happend path)
    obtain ⟨s₃, h⟩ := Store.exists_append_of_append happend hkeeps
      (Utf8.encode (String.join (log'.map (·.line time))))
    exact ⟨s₃, Except.mapError_eq_ok_iff.2 (habsolute ▸ h)⟩

/-! ### How linting ends -/

/-- What a request overrides of the options of the rule is a table. -/
theorem exists_of_overrides_ruleOptions (r : LintRequest) :
    ∀ v ∈ r.overrides.get? Setting.ruleOptions.key, ∃ es, v = .table es := by
  intro v hv
  -- three groups of overrides, of which the last has the options of the rule as a table
  have hmem := Table.mem_of_get?_ofList hv
  rcases List.mem_append.1 hmem with hmem | hmem
  · rcases List.mem_append.1 hmem with hmem | hmem
    · obtain ⟨f, -, heq⟩ := List.mem_map.1 hmem
      have hkey : Setting.outputFormat.key = Setting.ruleOptions.key := congrArg Prod.fst heq
      exact absurd hkey (by decide)
    · split at hmem
      · have hkey : Setting.ruleOptions.key = Setting.typeInformation.key :=
          congrArg Prod.fst (List.mem_singleton.1 hmem)
        exact absurd hkey (by decide)
      · cases hmem
  · split at hmem
    · cases hmem
    · exact ⟨_, congrArg Prod.snd (List.mem_singleton.1 hmem)⟩

theorem keepsFiles_lintPaths (l : Linter) (apply : Bool) (paths : List FilePath) (s : Store) :
    s.KeepsFiles (l.lintPaths apply paths s).store := by
  cases hd : discover l.config s paths with
  | error p =>
    rw [Linter.lintPaths, hd]
    exact .refl s
  | ok d =>
    rw [(Linter.lintPaths_of_discover apply hd).2]
    exact l.keepsFiles_lintFiles apply d.files s

/-- A request is settled before anything is linted. -/
def prepare (r : LintRequest) (i : Invocation) (store : Store) :
    Except Failure (ReportFormat × Linter) := do
  let config ← loadConfig store i.environment r.config r.overrides
  let format ← (ReportFormat.ofName config.outputFormat).mapError .fault
  return (format, ← Linter.make config i.parser)

theorem lint_eq (r : LintRequest) (i : Invocation) (store : Store) :
    r.lint i store = Outcome.andThen ⟨r.prepare i store, store, []⟩ fun p store =>
      (p.2.lintPaths r.applySuggestions r.places store).andThen fun report store =>
        ⟨.ok (p.1, report), store, []⟩ := rfl

theorem lint_of_prepare_eq_ok {format : ReportFormat} {l : Linter}
    (h : r.prepare i store = .ok (format, l)) :
    (r.lint i store).result =
        (l.lintPaths r.applySuggestions r.places store).result.map ((format, ·)) ∧
      (r.lint i store).store = (l.lintPaths r.applySuggestions r.places store).store := by
  rw [lint_eq, Outcome.result_andThen, Outcome.store_andThen_of_ok h, h]
  refine ⟨Outcome.result_andThen _ _, ?_⟩
  cases hrun : (l.lintPaths r.applySuggestions r.places store).result with
  | error e => exact Outcome.store_andThen_of_error hrun _
  | ok report => exact Outcome.store_andThen_of_ok hrun _

theorem lint_of_prepare_eq_error {e : Failure} (h : r.prepare i store = .error e) :
    (r.lint i store).result = .error e ∧ (r.lint i store).store = store := by
  rw [lint_eq, Outcome.result_andThen, Outcome.store_andThen_of_error h, h]
  exact ⟨rfl, rfl⟩

theorem keepsFiles_lint (r : LintRequest) (i : Invocation) (s : Store) :
    s.KeepsFiles (r.lint i s).store := by
  cases h : r.prepare i s with
  | error e =>
    rw [(lint_of_prepare_eq_error h).2]
    exact .refl s
  | ok p =>
    rw [(lint_of_prepare_eq_ok h).2]
    exact keepsFiles_lintPaths p.2 r.applySuggestions r.places s

/-- A request that cannot be prepared has settings that cannot be loaded or options that do not
fit. -/
theorem cases_of_prepare_eq_error {e : Failure} (h : r.prepare i store = .error e) :
    loadConfig store i.environment r.config r.overrides = .error e ∨
      ∃ key v reason, e = .misfit key v reason := by
  rcases Except.bind_eq_error_iff.1 h with h | ⟨config, hload, h⟩
  · exact .inl h
  obtain ⟨format, hformat⟩ := (accepted_of_loadConfig hload).exists_ofName
  rw [hformat] at h
  rcases Except.bind_eq_error_iff.1 h with h | ⟨_, -, h⟩
  · cases h
  rcases Except.bind_eq_error_iff.1 h with h | ⟨_, -, h⟩
  · exact .inr (Linter.exists_of_make_eq_error h)
  · cases h

theorem loadConfig_of_prepare {format : ReportFormat} {l : Linter}
    (h : r.prepare i store = .ok (format, l)) :
    loadConfig store i.environment r.config r.overrides = .ok l.config := by
  obtain ⟨config, hload, h⟩ := Except.bind_eq_ok_iff.1 h
  obtain ⟨_, -, h⟩ := Except.bind_eq_ok_iff.1 h
  obtain ⟨l', hmake, h⟩ := Except.bind_eq_ok_iff.1 h
  cases h
  rw [hload, Linter.config_of_make hmake]

/-- **Why linting fails.** Loading fails, or an option does not fit, or the search for files fails;
what comes later fails with errors that are told. -/
theorem cases_of_result_eq_error {e : Failure} (h : (r.lint i store).result = .error e) :
    loadConfig store i.environment r.config r.overrides = .error e ∨
      (∃ key v reason, e = .misfit key v reason) ∨
      (∃ config, loadConfig store i.environment r.config r.overrides = .ok config ∧
        SearchFailure config store e) ∨
      ∃ err, e = .error err := by
  -- stage by stage: the settings are prepared, files are searched for, files are linted
  cases hprepare : r.prepare i store with
  | error e' =>
    rw [(lint_of_prepare_eq_error hprepare).1] at h
    cases h
    exact (cases_of_prepare_eq_error hprepare).imp_right .inl
  | ok p =>
    obtain ⟨format, l⟩ := p
    rw [(lint_of_prepare_eq_ok hprepare).1] at h
    refine .inr (.inr ?_)
    cases hd : discover l.config store r.places with
    | error q =>
      obtain ⟨e', d⟩ := q
      rw [Linter.lintPaths, hd] at h
      cases h
      exact .inl ⟨l.config, loadConfig_of_prepare hprepare, searchFailure_of_discover hd⟩
    | ok d =>
      rw [(Linter.lintPaths_of_discover r.applySuggestions hd).1] at h
      cases hfiles : (l.lintFiles r.applySuggestions d.files store).result with
      | ok reports =>
        rw [hfiles] at h
        cases h
      | error e' =>
        rw [hfiles] at h
        cases h
        exact .inr (l.exists_of_lintFiles_eq_error _ _ _ hfiles)

/-! ### How a run ends -/

/-- A lint run is completed with a report. The store is the one with the log file opened. -/
def Completes (r : LintRequest) (i : Invocation) (report : LintReport) : Prop :=
  ∃ store format, r.keepRecords i.time [] i.store = .ok store ∧
    (r.lint i store).result = .ok (format, report)

/-- A lint run fails. -/
def Fails (r : LintRequest) (i : Invocation) : Prop :=
  ∃ store e, r.keepRecords i.time [] i.store = .ok store ∧ (r.lint i store).result = .error e

/-- **Why a lint run breaks down** instead of being refused. -/
inductive BreaksDown (r : LintRequest) (i : Invocation) : Prop where
  /-- The log file cannot be opened. -/
  | logFile {b : Breakdown} (hopen : r.keepRecords i.time [] i.store = .error b)
  /-- The message of a failure cannot be shown. -/
  | message {store : Store} {e : Failure} (hopen : r.keepRecords i.time [] i.store = .ok store)
      (hfail : (r.lint i store).result = .error e)
      (hshown : ¬ i.console.Shows (CommandResult.errorLine e.message))
  /-- The way to a configuration file is barred. -/
  | barred {store : Store} {refusal : Refusal} {path : FilePath}
      (hopen : r.keepRecords i.time [] i.store = .ok store)
      (hload : LoadingBreaks store i.environment r.config r.overrides (.refused refusal path))
  /-- The search for files comes to a path to which the way is barred, or it comes to use exclude
  patterns that are no list of texts or a size limit that is infinite. -/
  | search {store : Store} {config : LintConfig} {f : Fault}
      (hopen : r.keepRecords i.time [] i.store = .ok store)
      (hfail : (r.lint i store).result = .error (.fault f))
      (hload : loadConfig store i.environment r.config r.overrides = .ok config)
      (hcause : SearchFailure config store (.fault f)) (hlimit : f ≠ .sizeIsNoNumber)

end LintRequest

/-- Whether a failure is told to the user. -/
def Failure.isTold : Failure → Bool
  | .error _ => true
  | .fault f => f.kind = .value || f.kind = .encoding

/-- Of a value that does not fit the user is told, be it that its text is too long. -/
theorem Failure.isTold_misfit (key : String) (v : Value) (reason : String) :
    (misfit key v reason).isTold = true := by
  unfold misfit
  split <;> rfl

namespace CommandResult

variable {console : Console} {e : Failure}

/-- A failure that is told refuses the run. -/
theorem failed_of_isTold (store : Store) (h : e.isTold = true) :
    failed console store e = refused console store e.message := by
  cases e with
  | error err => rfl
  | fault f =>
    have hkind : f.kind = .value ∨ f.kind = .encoding := by simpa [Failure.isTold] using h
    unfold failed
    rcases hkind with hkind | hkind <;> simp only [hkind] <;> rfl

/-- Any other failure breaks it down. -/
theorem exitCode_failed_of_not_isTold (store : Store) (h : e.isTold = false) :
    (failed console store e).exitCode = 1 := by
  cases e with
  | error err => cases h
  | fault f =>
    rw [Failure.isTold] at h
    unfold failed
    cases hkind : f.kind with
    | value | encoding =>
      rw [hkind] at h
      cases h
    | _ =>
      simp only [hkind]
      rfl

theorem exitCode_failed (store : Store) (e : Failure) : (failed console store e).exitCode =
    if e.isTold = true ∧ console.Shows (errorLine e.message) then 2 else 1 := by
  cases htold : e.isTold with
  | true =>
    rw [failed_of_isTold store htold, exitCode_refused]
    simp only [true_and]
  | false => rw [exitCode_failed_of_not_isTold store htold, if_neg fun h => nomatch h.1]

end CommandResult

/-- A search that does not fail for a path that is missing is not told of, except if the size limit
is no number. -/
theorem SearchFailure.isTold_fault {config : LintConfig} {store : Store} {f : Fault}
    (hconfig : config.Accepted) (h : SearchFailure config store (.fault f)) :
    (Failure.fault f).isTold = false ↔ f ≠ .sizeIsNoNumber := by
  cases h with
  | barred => simp [Failure.isTold, Fault.kind]
  | noPatterns h =>
    unfold Value.items at h
    split at h <;> cases h
    simp [Failure.isTold, Fault.kind]
  | noText => simp [Failure.isTold, Fault.kind]
  | noLimit h =>
    rcases hconfig.maxBytes_eq_error h with rfl | rfl <;> simp [Failure.isTold, Fault.kind]

section ExitCode

variable {r : LintRequest} {i : Invocation} {store : Store} {b : Breakdown} {e : Failure}

/-- A run whose settings cannot be loaded fails for that. -/
theorem result_of_loadConfig_eq_error
    (h : loadConfig store i.environment r.config r.overrides = .error e) :
    (r.lint i store).result = .error e :=
  (LintRequest.lint_of_prepare_eq_error (Except.bind_eq_error_iff.2 (.inl h))).1

/-- Among the failures, those that cannot be shown and those that are not told break a run down. -/
theorem breaksDown_iff (hopen : r.keepRecords i.time [] i.store = .ok store)
    (hfail : (r.lint i store).result = .error e) :
    r.BreaksDown i ↔
      ¬ i.console.Shows (CommandResult.errorLine e.message) ∨ e.isTold = false := by
  constructor
  · intro h
    cases h with
    | logFile hopen' => cases hopen.symm.trans hopen'
    | message hopen' hfail' hshown =>
      obtain rfl := Except.ok.inj (hopen.symm.trans hopen')
      obtain rfl := Except.error.inj (hfail.symm.trans hfail')
      exact .inl hshown
    | barred hopen' hload =>
      obtain rfl := Except.ok.inj (hopen.symm.trans hopen')
      have hresult := result_of_loadConfig_eq_error (loadConfig_eq_fault_iff.2 hload)
      obtain rfl := Except.error.inj (hfail.symm.trans hresult)
      exact .inr rfl
    | search hopen' hfail' hload hcause hlimit =>
      obtain rfl := Except.ok.inj (hopen.symm.trans hopen')
      obtain rfl := Except.error.inj (hfail.symm.trans hfail')
      exact .inr ((hcause.isTold_fault (accepted_of_loadConfig hload)).2 hlimit)
  · rintro (hshown | htold)
    · exact .message hopen hfail hshown
    cases e with
    | error err => cases htold
    | fault f =>
      rcases r.cases_of_result_eq_error hfail with
        hload | ⟨key, v, reason, hmisfit⟩ | ⟨config, hload, hsearch⟩ | ⟨err, herr⟩
      · cases loadConfig_eq_fault_iff.1 hload with
        | file hfiles hbefore hfile =>
          -- of all that can be wrong with a file, only that the way to it is barred is not told
          cases hfile with
          | barred hfind => exact .barred hopen (.file hfiles hbefore (.barred hfind))
          | notText | longNumber | longRule => cases htold
        | noOptions _ _ hget hnone _ =>
          obtain ⟨es, rfl⟩ := r.exists_of_overrides_ruleOptions _ hget
          exact absurd .table (hnone es)
      · rw [hmisfit, Failure.isTold_misfit] at htold
        cases htold
      · exact .search hopen hfail hload hsearch
          ((hsearch.isTold_fault (accepted_of_loadConfig hload)).1 htold)
      · cases herr

/-- Once the log file is open, linting decides whether a run is completed. -/
theorem completes_iff (hopen : r.keepRecords i.time [] i.store = .ok store) {report : LintReport} :
    r.Completes i report ↔ ∃ format, (r.lint i store).result = .ok (format, report) := by
  constructor
  · rintro ⟨store', format, hopen', hresult⟩
    obtain rfl := Except.ok.inj (hopen.symm.trans hopen')
    exact ⟨format, hresult⟩
  · rintro ⟨format, hresult⟩
    exact ⟨store, format, hopen, hresult⟩

theorem fails_iff (hopen : r.keepRecords i.time [] i.store = .ok store) :
    r.Fails i ↔ ∃ e, (r.lint i store).result = .error e := by
  constructor
  · rintro ⟨store', e, hopen', hresult⟩
    obtain rfl := Except.ok.inj (hopen.symm.trans hopen')
    exact ⟨e, hresult⟩
  · rintro ⟨e, hresult⟩
    exact ⟨store, e, hopen, hresult⟩

/-- A run that is completed does not break down. -/
theorem not_breaksDown_of_completes {report : LintReport} (h : r.Completes i report) :
    ¬ r.BreaksDown i := by
  obtain ⟨store, format, hopen, hresult⟩ := h
  have hfails : ¬ r.Fails i := by
    rw [fails_iff hopen, hresult]
    exact nofun
  intro hdown
  cases hdown with
  | logFile hopen' => cases hopen.symm.trans hopen'
  | message hopen' hfail => exact hfails ⟨_, _, hopen', hfail⟩
  | barred hopen' hload =>
    exact hfails ⟨_, _, hopen', result_of_loadConfig_eq_error (loadConfig_eq_fault_iff.2 hload)⟩
  | search hopen' hfail => exact hfails ⟨_, _, hopen', hfail⟩

theorem exitCode_run_of_keepRecords_eq_error (h : r.keepRecords i.time [] i.store = .error b) :
    (r.run i).exitCode = 1 := by
  rw [LintRequest.run, h]
  rfl

/-- If the log file can be opened, linting decides about the exit code. -/
theorem exitCode_run_of_keepRecords_eq_ok (hconsole : i.console.ShowsStyles)
    (h : r.keepRecords i.time [] i.store = .ok store) :
    (r.run i).exitCode = match (r.lint i store).result with
      | .ok (_, report) => if report.diagnostics.isEmpty then 0 else 1
      | .error e => (CommandResult.failed i.console store e).exitCode := by
  obtain ⟨s₃, hclose⟩ := LintRequest.exists_keepRecords h (r.keepsFiles_lint i store)
    ((r.lint i store).log.atLeast r.logSetup.level)
  rw [LintRequest.run, h]
  dsimp only
  rw [hclose]
  cases hresult : (r.lint i store).result with
  | error e =>
    -- closing the log has changed the store, which the exit code does not depend on
    change (CommandResult.failed _ _ e).exitCode = (CommandResult.failed _ _ e).exitCode
    rw [CommandResult.exitCode_failed, CommandResult.exitCode_failed]
  | ok p =>
    change (CommandResult.printed _ _ _).exitCode = if p.2.diagnostics.isEmpty then 0 else 1
    rw [CommandResult.exitCode_printed]
    cases hempty : p.2.diagnostics.isEmpty with
    | true => rw [p.1.problem_print hconsole (List.isEmpty_iff.1 hempty)]; rfl
    | false => exact ite_self _

end ExitCode

/-- **What the exit code of a lint run tells.** For every command line that asks for a lint run,
whatever the settings, the environment and the files are, and on whatever console styled texts are
shown: the exit code is 0 if and only if the run is completed and reports nothing; it is 1 if and only
if the run is completed and reports something, or breaks down; it is 2 if and only if the run fails
and does not break down. It breaks down at a log file that cannot be opened, at a failure whose
message the console does not show, at a path to which the way is barred, and at exclude patterns that
are no list of texts or a size limit that is infinite, if the search for files comes to use them. -/
theorem exitCode_run {i : Invocation} {r : LintRequest}
    (hread : Command.read i.store i.words = .lint r) (hconsole : i.console.ShowsStyles) :
    (i.run.exitCode = 0 ↔ ∃ report, r.Completes i report ∧ report.diagnostics = []) ∧
      (i.run.exitCode = 1 ↔
        (∃ report, r.Completes i report ∧ report.diagnostics ≠ []) ∨ r.BreaksDown i) ∧
      (i.run.exitCode = 2 ↔ r.Fails i ∧ ¬ r.BreaksDown i) := by
  have hrun : i.run = r.run i := by rw [Invocation.run, hread]
  rw [hrun]
  -- a log file that cannot be opened ends the run before anything is done
  cases hopen : r.keepRecords i.time [] i.store with
  | error b =>
    have hcompletes : ∀ report, ¬ r.Completes i report := fun report ⟨_, _, hopen', _⟩ =>
      nomatch hopen.symm.trans hopen'
    have hdown : r.BreaksDown i := .logFile hopen
    rw [exitCode_run_of_keepRecords_eq_error hopen]
    simp [hcompletes, hdown]
  | ok store =>
    rw [exitCode_run_of_keepRecords_eq_ok hconsole hopen]
    cases hresult : (r.lint i store).result with
    | error e =>
      have hcompletes : ∀ report, ¬ r.Completes i report := fun report h => by
        rw [completes_iff hopen, hresult] at h
        exact nomatch h
      have hfails : r.Fails i := (fails_iff hopen).2 ⟨e, hresult⟩
      dsimp only
      rw [CommandResult.exitCode_failed, breaksDown_iff hopen hresult]
      -- a failure that is told has exit code 2 only if its message is shown
      by_cases htold : e.isTold ∧ i.console.Shows (CommandResult.errorLine e.message)
      · simp [hcompletes, hfails, htold]
      · have hdown : ¬ i.console.Shows (CommandResult.errorLine e.message) ∨
            e.isTold = false := by
          rw [not_and_or, Bool.not_eq_true] at htold
          exact htold.symm
        simp [hcompletes, hdown, htold]
    | ok p =>
      obtain ⟨format, report⟩ := p
      have hcompletes : ∀ report', r.Completes i report' ↔ report' = report := fun report' => by
        rw [completes_iff hopen, hresult]
        simp [eq_comm]
      have hfails : ¬ r.Fails i := by
        rw [fails_iff hopen, hresult]
        exact nofun
      have hdown : ¬ r.BreaksDown i := not_breaksDown_of_completes ((hcompletes report).2 rfl)
      -- a run that is completed neither fails nor breaks down
      simp only [hcompletes, exists_eq_left, hfails, hdown, List.isEmpty_iff]
      by_cases hempty : report.diagnostics = [] <;> simp [hempty]

theorem exitCode_run_missingPath :
    let i : Invocation := { words := ["lint", "missing"], console := .unstyled }
    Command.read i.store i.words = .lint { paths := [⟨"", ["missing"]⟩] } ∧
      i.console.ShowsStyles ∧ i.run.exitCode = 2 := by
  intro i
  let r : LintRequest := { paths := [⟨"", ["missing"]⟩] }
  have hfind : i.store.find ⟨"", ["missing"]⟩ = .error .missing :=
    Store.find_of_missing rfl rfl (by decide) rfl
  have hread : Command.read i.store i.words = .lint r := by
    have hbarred : isBarredArgument i.store "missing" = false := by
      have hpath : FilePath.ofString "missing" = ⟨"", ["missing"]⟩ := by decide +kernel
      rw [isBarredArgument, hpath, hfind]
    have hgiven : Given.read lintForms true none ["missing"] = some ⟨[], ["missing"]⟩ := rfl
    change Command.readLint i.store ["missing"] = _
    simp only [Command.readLint, hgiven, List.any_cons, hbarred]
    rfl
  have hopen : r.keepRecords i.time [] i.store = .ok i.store := rfl
  -- neither of the two places has a configuration file
  have hload : loadConfig i.store i.environment r.config r.overrides = .ok {} := by
    have hfiles : (configFiles i.store r.config).foldlM (GatheredSettings.addFileAt i.store) {} =
        .ok {} := GatheredSettings.foldlM_addFileAt_emptyStore
    rw [loadConfig, hfiles]
    rfl
  have hprepare : r.prepare i i.store = .ok (.screen, ⟨{}, .default, none⟩) := by
    rw [LintRequest.prepare, hload]
    rfl
  have hfail : (r.lint i i.store).result =
      .error (.error (.invalidPath "missing" "does not exist")) := by
    have hdiscover : discover {} i.store r.places =
        .error (.error (.invalidPath "missing" "does not exist"), {}) := by
      have htext : FilePath.text ⟨"", ["missing"]⟩ = "missing" := by decide +kernel
      change discover {} i.store [⟨"", ["missing"]⟩] = _
      simp [discover, Discovery.visitPath, Store.probe_of_find_missing hfind, htext, Except.map]
    rw [(LintRequest.lint_of_prepare_eq_ok hprepare).1, Linter.lintPaths, hdiscover]
    rfl
  have hstyles : i.console.ShowsStyles := Console.showsStyles_unstyled
  -- the message is shown, so the run does not break down
  have hshown : ¬ r.BreaksDown i := by
    rw [breaksDown_iff hopen hfail, CommandResult.errorLine, String.append_assoc]
    exact not_or_intro (not_not.2 (hstyles "red" (by decide) _ _ (by decide) (by decide +kernel)))
      Bool.noConfusion
  exact ⟨hread, hstyles, (exitCode_run hread hstyles).2.2.2 ⟨⟨_, _, hopen, hfail⟩, hshown⟩⟩

/-- A run that the settings keep from being completed ends as if something had been found. -/
theorem exitCode_run_patternsNoList :
    let i : Invocation := {
      words := ["lint"]
      console := .unstyled
      store := {
        root := .directory [("a.ts", .file (Utf8.encode "export const x = 1;\n")),
          ("prefer-signals.toml", .file (Utf8.encode "exclude_patterns = 5\n"))] } }
    Command.read i.store i.words = .lint {} ∧ i.run.exitCode = 1 ∧
      ∀ report, ¬ LintRequest.Completes {} i report := by
  intro i
  let r : LintRequest := {}
  let config : LintConfig := { excludePatterns := .int 5 }
  have hread : Command.read i.store i.words = .lint r := rfl
  have hopen : r.keepRecords i.time [] i.store = .ok i.store := rfl
  have hload : loadConfig i.store i.environment r.config r.overrides = .ok config := by
    have hhome : i.store.probe ⟨"/", [".prefer-signals.toml"]⟩ = .ok false :=
      Store.probe_of_find_missing (Store.find_of_missing rfl rfl (by decide) rfl)
    have hfile : readConfigFile i.store ⟨"/", ["prefer-signals.toml"]⟩ =
        .ok [("exclude_patterns", .int 5)] :=
      readConfigFile_of_read "exclude_patterns = 5\n" (Store.read_of_isDirect rfl rfl rfl)
        (by decide +kernel) (by decide +kernel)
    have hfiles : configFiles i.store r.config =
        [⟨⟨"/", [".prefer-signals.toml"]⟩, false⟩, ⟨⟨"/", ["prefer-signals.toml"]⟩, false⟩] := rfl
    rw [loadConfig, hfiles, List.foldlM_cons, GatheredSettings.addFileAt_of_missing hhome rfl]
    simp only [List.foldlM_cons, GatheredSettings.addFileAt_of_read hfile]
    rfl
  have hprepare : r.prepare i i.store = .ok (.screen, ⟨config, .default, none⟩) := by
    rw [LintRequest.prepare, hload]
    rfl
  have hfail : (r.lint i i.store).result = .error (.fault (.notIterable "int")) := by
    have hfind : i.store.find .here = .ok i.store.root := Store.find_of_isDirect rfl rfl
    -- the walk finds both files; only one of them can be linted
    have hunder : i.store.filesUnder false .here =
        [⟨"", ["a.ts"]⟩, ⟨"", ["prefer-signals.toml"]⟩] := by
      have hlist : i.store.list .here = ["a.ts", "prefer-signals.toml"] := by
        rw [Store.list, Store.opened, Store.locate, Store.resolve_of_isDirect rfl]
        rfl
      have hfile : ∀ name ∈ i.store.list .here,
          i.store.isDirectory (FilePath.here.child name) = false := by
        rw [hlist, List.forall_mem_cons, List.forall_mem_singleton, Store.isDirectory,
          Store.isDirectory, Store.find_of_isDirect rfl rfl, Store.find_of_isDirect rfl rfl]
        exact ⟨rfl, rfl⟩
      rw [Store.filesUnder_of_forall_file hfile, hlist, sortedTexts,
        List.mergeSort_of_pairwise (by decide +kernel)]
      rfl
    have hfiles : (i.store.filesUnder config.followSymlinks.isTruthy .here).filter
        Discovery.hasLanguage = [⟨"", ["a.ts"]⟩] := by
      change (i.store.filesUnder false .here).filter _ = _
      rw [hunder]
      decide +kernel
    have hdiscover : discover config i.store r.places = .error (.fault (.notIterable "int"), {}) :=
      discover_of_items_eq_error (by rw [Store.probe, hfind]) (by rw [Store.isFile, hfind]) hfiles
        rfl
    rw [(LintRequest.lint_of_prepare_eq_ok hprepare).1, Linter.lintPaths, hdiscover]
    rfl
  refine ⟨hread, ?_, ?_⟩
  · rw [Invocation.run, hread]
    change (r.run i).exitCode = 1
    rw [exitCode_run_of_keepRecords_eq_ok Console.showsStyles_unstyled hopen, hfail]
    exact CommandResult.exitCode_failed_of_not_isTold _ rfl
  · intro report hcompletes
    rw [completes_iff hopen, hfail] at hcompletes
    obtain ⟨format, hresult⟩ := hcompletes
    cases hresult

end SignalLint
