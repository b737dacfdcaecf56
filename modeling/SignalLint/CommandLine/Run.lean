import SignalLint.CommandLine.Command
import SignalLint.Report.Format
import SignalLint.Report.Rules

/-!
# Running a command line

`Invocation.run` carries out what a command line asks for, over a store of files. Its exit code is 0
when nothing was found, 1 when something was, and 2 when the work could not be done. What goes wrong
where nobody looks for it ends the run on the spot (`Breakdown`).
-/

namespace SignalLint

/-- The version of the program. -/
def versionText : String := "0.1.0"

/-- What the program is called. -/
def programName : String := "prefer-signals"

/-- A command line with everything that its outcome depends on. -/
structure Invocation where
  words : List String
  /-- What results and errors are shown on. -/
  console : Console
  environment : Environment := []
  store : Store := {}
  parser : Option Parser := none
  /-- The time that records in a log file bear. -/
  time : String := ""

/-- What ends a run on the spot. -/
inductive Breakdown where
  | fault (f : Fault)
  /-- Something that cannot be shown. -/
  | console (problem : ConsoleProblem)
  /-- A log file that cannot be opened. -/
  | logFile (problem : FileProblem) (path : FilePath)
  deriving Repr, Inhabited

/-- The wording of a breakdown. -/
def Breakdown.message : Breakdown → String
  | fault f => f.message
  | console problem => problem.message
  | logFile problem path => problem.message path

/-- What a run prints. -/
inductive CommandOutput where
  | text (s : String)
  | usage
  deriving Repr, Inhabited

/-- What comes of a run. -/
structure CommandResult where
  exitCode : Nat := 0
  output : CommandOutput := .text ""
  /-- The error message, if there is one. -/
  errors : String := ""
  /-- The records that the user wants to hear. -/
  log : Log := []
  /-- The files afterwards. -/
  store : Store
  breakdown : Option Breakdown := none

namespace CommandResult

/-- A run that breaks down. -/
def broken (store : Store) (b : Breakdown) : CommandResult :=
  { exitCode := 1, store := store, breakdown := some b }

/-- A run that prints something and ends with a code. -/
def printed (store : Store) (exitCode : Nat) (p : Printout) : CommandResult :=
  match p.problem with
  | none => { exitCode := exitCode, output := .text p.text, store := store }
  | some problem => { broken store (.console problem) with output := .text p.text }

/-- How an error is told. -/
def errorLine (message : String) : String := styled "red" "Error:" ++ " " ++ message

/-- A run that is refused. -/
def refused (console : Console) (store : Store) (message : String) : CommandResult :=
  let p := Printout.ofMarkup console (errorLine message)
  match p.problem with
  | none => { exitCode := refusalCode, errors := p.text, store := store }
  | some problem => broken store (.console problem)

/-- A run that fails: errors, and values that do not fit, are told; other faults break it down. -/
def failed (console : Console) (store : Store) (e : Failure) : CommandResult :=
  match e with
  | .error e => refused console store e.message
  | .fault f =>
    match f.kind with
    | .value | .encoding => refused console store f.message
    | .type | .overflow | .attribute | .access => broken store (.fault f)

end CommandResult

namespace LintRequest

/-- How records are kept. -/
def logSetup (r : LintRequest) : LogSetup where
  level := .ofFlags r.verbose r.quiet
  file := r.logFile.map FilePath.text

/-- Lints over a store. -/
def lint (r : LintRequest) (i : Invocation) (store : Store) : Outcome (ReportFormat × LintReport) :=
  let settings : Except Failure (ReportFormat × Linter) := do
    let config ← loadConfig store i.environment r.config r.overrides
    let format ← (ReportFormat.ofName config.outputFormat).mapError .fault
    return (format, ← Linter.make config i.parser)
  Outcome.andThen ⟨settings, store, []⟩ fun (format, linter) store =>
    (linter.lintPaths r.applySuggestions r.places store).andThen fun report store =>
      ⟨.ok (format, report), store, []⟩

/-- Adds records to the log file, if there is one. The file is made even without any. -/
def keepRecords (r : LintRequest) (time : String) (log : Log) (store : Store) :
    Except Breakdown Store :=
  match r.logFile with
  | none => .ok store
  | some path =>
    let place := store.absolute path
    let lines := String.join (log.map (·.line time))
    (store.append place (Utf8.encode lines)).mapError fun problem => .logFile problem place

/-- Carries out the request. -/
def run (r : LintRequest) (i : Invocation) : CommandResult :=
  match r.keepRecords i.time [] i.store with
  | .error b => .broken i.store b
  | .ok store =>
    let outcome := r.lint i store
    let log := outcome.log.atLeast r.logSetup.level
    let result : CommandResult :=
      match outcome.result with
      | .error e => .failed i.console outcome.store e
      | .ok (format, report) =>
        .printed outcome.store (if report.diagnostics.isEmpty then 0 else 1)
          (format.print i.console report)
    match r.keepRecords i.time log outcome.store with
    | .error b => .broken outcome.store b
    | .ok store => { result with log := log, store := store }

end LintRequest

/-- Carries out what a command line asks for. -/
def Invocation.run (i : Invocation) : CommandResult :=
  match Command.read i.store i.words with
  | .usage exitCode => { exitCode := exitCode, output := .usage, store := i.store }
  | .version => { output := .text s!"{programName} {versionText}\n", store := i.store }
  | .rules true => { output := .text (rulesJson ++ "\n"), store := i.store }
  | .rules false => .printed i.store 0 (rulesScreen i.console)
  | .lint request => request.run i

end SignalLint
