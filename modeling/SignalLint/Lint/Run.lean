import SignalLint.Diagnostic.Edit
import SignalLint.Lint.Discovery
import SignalLint.Lint.Source
import SignalLint.Settings.Load

/-!
# Linting files

`Linter.lintFile` lints one file and, on request, writes the suggested edits back to it.
`Linter.lintPaths` finds the files below some paths and lints one after the other: a file that
cannot be read is left out, any other failure ends the run. What a run did to the files before it
ended stays done, so a run has a store as its result even when it fails.
-/

namespace SignalLint

/-- What came of linting a file. -/
structure FileReport where
  path : String
  diagnostics : List Diagnostic := []
  /-- How many edits were written back. -/
  applied : Nat := 0
  deriving Repr, Inhabited

/-- What came of linting files. -/
structure LintReport where
  files : List FileReport := []
  deriving Repr, Inhabited

namespace LintReport

/-- The diagnostics of all files. -/
def diagnostics (r : LintReport) : List Diagnostic := r.files.flatMap (·.diagnostics)

/-- How many files have diagnostics. -/
def filesWithDiagnostics (r : LintReport) : Nat :=
  (r.files.filter fun f => !f.diagnostics.isEmpty).length

/-- How many edits were written back. -/
def applied (r : LintReport) : Nat := r.files.foldl (fun n f => n + f.applied) 0

/-- How often each message was reported, in the order of the first reports. -/
def counts (r : LintReport) : Table String Nat :=
  r.diagnostics.foldl (fun t d => t.insert d.messageId ((t.get? d.messageId).getD 0 + 1)) {}

end LintReport

/-- What came of a run: a result or a failure, the files as they are afterwards, and what was said
on the way. -/
structure Outcome (α : Type) where
  result : Except Failure α
  store : Store
  log : Log := []

namespace Outcome

variable {α β : Type}

/-- Goes on with a result. -/
def andThen (o : Outcome α) (f : α → Store → Outcome β) : Outcome β :=
  match o.result with
  | .error e => ⟨.error e, o.store, o.log⟩
  | .ok a =>
    let next := f a o.store
    { next with log := o.log ++ next.log }

theorem result_andThen (o : Outcome α) (f : α → Store → Outcome β) :
    (o.andThen f).result = o.result.bind fun a => (f a o.store).result := by
  unfold andThen
  cases o.result <;> rfl

theorem store_andThen_of_ok {o : Outcome α} {a : α} (h : o.result = .ok a)
    (f : α → Store → Outcome β) : (o.andThen f).store = (f a o.store).store := by
  rw [andThen, h]

theorem store_andThen_of_error {o : Outcome α} {e : Failure} (h : o.result = .error e)
    (f : α → Store → Outcome β) : (o.andThen f).store = o.store := by
  rw [andThen, h]

end Outcome

/-- The text of a file. -/
def readSource (store : Store) (path : FilePath) : Except LintError String :=
  match store.read path with
  | .error e => .error (.fileAccess path.text (e.message path))
  | .ok content => (Utf8.decode content).mapError fun e => .fileAccess path.text e.message

namespace Linter

/-- Writes the suggested edits back to a file, if there are any. -/
def writeBack (store : Store) (path : FilePath) (content : String)
    (diagnostics : List Diagnostic) : Outcome FileReport :=
  let (fixed, count) := applySuggestions (Utf8.encode content) diagnostics
  if count = 0 then ⟨.ok ⟨path.text, diagnostics, 0⟩, store, []⟩
  else
    match store.write path fixed with
    | .error e => ⟨.error (.error (.fileAccess path.text (e.message path))), store, []⟩
    | .ok store =>
      ⟨.ok ⟨path.text, diagnostics, count⟩, store,
        [⟨.info, .linter, Log.about path.text s!"applied {count} suggestion(s)"⟩]⟩

/-- Lints a file. -/
def lintFile (l : Linter) (apply : Bool) (path : FilePath) (store : Store) : Outcome FileReport :=
  match readSource store path with
  | .error e => ⟨.error (.error e), store, []⟩
  | .ok content =>
    let (result, log) := l.lintSource content path.text
    Outcome.andThen ⟨result, store, log⟩ fun diagnostics store =>
      if apply then writeBack store path content diagnostics
      else ⟨.ok ⟨path.text, diagnostics, 0⟩, store, []⟩

/-- Lints files one after the other. -/
def lintFiles (l : Linter) (apply : Bool) : List FilePath → Store → Outcome (List FileReport)
  | [], store => ⟨.ok [], store, []⟩
  | path :: rest, store =>
    let first := l.lintFile apply path store
    match first.result with
    | .ok report =>
      first.andThen fun _ store =>
        (l.lintFiles apply rest store).andThen fun reports store =>
          ⟨.ok (report :: reports), store, []⟩
    | .error (.error e) =>
      if e.family = .fileAccess then
        let next := l.lintFiles apply rest first.store
        { next with log := first.log ++ ⟨.warning, .linter, e.message⟩ :: next.log }
      else ⟨.error (.error e), first.store, first.log⟩
    | .error e => ⟨.error e, first.store, first.log⟩

/-- Finds the files below some paths and lints them. -/
def lintPaths (l : Linter) (apply : Bool) (paths : List FilePath) (store : Store) :
    Outcome LintReport :=
  match discover l.config store paths with
  | .error (e, d) => ⟨.error e, store, d.log⟩
  | .ok d =>
    let start : Outcome Unit :=
      ⟨.ok (), store, d.log ++ [⟨.debug, .linter, s!"Linting {d.files.length} file(s)"⟩]⟩
    start.andThen fun _ store =>
      (l.lintFiles apply d.files store).andThen fun reports store => ⟨.ok ⟨reports⟩, store, []⟩

end Linter

/-- Lints with the settings that files, environment and caller give. -/
def lint (parser : Option Parser) (environment : Environment) (named : Option FilePath)
    (overrides : Table String Value) (apply : Bool) (paths : List FilePath) (store : Store) :
    Outcome LintReport :=
  match (loadConfig store environment named overrides).bind (Linter.make · parser) with
  | .error e => ⟨.error e, store, []⟩
  | .ok linter => linter.lintPaths apply paths store

end SignalLint
