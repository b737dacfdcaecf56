import SignalLint.Lint.Run
import SignalLint.Report.Console

/-!
# Reports for a terminal

A report as a table for each file that has diagnostics, and a summary. Everything that is shown
goes through a `Console`, so printing can fail half-way; a `Printout` keeps what was printed before.
-/

namespace SignalLint

/-- What is printed, and why it ends there if it ends too early. -/
structure Printout where
  text : String := ""
  problem : Option ConsoleProblem := none
  deriving Repr, Inhabited

namespace Printout

/-- One printout after another; none after a problem. -/
def append (a b : Printout) : Printout :=
  match a.problem with
  | some _ => a
  | none => ⟨a.text ++ b.text, b.problem⟩

/-- Printouts in order. -/
def all (parts : List Printout) : Printout := parts.foldl append {}

/-- Lines, or what keeps them from being shown. -/
def ofLines : Except ConsoleProblem (List String) → Printout
  | .ok lines => { text := String.join (lines.map (· ++ "\n")) }
  | .error p => { problem := some p }

/-- A marked-up text. -/
def ofMarkup (console : Console) (s : String) : Printout := ofLines ((console.text s).map ([·]))

/-- A table. -/
def ofTable (console : Console) (t : BoxTable) : Printout := ofLines (console.table t)

/-- An empty line. -/
def emptyLine : Printout := ofLines (.ok [""])

end Printout

/-- The style of a message. -/
def messageStyle (messageId : String) : String :=
  match messageId with
  | "preferSignal" => "yellow"
  | "preferInputSignal" | "preferQuerySignal" => "cyan"
  | "preferReadonly" => "magenta"
  | _ => "white"

/-- The row of a diagnostic. -/
def Diagnostic.row (d : Diagnostic) : List String :=
  [s!"{d.span.startLine}:{d.span.startColumn}", styled (messageStyle d.messageId) d.messageId,
    d.message, if d.suggestions.isEmpty then "" else styled "green" "✓"]

/-- The table of a file. -/
def FileReport.table (r : FileReport) : BoxTable where
  title := r.path
  columns := [⟨"Line", .right⟩, ⟨"Check", .left⟩, ⟨"Message", .left⟩, ⟨"Fix", .center⟩]
  rows := r.diagnostics.map Diagnostic.row

namespace LintReport

/-- How often each message was reported, by message id. -/
def countsText (r : LintReport) : String :=
  commaList ((r.counts.entries.mergeSort fun a b => !(b.1 < a.1)).map fun (id, n) => s!"{n} {id}")

/-- The summary. -/
def summary (r : LintReport) : List String :=
  let total := r.diagnostics.length
  if total = 0 then
    [styled "green" "No problems found" ++ s!" in {r.files.length} file(s)."]
  else
    [styled "bold" s!"{total} problem(s)" ++
      s!" in {r.filesWithDiagnostics} of {r.files.length} file(s) ({r.countsText})"] ++
    (if r.applied = 0 then [] else [styled "green" s!"Applied {r.applied} suggestion(s)."])

/-- The report for a terminal. -/
def screen (console : Console) (r : LintReport) : Printout :=
  let reported := r.files.filter fun f => !f.diagnostics.isEmpty
  Printout.all
    (reported.flatMap (fun f => [.ofTable console f.table, .emptyLine]) ++
      r.summary.map (.ofMarkup console))

end LintReport

end SignalLint
