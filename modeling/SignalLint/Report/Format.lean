import SignalLint.Report.Annotation
import SignalLint.Report.Json
import SignalLint.Report.Screen

/-!
# Report formats

The forms in which a report can be had, by their names. A report for a terminal is only printed;
the others are texts that can also be kept.
-/

namespace SignalLint

/-- The form of a report. -/
inductive ReportFormat where
  | screen
  | json
  | commands
  deriving DecidableEq, Repr, Inhabited

namespace ReportFormat

/-- All forms. -/
def all : List ReportFormat := [screen, json, commands]

/-- The name of a form. -/
def name : ReportFormat → String
  | screen => "rich"
  | json => "json"
  | commands => "github"

/-- The form with a name. -/
def ofName (name : Value) : Except Fault ReportFormat :=
  match all.find? fun f => Value.same (.text f.name) name with
  | some f => .ok f
  | none => .error (.unknownFormatter name)

/-- The text of a report. -/
def text (f : ReportFormat) (r : LintReport) : String :=
  match f with
  | screen => ""
  | json => r.json
  | commands => r.commands

/-- What is printed of a report: its text and a line end, or what a console shows of it. A report
without any command prints nothing. -/
def print (f : ReportFormat) (console : Console) (r : LintReport) : Printout :=
  match f with
  | screen => r.screen console
  | json => { text := r.json ++ "\n" }
  | commands => if r.diagnostics.isEmpty then {} else { text := r.commands ++ "\n" }

end ReportFormat

end SignalLint
