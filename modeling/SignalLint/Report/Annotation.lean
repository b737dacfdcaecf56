import SignalLint.Lint.Run

/-!
# Reports as annotations

A report as a list of workflow commands: one line for each diagnostic, which a build server shows
beside the source. Line ends in a message would end the command, so they are written as percent
escapes (`Annotation.escape`), and with them the percent sign itself.
-/

namespace SignalLint

namespace Annotation

/-- How one character stands in a message. -/
def escapeChar (c : Char) : List Char :=
  if c = '%' then ['%', '2', '5']
  else if c = '\r' then ['%', '0', 'D']
  else if c = '\n' then ['%', '0', 'A']
  else [c]

/-- A message without line ends. -/
def escape (s : String) : String := String.ofList (s.toList.flatMap escapeChar)

end Annotation

/-- The workflow command that shows a diagnostic. -/
def Diagnostic.command (d : Diagnostic) : String :=
  s!"::warning file={d.path},line={d.span.startLine},col={d.span.startColumn}," ++
    s!"title={d.rule}::{Annotation.escape d.message}"

/-- The report as workflow commands. -/
def LintReport.commands (r : LintReport) : String :=
  String.intercalate "\n" (r.diagnostics.map Diagnostic.command)

end SignalLint
