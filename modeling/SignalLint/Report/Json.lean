import SignalLint.Lint.Run
import SignalLint.Value.Json

/-!
# Reports as JSON

A report is a list with one entry for each file, whether it has diagnostics or not.
-/

namespace SignalLint

/-- A suggestion as a table. -/
def Suggestion.toValue (s : Suggestion) : Value :=
  .table
    [("messageId", .text s.messageId), ("message", .text s.message),
      ("offset", .int s.edit.offset), ("text", .text s.edit.text)]

/-- A diagnostic as a table. -/
def Diagnostic.toValue (d : Diagnostic) : Value :=
  .table
    [("rule", .text d.rule), ("messageId", .text d.messageId), ("message", .text d.message),
      ("path", .text d.path), ("line", .int d.span.startLine),
      ("column", .int d.span.startColumn), ("endLine", .int d.span.endLine),
      ("endColumn", .int d.span.endColumn), ("data", .table d.data),
      ("suggestions", .list (d.suggestions.map Suggestion.toValue))]

/-- What came of linting a file as a table. -/
def FileReport.toValue (r : FileReport) : Value :=
  .table
    [("path", .text r.path), ("diagnostics", .list (r.diagnostics.map Diagnostic.toValue)),
      ("suggestionsApplied", .int r.applied)]

/-- The report as JSON. -/
def LintReport.json (r : LintReport) : String :=
  (Value.list (r.files.map FileReport.toValue)).jsonLines 0

end SignalLint
