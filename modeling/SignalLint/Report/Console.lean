/-!
# Consoles

What a report or an error message looks like on a terminal is up to the console that shows it. A
`Console` is given texts that carry style tags between brackets (`[red]Error:[/red]`) and tables whose
cells are such texts. What is a tag, and which tags go together, is its own matter; it may refuse to
show something, and then says why.
-/

namespace SignalLint

/-- On which side of a cell its text stands. -/
inductive Alignment where
  | left
  | right
  | center
  deriving DecidableEq, Repr, Inhabited

/-- A column and its heading. -/
structure BoxColumn where
  heading : String
  alignment : Alignment := .left
  deriving Repr, Inhabited

/-- A table. Every row has a cell for each column. -/
structure BoxTable where
  title : String := ""
  columns : List BoxColumn
  rows : List (List String)
  deriving Repr, Inhabited

/-- A text between tags of a style. -/
def styled (style s : String) : String := s!"[{style}]{s}[/{style}]"

/-- Why a console does not show something. -/
structure ConsoleProblem where
  message : String
  deriving DecidableEq, Repr, Inhabited

/-- What shows marked-up texts and tables. -/
structure Console where
  /-- The text that appears for a marked-up text. -/
  text : String → Except ConsoleProblem String
  /-- The lines that appear for a table. -/
  table : BoxTable → Except ConsoleProblem (List String)

end SignalLint
