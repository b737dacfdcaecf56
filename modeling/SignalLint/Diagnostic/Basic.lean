import SignalLint.Code.Span
import SignalLint.Text.Template

/-!
# Diagnostics

A diagnostic is one reported problem. It may carry suggestions: edits that a caller can choose to
make. A suggestion inserts text; nothing is ever deleted.
-/

namespace SignalLint

/-- Insert a text at a byte offset. Offsets of hand-made edits may be negative: they count from the
end. -/
structure TextEdit where
  offset : Int
  text : String
  deriving DecidableEq, Repr, Inhabited

/-- A fix on offer. -/
structure Suggestion where
  messageId : String
  edit : TextEdit
  message : String := ""
  deriving DecidableEq, Repr, Inhabited

/-- One reported problem. -/
structure Diagnostic where
  /-- The rule that reported it. -/
  rule : String
  messageId : String
  message : String
  path : String
  /-- Where the reported piece of source stands. -/
  span : Span
  /-- The values that went into the message. -/
  data : List (String × Value) := []
  suggestions : List Suggestion := []
  deriving Repr, Inhabited

/-- Message templates by message id. -/
abbrev Messages := List (String × String)

namespace Messages

/-- The template of a message. -/
def template? (messages : Messages) (id : String) : Option String :=
  (messages.find? (·.1 = id)).map (·.2)

end Messages

/-- A suggestion with its message filled in; an unknown message id stands for itself. -/
def Suggestion.render (messages : Messages) (s : Suggestion) : Suggestion :=
  { s with message := formatMessage ((messages.template? s.messageId).getD s.messageId) [] }

end SignalLint
