import SignalLint.Diagnostic.Basic
import SignalLint.Lint.Log
import SignalLint.Rule.TypeServices

/-!
# One run of a rule over one unit

A check runs in `RunM`: it reads what the run is given (`RunContext`), and it changes the run's
state (`RunState`) by reporting diagnostics, acquiring type services and writing log records. A run
that fails keeps its state, so what was reported before stays known.
-/

namespace SignalLint

/-- What a run is given. -/
structure RunContext where
  ruleName : String
  messages : Messages
  unit : SourceUnit
  types : TypeSupply := .none
  deriving Repr, Inhabited

/-- What a run has done so far. -/
structure RunState where
  diagnostics : List Diagnostic := []
  /-- The type services, once a field has needed them. -/
  services : Option TypeServices := none
  /-- How often type services were built. -/
  acquired : Nat := 0
  log : Log := []
  deriving Repr, Inhabited

/-- Why a run fails. -/
inductive RunError where
  /-- A report names a message that the rule does not have. -/
  | unknownMessage (id : String)
  /-- A check needs type information and the run has none. -/
  | noTypeInformation (path rule : String)
  deriving DecidableEq, Repr, Inhabited

/-- A step of a run. -/
abbrev RunM := ReaderT RunContext (ExceptT RunError (StateM RunState))

namespace RunM

/-- Runs a step from a state. -/
def exec {α : Type} (step : RunM α) (context : RunContext) (state : RunState) :
    Except RunError α × RunState :=
  (step.run context).run.run state

/-- Writes a log record. -/
def log (level : LogLevel) (source : LogSource) (message : String) : RunM Unit :=
  modify fun s => { s with log := s.log ++ [⟨level, source, message⟩] }

/-- Reports a problem at a place. -/
def report (span : Span) (messageId : String) (data : List (String × Value) := [])
    (suggestions : List Suggestion := []) : RunM Diagnostic := do
  let context ← read
  match context.messages.template? messageId with
  | none => throw (.unknownMessage messageId)
  | some template =>
    let diagnostic : Diagnostic := {
      rule := context.ruleName
      messageId := messageId
      message := formatMessage template data
      path := context.unit.path
      span := span
      data := data
      suggestions := suggestions.map (Suggestion.render context.messages) }
    modify fun s => { s with diagnostics := s.diagnostics ++ [diagnostic] }
    return diagnostic

/-- Builds type services for the unit. -/
def buildServices : RunM TypeServices := do
  let context ← read
  match context.types.services? context.unit with
  | none => throw (.noTypeInformation context.unit.path context.ruleName)
  | some services =>
    log .debug .ruleContext (Log.about context.unit.path "acquiring type services")
    modify fun s => { s with acquired := s.acquired + 1 }
    return services

/-- The type services of the run, built when they are first needed. -/
def services : RunM TypeServices := do
  match (← get).services with
  | some services => return services
  | none =>
    let built ← buildServices
    modify fun s => { s with services := some built }
    return built

end RunM

end SignalLint
