/-!
# Log records

What a run has to say besides its diagnostics. Records are values: functions return them, and only
the outermost layer decides which to show. A record about a file names the file first
(`Log.about`).
-/

namespace SignalLint

/-- How grave a record is. -/
inductive LogLevel where
  | debug
  | info
  | warning
  | error
  | critical
  deriving DecidableEq, Repr, Inhabited

namespace LogLevel

/-- The rank of a level; a graver one has a higher rank. -/
def rank : LogLevel → Nat
  | debug => 10
  | info => 20
  | warning => 30
  | error => 40
  | critical => 50

def name : LogLevel → String
  | debug => "DEBUG"
  | info => "INFO"
  | warning => "WARNING"
  | error => "ERROR"
  | critical => "CRITICAL"

/-- The level with this name. -/
def ofName? (text : String) : Option LogLevel :=
  [debug, info, warning, error, critical].find? (·.name = text)

end LogLevel

/-- The parts of the program that write records. -/
inductive LogSource where
  | linter
  | scanner
  | normalizer
  | ruleContext
  | evidence
  deriving DecidableEq, Repr, Inhabited

/-- The name of the logger that all others are nested under. -/
def rootLogger : String := "prefer_signals"

/-- The name of the logger of a part. -/
def LogSource.loggerName : LogSource → String
  | linter => "prefer_signals.linter"
  | scanner => "prefer_signals.scanning.scanner"
  | normalizer => "prefer_signals.scanning.normalizer"
  | ruleContext => "prefer_signals.engine.context"
  | evidence => "prefer_signals.rules.signal_evidence"

/-- One record. -/
structure LogRecord where
  level : LogLevel
  source : LogSource
  message : String
  deriving DecidableEq, Repr, Inhabited

/-- Records in the order in which they were written. -/
abbrev Log := List LogRecord

namespace Log

/-- A message about a file. -/
def about (path message : String) : String := s!"{path}: {message}"

/-- The records that are at least as grave as a threshold. -/
def atLeast (threshold : LogLevel) (log : Log) : Log :=
  log.filter fun r => threshold.rank ≤ r.level.rank

end Log

/-- The logger for a name: names from outside the package are nested under it. -/
def loggerNameFor (name : Option String) : String :=
  match name with
  | none => rootLogger
  | some name => if name.startsWith rootLogger then name else s!"{rootLogger}.{name}"

/-- How much a user wants to hear. -/
def LogLevel.ofFlags (verbose quiet : Bool) : LogLevel :=
  if quiet then .error else if verbose then .debug else .warning

/-- Where records go: to the terminal, and to a file if there is one. Records stay with the package
and are not handed on to whoever embeds it. -/
structure LogSetup where
  level : LogLevel := .warning
  file : Option String := none
  deriving DecidableEq, Repr, Inhabited

namespace LogSetup

/-- How many places records go to. -/
def targets (s : LogSetup) : Nat := 1 + s.file.toList.length

/-- Whether a logger belongs to the package: it is the root logger or nested under it. -/
def governs (logger : String) : Bool :=
  logger = rootLogger || logger.startsWith (rootLogger ++ ".")

/-- The threshold of a logger. Those that do not belong to the package keep the usual one. -/
def threshold (s : LogSetup) (logger : String) : LogLevel :=
  if governs logger then s.level else .warning

/-- Whether a logger lets records of a level through. -/
def admits (s : LogSetup) (logger : String) (level : LogLevel) : Bool :=
  (s.threshold logger).rank ≤ level.rank

end LogSetup

/-- The line of a record in a log file. -/
def LogRecord.line (r : LogRecord) (time : String) : String :=
  let level := r.level.name.toList
  let blanks := List.replicate (8 - level.length) ' '
  s!"{time} {String.ofList (level ++ blanks)} {r.source.loggerName}: {r.message}\n"

end SignalLint
