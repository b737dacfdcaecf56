import SignalLint.Error
import SignalLint.Lint.Language
import SignalLint.Lint.Log
import SignalLint.Rule.Catalogue
import SignalLint.Settings.Config
import SignalLint.Tree.Unit

/-!
# Linting one source text

A source is parsed into a unit (`parseSource`) and the rule is run over it (`Linter.lintSource`).
Parsing is a service that a linter is given, so a linter can also do without one and then fails on
every source.
-/

namespace SignalLint

/-- What a grammar makes of a source. -/
structure ParsedSource where
  root : Tree
  hasErrors : Bool := false
  deriving Repr, Inhabited

/-- Grammars by language. -/
structure Parser where
  languages : List String
  parse : (language : String) → Bytes → Option ParsedSource

namespace Parser

/-- Whether there is a grammar for a language. -/
def supports (p : Parser) (language : String) : Bool := p.languages.contains language

/-- The tree of a source in one of the supported languages. -/
def parse? (p : Parser) (language : String) (source : Bytes) : Option ParsedSource :=
  if p.supports language then p.parse language source else none

end Parser

/-- The result of a step that may fail, with the records that it wrote. -/
abbrev Logged (α : Type) := Except Failure α × Log

namespace Logged

/-- A result without records. -/
def ok {α : Type} (a : α) : Logged α := (.ok a, [])

/-- A failure without records. -/
def fail {α : Type} (e : LintError) : Logged α := (.error (.error e), [])

/-- One step after another; the records of both. -/
def andThen {α β : Type} (x : Logged α) (f : α → Logged β) : Logged β :=
  match x with
  | (.ok a, log) => ((f a).1, log ++ (f a).2)
  | (.error e, log) => (.error e, log)

end Logged

/-- The unit of a source. The language is told by the path unless it is given. -/
def parseSource (parser : Option Parser) (content path : String) (language : Option String) :
    Logged SourceUnit :=
  let given := language.filter (!·.isEmpty)
  match given.or (FilePath.ofString path).language? with
  | none => .fail (.unsupportedLanguage path knownLanguages)
  | some language =>
    match parser with
    | none => .fail (.parsing path language "tree-sitter-typescript is not installed")
    | some parser =>
      if !parser.supports language then
        .fail (.parsing path language "grammar not available")
      else
        let source := Utf8.encode content
        match parser.parse? language source with
        | none => .fail (.parsing path language "parser returned no tree")
        | some parsed =>
          (.ok (.ofTree path language source parsed.root parsed.hasErrors),
            if parsed.hasErrors then
              [⟨.debug, .normalizer,
                Log.about path "has syntax errors; results may be incomplete"⟩]
            else [])

/-- A rule ready to be run over sources. -/
structure Linter where
  config : LintConfig
  options : RuleOptions
  parser : Option Parser

namespace RunError

/-- A failed run as an error. -/
def toFailure : RunError → Failure
  | noTypeInformation path rule => .error (.noTypeInformation path rule)
  | unknownMessage id => .error (.general .general id [])

end RunError

namespace Linter

/-- A linter for settings whose rule options fit the rule. -/
def make (config : LintConfig) (parser : Option Parser) : Except Failure Linter :=
  match ruleSchema.check config.ruleOptions with
  | .error e => .error e
  | .ok () =>
    match LooseOptions.resolve config.ruleOptions with
    | .error f => .error (.fault f)
    | .ok options => .ok ⟨config, options.settle, parser⟩

/-- The type information that the rule is given. -/
def types (l : Linter) : TypeSupply :=
  if l.config.typeInformation.isTruthy then .declarations else .none

/-- The diagnostics of a source. -/
def lintSource (l : Linter) (content path : String) (language : Option String := none) :
    Logged (List Diagnostic) :=
  (parseSource l.parser content path language).andThen fun unit =>
    match runRule l.options unit l.types with
    | (.error e, state) => (.error e.toFailure, state.log)
    | (.ok (), state) =>
      (.ok state.diagnostics,
        state.log ++ [⟨.debug, .linter,
          Log.about path s!"{state.diagnostics.length} diagnostic(s)"⟩])

end Linter

/-- The path of a source that has none. -/
def unnamedPath : String := "<input>.ts"

end SignalLint
