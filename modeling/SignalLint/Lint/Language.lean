import SignalLint.Files.Path

/-!
# Source languages

Which files the linter reads, told by their suffix, and which directories a walk never enters.
-/

namespace SignalLint

/-- The grammar for each suffix. -/
def suffixLanguages : List (String × String) :=
  [(".ts", "typescript"), (".mts", "typescript"), (".cts", "typescript"), (".tsx", "tsx")]

/-- Directories that a walk never enters. -/
def skippedDirectories : List String :=
  ["node_modules", ".git", ".angular", ".nx", "dist", "coverage"]

/-- The language of a suffix, whatever its case. -/
def languageOfSuffix? (suffix : String) : Option String :=
  (suffixLanguages.find? (·.1 = lowerCase suffix)).map (·.2)

/-- The language of a file. -/
def FilePath.language? (p : FilePath) : Option String := languageOfSuffix? p.suffix

/-- The languages that suffixes can mean, sorted. -/
def knownLanguages : List String := ["tsx", "typescript"]

end SignalLint
