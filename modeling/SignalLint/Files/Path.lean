import SignalLint.Text.LowerCase

/-!
# File paths

A path is an anchor and a list of names. Empty names and single dots vanish when a path is read, so
equal paths have equal texts; two dots stay, because what they mean depends on links.
-/

namespace SignalLint

/-- A file path. -/
structure FilePath where
  /-- What an absolute path starts with; empty for a relative one. -/
  anchor : String := ""
  names : List String
  deriving DecidableEq, Repr, Inhabited

namespace FilePath

/-- The names between slashes. -/
def splitNames : List Char → List (List Char)
  | [] => [[]]
  | c :: rest =>
    if c = '/' then [] :: splitNames rest
    else
      match splitNames rest with
      | name :: names => (c :: name) :: names
      | [] => [[c]]

/-- The names of a path that count. -/
def readNames (cs : List Char) : List String :=
  ((splitNames cs).filter fun name => !name.isEmpty && name ≠ ['.']).map String.ofList

/-- Reads a path. Exactly two slashes in front are an anchor of their own. -/
def ofString (text : String) : FilePath :=
  let cs := text.toList
  let slashes := (cs.takeWhile (· = '/')).length
  ⟨if slashes = 0 then "" else if slashes = 2 then "//" else "/", readNames cs⟩

/-- The path without names and anchor. -/
def here : FilePath := ⟨"", []⟩

/-- The text of a path. -/
def text (p : FilePath) : String :=
  if p.anchor.isEmpty && p.names.isEmpty then "."
  else p.anchor ++ String.intercalate "/" p.names

/-- The last name. -/
def name (p : FilePath) : String := p.names.getLast?.getD ""

/-- The path of an entry of a directory. -/
def child (p : FilePath) (name : String) : FilePath := { p with names := p.names ++ [name] }

/-- The path that a text means from a directory. -/
def join (p : FilePath) (other : FilePath) : FilePath :=
  if other.anchor.isEmpty then { p with names := p.names ++ other.names } else other

/-- The last dot of a name and what follows it, unless the dot starts or ends the name. -/
def suffixOf (name : String) : String :=
  let cs := name.toList
  let extension := (cs.reverse.takeWhile (· ≠ '.')).reverse
  let stem := cs.take (cs.length - extension.length)
  if extension.isEmpty || stem.length ≤ 1 then "" else String.ofList ('.' :: extension)

/-- The suffix of the last name. -/
def suffix (p : FilePath) : String := suffixOf p.name

end FilePath

end SignalLint
