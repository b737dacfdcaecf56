import SignalLint.CommandLine.Run
import SignalLint.Report.BoxTable
import SignalLint.TypeScript.Grammar
import Std.Time.Format

/-!
# The program

Reads the files that a command line is about, runs it over them (`Invocation.run`), writes back the
files that it changed, and prints what it has to say.
-/

namespace SignalLint

/-- What is printed when the program is not used rightly. -/
def usageText : String :=
  "Usage: prefer-signals [--version] [--help] COMMAND\n\n" ++
  "  lint [PATH]... [-c|--config FILE] [-f|--format rich|json|github]\n" ++
  "       [--apply-suggestions] [--no-type-info] [--types-to-replace NAME]...\n" ++
  "       [--signal-function NAME]... [-v|--verbose] [-q|--quiet] [--log-file FILE]\n" ++
  "      Lint sources for code that should use signals.\n\n" ++
  "  rules [--json]\n" ++
  "      List the rules with their messages and options.\n"

namespace Store

/-- The store with something at a place. -/
def holding (s : Store) (place : List String) (n : FileNode) : Store :=
  { s with root := FileNode.put n place s.root }

/-- The store with something at a place that nobody may open. -/
def withBarred (s : Store) (place : List String) (n : FileNode) : Store :=
  { s.holding place n with barred := (place, .denied) :: s.barred }

/-- The store with the content of a file at a place. -/
def withContent (s : Store) (place : List String) (path : String) : IO Store := do
  try return s.holding place (.file (← IO.FS.readBinFile path).toList)
  catch
    | .permissionDenied .. => return s.withBarred place (.file [])
    | _ => return s

/-- The store with the tree below a path at a place. Directories that a walk never enters are left
out, and so are the contents of files that are no sources. Links to directories stay links. -/
partial def withTree (s : Store) (place : List String) (path : String) : IO Store := do
  let real ← IO.FS.realPath path
  if !(← real.isDir) then s.withContent place (toString real)
  else
    try
      let mut s := s.holding place (.directory [])
      for entry in ← real.readDir do
        let name := entry.fileName
        let text := toString entry.path
        let inner := place ++ [name]
        if ← entry.path.isDir then
          if (← entry.path.symlinkMetadata).type == .symlink then
            s := s.holding inner (.link (.ofString (toString (← IO.FS.realPath text))))
          else if !skippedDirectories.contains name then s ← s.withTree inner text
        else if (FilePath.ofString name).language?.isSome then s ← s.withContent inner text
        else s := s.holding inner (.file [])
      return s
    catch
      | .permissionDenied .. => return s.withBarred place (.directory [])
      | _ => return s

end Store

/-- The files that a command line is about. -/
def loadStore (words : List String) : IO Store := do
  let namesOf (text : String) : List String := (FilePath.ofString text).names
  let working := namesOf (toString (← IO.currentDir))
  let home := namesOf ((← IO.getEnv "HOME").getD "")
  let empty : Store :=
    { root := .put (.directory []) working (.directory []), working := working, home := home }
  match LintRequest.read? words with
  | none => return empty
  | some request =>
    let places := (request.places.map empty.absolute).mergeSort fun a b =>
      a.names.length ≤ b.names.length
    let loadTree (s : Store) (path : FilePath) : IO Store := do
      try s.withTree path.names path.text
      catch _ => return s
    let loadContent (s : Store) (path : FilePath) : IO Store :=
      let place := s.absolute path
      s.withContent place.names place.text
    let files := (configFiles empty request.config).map (·.path) ++ request.logFile.toList
    files.foldlM loadContent (← places.foldlM loadTree empty)

/-- The variables that settings are read from. -/
def loadEnvironment : IO Environment := do
  let found ← Setting.all.mapM fun s => do
    return (← IO.getEnv s.variableName).map (s.variableName, ·)
  return found.filterMap id

/-- Prints what comes of a run, and writes back what it changed. -/
def finish (before : Store) (r : CommandResult) : IO UInt32 := do
  for (path, content) in before.changes r.store do
    IO.FS.writeBinFile path.text ⟨content.toArray⟩
  for record in r.log do
    IO.eprintln s!"{record.level.name} {record.message}"
  match r.output with
  | .text s => IO.print s
  | .usage => IO.print usageText
  IO.eprint r.errors
  match r.breakdown with
  | some b => IO.eprintln b.message
  | none => pure ()
  return UInt32.ofNat r.exitCode

end SignalLint

open SignalLint in
/-- Runs a command line. -/
def main (words : List String) : IO UInt32 := do
  let store ← loadStore words
  let now ← Std.Time.PlainDateTime.now
  finish store (Invocation.run
    { words := words, console := .unstyled, environment := ← loadEnvironment, store := store,
      parser := some TypeScript.parser, time := now.format "uuuu-MM-dd HH:mm:ss" })
