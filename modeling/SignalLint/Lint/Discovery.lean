import SignalLint.Files.Walk
import SignalLint.Lint.Log
import SignalLint.Settings.Config
import SignalLint.Text.Glob
import SignalLint.Value.Items

/-!
# Finding the files to lint

`discover` turns the paths that a user gives into the files to lint, sorted and without repetition.
A file that is given is taken whenever its suffix is right. Of the files below a directory those are
left out that a pattern excludes, that cannot be looked at, or that are too large. No file is opened.
-/

namespace SignalLint

/-- Whether one of the patterns stands for a file, by its path or by its name. -/
def isExcluded (relative name : String) : List Value → Except Fault Bool
  | [] => .ok false
  | .text pattern :: rest =>
    if Glob.admits pattern relative || Glob.admits pattern name then .ok true
    else isExcluded relative name rest
  | v :: _ => .error (.notPathLike v.typeName)

/-- What has been found so far. -/
structure Discovery where
  files : List FilePath := []
  /-- How many files below directories were left out. -/
  skipped : Nat := 0
  log : Log := []
  deriving Repr, Inhabited

/-- A search that may fail; what was found before is kept. -/
abbrev Search := Except (Failure × Discovery) Discovery

namespace Discovery

/-- A record of the search. -/
def note (d : Discovery) (level : LogLevel) (message : String) : Discovery :=
  { d with log := d.log ++ [⟨level, .scanner, message⟩] }

/-- Takes a file. -/
def add (d : Discovery) (file : FilePath) : Discovery := { d with files := d.files ++ [file] }

/-- Leaves a file out. -/
def skip (d : Discovery) (file : FilePath) : Discovery :=
  { d with skipped := d.skipped + 1 }.note .debug s!"Skipped (excluded): {file.text}"

/-- Whether a file can be linted, by its suffix. -/
def hasLanguage (file : FilePath) : Bool := file.language?.isSome

/-- Takes or leaves a file by its size. -/
def weigh (config : LintConfig) (store : Store) (file : FilePath) (d : Discovery) : Search :=
  match store.sizeOf file with
  | .error e => .ok ((d.note .warning s!"Cannot stat {file.text}: {e.message file}").skip file)
  | .ok size =>
    match config.maxBytes with
    | .error f => .error (.fault f, d)
    | .ok limit =>
      if limit < size then
        .ok ((d.note .warning
          s!"Skipping {file.text}: larger than {config.maxFileSize.plain} MB").skip file)
      else .ok (d.add file)

/-- Takes or leaves a file that was found below a directory. -/
def visitFile (config : LintConfig) (store : Store) (root : FilePath) (d : Discovery)
    (file : FilePath) : Search :=
  let relative := String.intercalate "/" (file.names.drop root.names.length)
  match config.excludePatterns.items with
  | .error f => .error (.fault f, d)
  | .ok patterns =>
    match isExcluded relative file.name patterns with
    | .error f => .error (.fault f, d)
    | .ok true => .ok (d.skip file)
    | .ok false => d.weigh config store file

/-- Takes a file that was given, or visits those below a directory. -/
def visitPath (config : LintConfig) (store : Store) (d : Discovery) (path : FilePath) : Search :=
  match store.probe path with
  | .error r => .error (.fault (.refused r path), d)
  | .ok false => .error (.error (.invalidPath path.text "does not exist"), d)
  | .ok true =>
    if store.isFile path then
      .ok (if hasLanguage path then d.add path
        else d.note .debug s!"Skipped (extension): {path.text}")
    else
      ((store.filesUnder config.followSymlinks.isTruthy path).filter hasLanguage).foldlM
        (visitFile config store path) d

/-- The files found, by the texts of their paths. -/
def sorted (d : Discovery) : List FilePath :=
  d.files.eraseDups.mergeSort fun a b => !(b.text < a.text)

end Discovery

/-- The files to lint. -/
def discover (config : LintConfig) (store : Store) (paths : List FilePath) : Search :=
  (paths.foldlM (Discovery.visitPath config store) {}).map fun d => { d with files := d.sorted }

end SignalLint
