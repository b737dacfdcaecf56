import SignalLint.Code.Table
import SignalLint.Files.Problem
import SignalLint.Text.Utf8

/-!
# Stores of files

A store is a tree of directories, files and symbolic links, with a working directory and a home
directory in it. Every operation resolves the path it is given (`Store.resolve`): two dots lead to
the directory above the one that was reached, links are replaced by what they point to, and more
than forty links on one way are a loop.

Not everything in a store can be used. What stands at a place that is barred (`Store.refusal?`) is
seen but cannot be opened: no way leads on from such a directory and none of its names are listed,
such a file is neither read nor written. What stands at a place that is sealed (`Store.seal?`) cannot
be changed: such a file is only read, and nothing new is made in such a directory. Writing changes
nothing of that. The working directory is one in which somebody stands, and is not barred.
-/

namespace SignalLint

/-- A file, a link, or a directory with the names in it. -/
inductive FileNode where
  | file (content : Bytes)
  | link (target : FilePath)
  | directory (entries : List (String × FileNode))
  deriving Repr, Inhabited

namespace FileNode

/-- The entries of a directory; nothing else has any. -/
def entries : FileNode → List (String × FileNode)
  | directory es => es
  | _ => []

/-- The entry of a directory with a name. -/
def child? (n : FileNode) (name : String) : Option FileNode := Table.get? ⟨n.entries⟩ name

/-- What stands at a place, all names on the way being directories. -/
def at? (n : FileNode) : List String → Option FileNode
  | [] => some n
  | name :: rest => (n.child? name).bind (at? · rest)

/-- The tree with something at a place; directories on the way are made as needed. -/
def put (content : FileNode) : List String → FileNode → FileNode
  | [], _ => content
  | name :: rest, n =>
    let inner := put content rest ((n.child? name).getD (directory []))
    directory (Table.insert ⟨n.entries⟩ name inner).entries

mutual

/-- The files in a tree below a place, with their contents. -/
def files (place : List String) : FileNode → List (List String × Bytes)
  | file content => [(place, content)]
  | link _ => []
  | directory es => filesOfEntries place es

/-- The files below the entries of a directory. -/
def filesOfEntries (place : List String) : List (String × FileNode) → List (List String × Bytes)
  | [] => []
  | (name, n) :: rest => files (place ++ [name]) n ++ filesOfEntries place rest

end

end FileNode

/-- A tree of files. -/
structure Store where
  root : FileNode := .directory []
  /-- How the texts of absolute paths start. -/
  anchor : String := "/"
  /-- The place of the working directory. -/
  working : List String := []
  /-- The place of the home directory. -/
  home : List String := []
  /-- The places at which nothing can be opened. -/
  barred : List (List String × Refusal) := []
  /-- The places at which nothing can be changed. -/
  sealed : List (List String × Refusal) := []
  deriving Repr, Inhabited

namespace Store

/-- The number of links that a way may go through. -/
def linkLimit : Nat := 40

/-- What keeps a place from being opened, if anything. -/
def refusal? (s : Store) (place : List String) : Option Refusal := Table.get? ⟨s.barred⟩ place

/-- What keeps a place from being changed, if anything. -/
def seal? (s : Store) (place : List String) : Option Refusal := Table.get? ⟨s.sealed⟩ place

/-- What keeps a way from leading on from a place, if anything: it leads on from a directory that can
be opened. -/
def obstacle? (s : Store) (place : List String) : Option FileProblem :=
  match s.root.at? place with
  | some (.directory _) => (s.refusal? place).map .refused
  | some _ => some .notADirectory
  | none => some .missing

/-- The place that names lead to from a directory. The last name may be missing if something is to
be made there. -/
def follow (s : Store) (create : Bool) (links : Nat) (place : List String) :
    List String → Except FileProblem (List String)
  | [] => .ok place
  | name :: rest =>
    match s.obstacle? place with
    | some e => .error e
    | none =>
      if name = ".." then follow s create links place.dropLast rest
      else
        match s.root.at? (place ++ [name]) with
        | none => if create && rest.isEmpty then .ok (place ++ [name]) else .error .missing
        | some (.link target) =>
          match links with
          | 0 => .error .linkLoop
          | links + 1 =>
            let start := if target.anchor.isEmpty then place else []
            follow s create links start (target.names ++ rest)
        | some _ => follow s create links (place ++ [name]) rest
  termination_by names => (links, names.length)

/-- The place that a path starts from. -/
def start (s : Store) (p : FilePath) : List String := if p.anchor.isEmpty then s.working else []

/-- The place that a path leads to. -/
def resolve (s : Store) (p : FilePath) : Except FileProblem (List String) :=
  s.follow false linkLimit (s.start p) p.names

/-- What a path leads to, and its place. -/
def locate (s : Store) (p : FilePath) : Except FileProblem (List String × FileNode) :=
  match s.resolve p with
  | .error e => .error e
  | .ok place =>
    match s.root.at? place with
    | some n => .ok (place, n)
    | none => .error .missing

/-- What a path leads to. It need not be possible to open it. -/
def find (s : Store) (p : FilePath) : Except FileProblem FileNode := (s.locate p).map (·.2)

/-- What a path leads to, opened. -/
def opened (s : Store) (p : FilePath) : Except FileProblem FileNode :=
  match s.locate p with
  | .error e => .error e
  | .ok (place, n) =>
    match s.refusal? place with
    | some r => .error (.refused r)
    | none => .ok n

/-- Looks whether a path leads to something. If the way there is barred, that cannot be told. -/
def probe (s : Store) (p : FilePath) : Except Refusal Bool :=
  match s.find p with
  | .ok _ => .ok true
  | .error (.refused r) => .error r
  | .error _ => .ok false

/-- Whether a path leads to a file. -/
def isFile (s : Store) (p : FilePath) : Bool :=
  match s.find p with
  | .ok (.file _) => true
  | _ => false

/-- Whether a path leads to a directory. -/
def isDirectory (s : Store) (p : FilePath) : Bool :=
  match s.find p with
  | .ok (.directory _) => true
  | _ => false

/-- Whether a path ends at a link, wherever that points to. -/
def isLink (s : Store) (p : FilePath) : Bool :=
  match s.resolve { p with names := p.names.dropLast } with
  | .ok place =>
    match s.root.at? (place ++ p.names.getLast?.toList) with
    | some (.link _) => (s.refusal? place).isNone
    | _ => false
  | .error _ => false

/-- The size of a file in bytes. It need not be possible to open it. -/
def sizeOf (s : Store) (p : FilePath) : Except FileProblem Nat :=
  match s.find p with
  | .ok (.file content) => .ok content.length
  | .ok _ => .error .isADirectory
  | .error e => .error e

/-- The content of a file. -/
def read (s : Store) (p : FilePath) : Except FileProblem Bytes :=
  match s.opened p with
  | .ok (.file content) => .ok content
  | .ok _ => .error .isADirectory
  | .error e => .error e

/-- The names in a directory. -/
def list (s : Store) (p : FilePath) : List String :=
  match s.opened p with
  | .ok n => n.entries.map (·.1)
  | .error _ => []

/-- What keeps a file at a place from being written, if anything. A file that is not there yet is
made in the directory above. -/
def lock? (s : Store) (place : List String) : Option Refusal :=
  let made := if (s.root.at? place).isNone then s.seal? place.dropLast else none
  ((s.refusal? place).or (s.seal? place)).or made

/-- The store with a file written. -/
def write (s : Store) (p : FilePath) (content : Bytes) : Except FileProblem Store :=
  match s.follow true linkLimit (s.start p) p.names with
  | .error e => .error e
  | .ok place =>
    match s.root.at? place with
    | some (.directory _) => .error .isADirectory
    | _ =>
      match s.lock? place with
      | some r => .error (.refused r)
      | none => .ok { s with root := FileNode.put (.file content) place s.root }

/-- The store with content added at the end of a file, which is made if it is not there. -/
def append (s : Store) (p : FilePath) (content : Bytes) : Except FileProblem Store :=
  match s.read p with
  | .ok old => s.write p (old ++ content)
  | .error .missing => s.write p content
  | .error e => .error e

/-- The path told from the root on, two dots taking back the name in front of them. -/
def absolute (s : Store) (p : FilePath) : FilePath :=
  let names := (s.start p ++ p.names).foldl (fun done name =>
    if name = ".." then done.dropLast else done ++ [name]) []
  ⟨s.anchor, names⟩

/-- The files that are new or different after something was done, by their paths. -/
def changes (before after : Store) : List (FilePath × Bytes) :=
  let isNew (place : List String) (content : Bytes) : Bool :=
    match before.root.at? place with
    | some (.file old) => old ≠ content
    | _ => true
  ((after.root.files []).filter fun (place, content) => isNew place content).map
    fun (place, content) => (⟨after.anchor, place⟩, content)

/-- A path in the home directory. -/
def inHome (s : Store) (name : String) : FilePath := ⟨s.anchor, s.home ++ [name]⟩

/-- A path in the working directory, told from the root on. -/
def inWorking (s : Store) (name : String) : FilePath := ⟨s.anchor, s.working ++ [name]⟩

end Store

end SignalLint
