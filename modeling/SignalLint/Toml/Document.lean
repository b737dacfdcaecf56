import SignalLint.Code.Table
import SignalLint.Value.Basic

/-!
# TOML documents

A document is a sequence of statements: a table is opened, another table is put behind those of the
same name, or a key of the open table gets a value. Running them (`Document.run`) builds a tree of tables
(`Entries`), which remembers how each table came to be, because that decides who may still write
into it:

* a table that was opened, or that an assignment of another section made, is not opened again;
* an assignment with a dotted key enters no table that was opened;
* nobody enters what a single value wrote, not even a table between braces.
-/

namespace SignalLint

namespace Toml

/-- A key with dots: the names on the way, and the last one. -/
abbrev Path := List String

/-- A statement of a document. -/
inductive Statement where
  | openTable (path : Path)
  | appendTable (path : Path)
  | assign (path : Path) (value : Value)
  deriving Repr, Inhabited

/-- How a table came to be. -/
inductive Origin where
  /-- On the way to a table that was opened. -/
  | implied
  | opened
  /-- On the way to a key that was assigned in a section. -/
  | dotted (inSection : Nat)
  deriving DecidableEq, Repr, Inhabited

/-- What stands under a key. -/
inductive Entry where
  | value (v : Value)
  | table (origin : Origin) (entries : List (String × Entry))
  /-- Tables of one name; the last one is open. -/
  | tables (items : List (List (String × Entry)))
  deriving Repr, Inhabited

/-- The keys of a table with what stands under them, in order of first mention. -/
abbrev Entries := List (String × Entry)

namespace Entries

/-- What stands under a key. -/
def get? (es : Entries) (key : String) : Option Entry := Table.get? ⟨es⟩ key

/-- The table with something under a key, at its old place if it had one. -/
def set (es : Entries) (key : String) (e : Entry) : Entries := (Table.insert ⟨es⟩ key e).entries

/-- Gives a dotted key a value. -/
def assign (inSection : Nat) (v : Value) : Path → Entries → Option Entries
  | [], _ => none
  | [key], es => if (es.get? key).isSome then none else some (es.set key (.value v))
  | key :: path, es => do
    let inner ← match es.get? key with
      | none => some []
      | some (.table .implied inner) => some inner
      | some (.table (.dotted s) inner) => if s = inSection then some inner else none
      | _ => none
    return es.set key (.table (.dotted inSection) (← assign inSection v path inner))

/-- Changes what stands under a key on the way to an open table. An absent key becomes a table, and
of several tables the last one is meant. -/
def descend (change : Entries → Option Entries) (key : String) (es : Entries) : Option Entries :=
  match es.get? key with
  | none => (change []).map fun inner => es.set key (.table .implied inner)
  | some (.table origin inner) =>
    (change inner).map fun inner => es.set key (.table origin inner)
  | some (.tables items) =>
    match items.getLast? with
    | none => none
    | some last => (change last).map fun last => es.set key (.tables (items.dropLast ++ [last]))
  | some (.value _) => none

/-- Opens a table. -/
def openTable : Path → Entries → Option Entries
  | [], _ => none
  | [key], es =>
    match es.get? key with
    | none => some (es.set key (.table .opened []))
    | some (.table .implied inner) => some (es.set key (.table .opened inner))
    | _ => none
  | key :: path, es => es.descend (openTable path) key

/-- Puts a table behind those of its name. -/
def appendTable : Path → Entries → Option Entries
  | [], _ => none
  | [key], es =>
    match es.get? key with
    | none => some (es.set key (.tables [[]]))
    | some (.tables items) => some (es.set key (.tables (items ++ [[]])))
    | _ => none
  | key :: path, es => es.descend (appendTable path) key

/-- Changes the table at a path. -/
def within (change : Entries → Option Entries) : Path → Entries → Option Entries
  | [], es => change es
  | key :: path, es => es.descend (within change path) key

end Entries

mutual

/-- What stands under a key, as a value. -/
def Entry.toValue : Entry → Value
  | .value v => v
  | .table _ entries => .table (entryValues entries)
  | .tables items => .list (itemValues items)

/-- The values under the keys of a table. -/
def entryValues : List (String × Entry) → List (String × Value)
  | [] => []
  | (key, e) :: rest => (key, e.toValue) :: entryValues rest

/-- Several tables as values. -/
def itemValues : List (List (String × Entry)) → List Value
  | [] => []
  | es :: rest => .table (entryValues es) :: itemValues rest

end

/-- A document under construction. -/
structure Document where
  entries : Entries := []
  /-- The table that is open. -/
  header : Path := []
  /-- How many tables have been opened. -/
  inSection : Nat := 0
  deriving Repr, Inhabited

namespace Document

/-- The document with another table open. -/
def moved (d : Document) (header : Path) (entries : Entries) : Document :=
  ⟨entries, header, d.inSection + 1⟩

/-- Runs a statement; `none` if it contradicts what is there. -/
def run (d : Document) : Statement → Option Document
  | .openTable path => (d.entries.openTable path).map (d.moved path)
  | .appendTable path => (d.entries.appendTable path).map (d.moved path)
  | .assign path v =>
    (d.entries.within (Entries.assign d.inSection v path) d.header).map fun es =>
      { d with entries := es }

/-- The keys and values of a document. -/
def toEntries (d : Document) : List (String × Value) := entryValues d.entries

end Document

end Toml

end SignalLint
