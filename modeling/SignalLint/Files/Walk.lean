import SignalLint.Files.Store
import SignalLint.Lint.Language

/-!
# Walks through a store

`Store.filesUnder` lists the files below a directory: first those in it, then those of its
directories, each time in the order of their names. Some directories are never entered
(`skippedDirectories`), and linked ones only on request.
-/

namespace SignalLint

mutual

/-- How deep directories are nested in a tree. -/
def FileNode.height : FileNode → Nat
  | .directory entries => entriesHeight entries + 1
  | _ => 0

/-- How deep directories are nested in the entries of a directory. -/
def entriesHeight : List (String × FileNode) → Nat
  | [] => 0
  | (_, n) :: rest => max n.height (entriesHeight rest)

end

/-- Texts in ascending order. -/
def sortedTexts (texts : List String) : List String := texts.mergeSort fun a b => !(b < a)

namespace Store

/-- The files below a directory, directories nested at most so deep. -/
def filesWithin (s : Store) (followLinks : Bool) : (depth : Nat) → FilePath → List FilePath
  | 0, _ => []
  | depth + 1, dir =>
    let names := sortedTexts (s.list dir)
    let isDirectory (name : String) : Bool := s.isDirectory (dir.child name)
    let entered (name : String) : Bool :=
      isDirectory name && !skippedDirectories.contains name &&
        (followLinks || !s.isLink (dir.child name))
    (names.filter (!isDirectory ·)).map dir.child ++
      ((names.filter entered).map dir.child).flatMap (filesWithin s followLinks depth)

/-- More directories than any way through the store can lead through: each link that is followed
starts again in some directory of the tree. -/
def depthLimit (s : Store) : Nat := (linkLimit + 1) * (s.root.height + 1) + 1

/-- The files below a directory. -/
def filesUnder (s : Store) (followLinks : Bool) (dir : FilePath) : List FilePath :=
  s.filesWithin followLinks s.depthLimit dir

end Store

end SignalLint
