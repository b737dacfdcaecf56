import SignalLint.Files.Path
import SignalLint.Text.Quoted

/-!
# Problems with files

Why a path does not lead to what is wanted. Either there is no such thing, or there is and the system
does not let it be opened (`Refusal`). Whoever only asks whether something is there has an answer in
the first case and none in the second.
-/

namespace SignalLint

/-- Why the system does not let something be opened that is there. -/
structure Refusal where
  number : Nat
  text : String
  /-- None of the numbers that say that there is no such thing. -/
  noAbsence : number ∉ [2, 9, 20, 40]
  deriving DecidableEq, Repr

/-- The permission is missing. -/
def Refusal.denied : Refusal := ⟨13, "Permission denied", by decide⟩

/-- Why a path does not lead to what is wanted. -/
inductive FileProblem where
  | missing
  | notADirectory
  | isADirectory
  | linkLoop
  /-- It would lead there, if what stands there or on the way could be opened. -/
  | refused (r : Refusal)
  deriving DecidableEq, Repr, Inhabited

namespace FileProblem

/-- The number of a problem. -/
def number : FileProblem → Nat
  | missing => 2
  | notADirectory => 20
  | isADirectory => 21
  | linkLoop => 40
  | refused r => r.number

/-- The name of a problem. -/
def text : FileProblem → String
  | missing => "No such file or directory"
  | notADirectory => "Not a directory"
  | isADirectory => "Is a directory"
  | linkLoop => "Too many levels of symbolic links"
  | refused r => r.text

/-- The wording of a problem with a path. -/
def message (p : FileProblem) (path : FilePath) : String :=
  s!"[Errno {p.number}] {p.text}: {quoted path.text}"

end FileProblem

end SignalLint
