import SignalLint.Code.Node

/-!
# Selectors

A selector says which nodes a check wants to see: those of one kind, perhaps only with a given
`readonly` flag, perhaps only those that invoke a function of a given name or of a name that a
pattern finds.
-/

namespace SignalLint

/-! ### Name patterns -/

/-- A pattern for names: one of several words, perhaps only at the start, perhaps only at the end.
`written` is the pattern as it was given. -/
structure NamePattern where
  written : String
  words : List String
  atStart : Bool
  atEnd : Bool
  deriving DecidableEq, Repr, Inhabited

namespace NamePattern

/-- Whether a match may end in front of `rest`: anywhere, or, for a pattern bound to the end, at
the end or in front of one last line break. -/
def endsBefore (atEnd : Bool) (rest : List Char) : Bool :=
  !atEnd || rest.isEmpty || rest = ['\n']

/-- Whether one of the words stands in front, followed by an admissible end. -/
def matchesHere (p : NamePattern) (cs : List Char) : Bool :=
  p.words.any fun w =>
    w.toList.isPrefixOf cs && endsBefore p.atEnd (cs.drop w.toList.length)

/-- Whether a match starts somewhere. -/
def matchesSomewhere (p : NamePattern) : List Char → Bool
  | [] => p.matchesHere []
  | c :: rest => p.matchesHere (c :: rest) || p.matchesSomewhere rest

/-- Whether the pattern is found in a name. -/
def finds (p : NamePattern) (name : String) : Bool :=
  if p.atStart then p.matchesHere name.toList else p.matchesSomewhere name.toList

/-- Parts of a text between occurrences of a separator. -/
def splitAt (separator : Char) : List Char → List (List Char)
  | [] => [[]]
  | c :: rest =>
    if c = separator then [] :: splitAt separator rest
    else
      match splitAt separator rest with
      | part :: parts => (c :: part) :: parts
      | [] => [[c]]

/-- Reads a pattern: `^` binds it to the start, `$` to the end, and a group in parentheses lists
words with bars between them. -/
def ofText (text : String) : NamePattern :=
  let cs := text.toList
  let (atStart, cs) := match cs with
    | '^' :: rest => (true, rest)
    | _ => (false, cs)
  let (atEnd, cs) := match cs.reverse with
    | '$' :: rest => (true, rest.reverse)
    | _ => (false, cs)
  let body := match cs, cs.reverse with
    | '(' :: inner, ')' :: _ => inner.dropLast
    | _, _ => cs
  ⟨text, (splitAt '|' body).map String.ofList, atStart, atEnd⟩

end NamePattern

/-! ### Selectors -/

namespace Node

/-- The name of the function that a call or a `new` expression invokes, if it is a plain name. -/
def callee? : Expression → Option String
  | .call (.identifier name _) _ _ _ => some name
  | .construct (.identifier name _) _ _ _ => some name
  | _ => none

/-- The name that a node invokes: `Input` for the decorator `@Input()`, and nothing for `@Input` or
`@ng.Input()`. -/
def invokedName? : Node → Option String
  | .decorator d => callee? d.expression
  | .expression e => callee? e
  | _ => none

end Node

/-- Which nodes a check wants to see. -/
structure Selector where
  kind : NodeKind
  readonly : Option Bool := none
  calleeName : Option String := none
  calleePattern : Option NamePattern := none
  deriving DecidableEq, Repr, Inhabited

namespace Selector

/-- Whether the name that a node invokes is wanted. -/
def admitsName (s : Selector) (name : String) : Bool :=
  s.calleeName.all (· = name) && s.calleePattern.all (·.finds name)

/-- Whether a node is wanted. -/
def admits (s : Selector) (n : Node) : Bool :=
  n.kind = s.kind && s.readonly.all (· = n.isReadonly) &&
    ((s.calleeName.isNone && s.calleePattern.isNone) || n.invokedName?.any s.admitsName)

/-- The text of a selector. -/
def text (s : Selector) : String :=
  s.kind.name ++
    (match s.readonly with
      | some flag => ":not([readonly=" ++ (if flag then "false" else "true") ++ "])"
      | none => "") ++
    (match s.calleeName with
      | some name => "[expression.callee.name=\"" ++ name ++ "\"]"
      | none => "") ++
    (match s.calleePattern with
      | some p => "[expression.callee.name=/" ++ p.written ++ "/]"
      | none => "")

/-- `new` expressions. -/
def construction : Selector := { kind := .newExpression }

/-- Fields of the plain kind that are not readonly. -/
def mutableField : Selector := { kind := .field .plain, readonly := some false }

/-- `@Input()` -/
def inputDecorator : Selector := { kind := .decorator, calleeName := some "Input" }

end Selector

end SignalLint
