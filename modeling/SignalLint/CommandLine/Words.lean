/-!
# Words of a command line

A command line is a list of words. Some are options, some are the values that options take, the
others are operands. An option has a long name and may have a letter; a value follows its option as
the next word, behind an equals sign (`--format=json`) or behind the letter (`-fjson`). Letters of
options without values can be put together (`-vq`). Two hyphens on their own end the options.
-/

namespace SignalLint

/-- How an option is written. -/
structure OptionForm (κ : Type) where
  key : κ
  /-- The long name with its hyphens. -/
  long : String
  letter : Option Char := none
  takesValue : Bool := false
  deriving Repr, Inhabited

/-- What one word gives. -/
inductive Word (κ : Type) where
  | operand
  /-- The end of the options. -/
  | stop
  /-- Options with their values, and one that still needs its value. -/
  | options (given : List (κ × String)) (awaiting : Option κ)
  /-- An option that does not exist or is not written rightly. -/
  | unknown
  deriving Repr, Inhabited

/-- What a command line gives, in order. -/
structure Given (κ : Type) where
  options : List (κ × String) := []
  operands : List String := []
  deriving Repr, Inhabited

variable {κ : Type}

namespace Word

/-- The options of a word of letters. -/
def ofLetters (forms : List (OptionForm κ)) : List Char → Word κ
  | [] => .options [] none
  | c :: rest =>
    match forms.find? (·.letter = some c) with
    | none => .unknown
    | some f =>
      if f.takesValue then
        if rest.isEmpty then .options [] (some f.key)
        else .options [(f.key, String.ofList rest)] none
      else
        match ofLetters forms rest with
        | .options given awaiting => .options ((f.key, "") :: given) awaiting
        | other => other

/-- The option of a word with a long name, and a value if one is attached. -/
def ofLong (f : OptionForm κ) (attached : Option String) : Word κ :=
  match f.takesValue, attached with
  | true, some value => .options [(f.key, value)] none
  | true, none => .options [] (some f.key)
  | false, some _ => .unknown
  | false, none => .options [(f.key, "")] none

/-- Reads a word. -/
def read (forms : List (OptionForm κ)) (word : String) : Word κ :=
  let cs := word.toList
  let name := String.ofList (cs.takeWhile (· ≠ '='))
  let attached := (cs.dropWhile (· ≠ '=')).tail?.map String.ofList
  match cs with
  | ['-', '-'] => .stop
  | '-' :: c :: rest =>
    match forms.find? (·.long = name) with
    | some f => ofLong f attached
    | none => if c = '-' then .unknown else ofLetters forms (c :: rest)
  | _ => .operand

end Word

namespace Given

/-- Reads words behind an option that may still need its value. If operands are not `mixed` with
options, the first one ends the options. Without result if there is an unknown option, or one
without the value that it needs. -/
def read (forms : List (OptionForm κ)) (mixed : Bool) (awaiting : Option κ) :
    List String → Option (Given κ)
  | [] => if awaiting.isNone then some {} else none
  | word :: rest =>
    match awaiting with
    | some key =>
      (read forms mixed none rest).map fun g => { g with options := (key, word) :: g.options }
    | none =>
      match Word.read forms word with
      | .stop => some { operands := rest }
      | .unknown => none
      | .options given awaiting =>
        (read forms mixed awaiting rest).map fun g => { g with options := given ++ g.options }
      | .operand =>
        if mixed then
          (read forms mixed none rest).map fun g => { g with operands := word :: g.operands }
        else some { operands := word :: rest }

variable [DecidableEq κ]

/-- Whether an option is given. -/
def has (g : Given κ) (key : κ) : Bool := g.options.any (·.1 = key)

/-- All values of an option. -/
def all (g : Given κ) (key : κ) : List String := (g.options.filter (·.1 = key)).map (·.2)

/-- The value of an option; the last one counts. -/
def value? (g : Given κ) (key : κ) : Option String := (g.all key).getLast?

end Given

end SignalLint
