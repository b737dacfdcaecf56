import SignalLint.Error

/-!
# Schemas of options

A schema describes which options there are and which values they take. `Schema.check` accepts a
table of options or names the first one that does not fit.
-/

namespace SignalLint

/-- What values an option takes. -/
inductive PropertyType where
  | boolean
  | text
  /-- A list; of texts only, if `ofTexts`. -/
  | array (ofTexts : Bool)
  | anything
  deriving DecidableEq, Repr, Inhabited

/-- The options there are. A property without a type is listed but not known. -/
structure Schema where
  properties : List (String × Option PropertyType)
  /-- Whether other options are refused. -/
  closed : Bool
  deriving DecidableEq, Repr, Inhabited

namespace Value

/-- The value under a key of a table. -/
def get? (v : Value) (key : String) : Option Value :=
  match v with
  | table entries => (entries.find? (·.1 = key)).map (·.2)
  | _ => none

/-- Whether a value is a text. -/
def isText : Value → Bool
  | text _ => true
  | _ => false

end Value

namespace PropertyType

/-- Reads the description of a property. -/
def ofValue (v : Value) : PropertyType :=
  match v.get? "type" with
  | some (.text "boolean") => .boolean
  | some (.text "string") => .text
  | some (.text "array") =>
    match (v.get? "items").bind (·.get? "type") with
    | some (.text "string") => .array true
    | _ => .array false
  | _ => .anything

/-- What is wrong with a value, if anything. -/
def objection? (type : PropertyType) (v : Value) : Option String :=
  match type, v with
  | .boolean, .bool _ => none
  | .boolean, _ => some "expected a boolean"
  | .text, .text _ => none
  | .text, _ => some "expected a string"
  | .array ofTexts, .list items =>
    if ofTexts && !items.all Value.isText then some "expected an array of strings" else none
  | .array _, _ => some "expected an array"
  | .anything, _ => none

end PropertyType

namespace Schema

/-- Reads the description of a schema. -/
def ofValue (v : Value) : Schema where
  properties :=
    match v.get? "properties" with
    | some (.table entries) =>
      entries.map fun (name, p) =>
        (name, match p with
          | .null => none
          | p => some (PropertyType.ofValue p))
    | _ => []
  closed :=
    match v.get? "additionalProperties" with
    | some (.bool false) => true
    | _ => false

/-- The type of an option. -/
def type? (s : Schema) (key : String) : Option PropertyType :=
  ((s.properties.find? (·.1 = key)).map (·.2)).join

/-- The names of the options, sorted. -/
def names (s : Schema) : List String :=
  (s.properties.map (·.1)).mergeSort fun a b => !(b < a)

/-- What is wrong with one option, if anything. -/
def objection? (s : Schema) (key : String) (v : Value) : Option String :=
  match s.type? key with
  | some type => type.objection? v
  | none =>
    if s.closed then some s!"unknown option; expected one of {commaList s.names}" else none

/-- Accepts options, or names the first that does not fit. -/
def check (s : Schema) (given : Value) : Except Failure Unit :=
  match given with
  | .null => .ok ()
  | .table entries =>
    entries.forM fun (key, v) =>
      match s.objection? key v with
      | some reason => .error (.misfit key v reason)
      | none => .ok ()
  | v => .error (.misfit "rule" v "expected a table of options")

end Schema

end SignalLint
