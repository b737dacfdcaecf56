import SignalLint.TypeScript.Parts

/-!
# Types

Named types keep their parts, because rules look at them. Of every other type only its extent
matters, so its node has no children.
-/

namespace SignalLint

namespace TypeScript

open Parse

/-- The names of built-in types. -/
def predefinedTypes : List String :=
  ["any", "number", "boolean", "string", "symbol", "void", "unknown", "never", "object"]

/-- The words that are literal types. -/
def literalWords : List String := ["null", "undefined", "true", "false"]

namespace Grammar

/-- `a.b.C<T>`: a name, dotted or not, with or without type arguments. -/
def namedType (g : Grammar) : Parse Tree := do
  let t ← tokenOf .word
  let base ← leaf "type_identifier" t
  let name ← extend (fun (e : Tree) => do
    let _ ← punct "."
    let last ← anyName "type_identifier"
    let module_ := match e with
      | .node "nested_type_identifier" named span field children =>
        .node "nested_identifier" named span field children
      | .node _ named span field children => .node "identifier" named span field children
    node "nested_type_identifier" t.start [held "module" module_, held "name" last]) base
  match ← attempt g.typeArguments with
  | some arguments =>
    node "generic_type" t.start [held "name" name, held "type_arguments" arguments]
  | none => return name

/-- Skips a template, with what is substituted in it. -/
def templateType (g : Grammar) : Parse Tree := do
  let t ← tokenOf .template
  let s ← source
  let _ ← many do
    let i ← here
    let stop := s.templatePieceEnd i
    guard (s.charAt stop = '$')
    goTo (stop + 2)
    let _ ← g.type
    punct "\x7d"
  let stop := s.templatePieceEnd (← here)
  goTo (stop + 1)
  node "template_literal_type" t.start []

/-- The name of an index signature or of a mapped type, in brackets. -/
def indexName (g : Grammar) : Parse Unit := do
  let _ ← punct "["
  let _ ← tokenOf .word
  if ← punct? ":" then
    let _ ← g.type
  else
    let _ ← word "in"
    let _ ← g.type
    if ← word? "as" then
      let _ ← g.type
  discard (punct "]")

/-- The name of a member with the modifiers in front of it; a call or construct signature has
none. -/
def memberName (g : Grammar) : Parse Unit := do
  let t ← peek
  if isPunct t "(" || isPunct t "<" then pure ()
  else if isWord t "new" then goTo t.stop
  else
    let _ ← many do
      let w ← token
      guard (["readonly", "get", "set"].any (isWord w))
      guard (startsPropertyName (← peek))
    g.indexName <|> discard g.propertyName

/-- A member of an object type. -/
def typeMember (g : Grammar) : Parse Unit := do
  g.memberName
  let _ ← many (punct "?" <|> punct "-" <|> punct "+")
  let t ← peek
  if isPunct t "(" || isPunct t "<" then
    let _ ← g.signature
  else
    let _ ← attempt g.typed

/-- Members in braces, each ended by a semicolon, a comma or a line break. -/
def objectType (g : Grammar) : Parse Tree := do
  let t ← punct "\x7b"
  let _ ← many do
    let p ← peek
    guard (!isPunct p "\x7d" && p.kind ≠ .done)
    if isPunct p ";" || isPunct p "," then goTo p.stop
    else if isPunct p "-" || isPunct p "+" then goTo p.stop
    else g.typeMember
  let _ ← punct "\x7d"
  node "object_type" t.start []

/-- An element of a tuple, perhaps named, optional or the rest. -/
def tupleElement (g : Grammar) : Parse Tree := do
  let start ← start
  let _ ← punct? "..."
  let named : Parse Unit := do
    let _ ← tokenOf .word
    let _ ← punct? "?"
    discard (punct ":")
  let _ ← attempt named
  let type ← g.type
  let _ ← punct? "?"
  node "tuple_element" start [type]

/-- What `typeof` asks about. -/
def queriedName (g : Grammar) : Parse Unit := do
  let t ← token
  guard (t.kind = .word)
  if t.text = "import" then
    let _ ← g.arguments
  let _ ← many do
    let _ ← punct "."
    let p ← token
    guard (p.kind = .word || p.kind = .privateName)
  let next ← peek
  if !next.afterBreak && isPunct next "<" then
    let _ ← attempt g.typeArguments

/-- Whether the parenthesis that comes next opens the parameters of a function type. -/
def opensFunctionType (g : Grammar) : Parse Bool :=
  succeeds do
    let _ ← punct "("
    let t ← peek
    if isPunct t ")" then
      goTo t.stop
      discard (punct "=>")
    else if isPunct t "..." || isPunct t "@" then pure ()
    else
      if t.kind = .word then
        goTo t.stop
        let p ← peek
        if t.text ≠ "this" && parameterModifiers.contains t.text && p.kind = .word then goTo p.stop
      else discard g.pattern
      let p ← peek
      if isPunct p ")" then
        goTo p.stop
        discard (punct "=>")
      else guard (isPunct p ":" || isPunct p "," || isPunct p "?" || isPunct p "=")

/-- The result of a function type; it may be a predicate. -/
def arrowResult (g : Grammar) : Parse Unit := do
  let _ ← punct "=>"
  let predicate : Parse Unit := do
    let _ ← tokenOf .word
    let _ ← word "is"
    discard g.type
  let assertion : Parse Unit := do
    let _ ← word "asserts"
    let _ ← tokenOf .word
    if ← word? "is" then
      let _ ← g.type
  assertion <|> predicate <|> discard g.type

/-- A type without operators and brackets behind it. -/
def primaryType (g : Grammar) : Parse Tree := do
  let t ← peek
  match t.kind with
  | .string | .number =>
    goTo t.stop
    node "literal_type" t.start []
  | .template => g.templateType
  | .word =>
    let asType (kind : String) : Parse Tree := do
      goTo t.stop
      node kind t.start []
    if literalWords.contains t.text then asType "literal_type"
    else if t.text = "this" then asType "this_type"
    else if t.text = "typeof" then
      goTo t.stop
      g.queriedName
      node "type_query" t.start []
    else if t.text = "import" then
      g.queriedName
      node "import_type" t.start []
    else if predefinedTypes.contains t.text then
      goTo t.stop
      let p ← peek
      if isPunct p "." then
        goTo t.start
        g.namedType
      else node "predefined_type" t.start []
    else g.namedType
  | .punctuation =>
    if t.text = "(" then
      goTo t.stop
      let inner ← inside g.type
      let _ ← punct ")"
      node "parenthesized_type" t.start [inner]
    else if t.text = "[" then
      goTo t.stop
      let _ ← inside (commaSeparated g.tupleElement "]")
      node "tuple_type" t.start []
    else if t.text = "\x7b" then inside g.objectType
    else if t.text = "-" then
      goTo t.stop
      let _ ← tokenOf .number
      node "literal_type" t.start []
    else if t.text = "*" then
      goTo t.stop
      node "existential_type" t.start []
    else fail
  | _ => fail

/-- A type with the brackets behind it: arrays and indexed types. -/
def postfixType (g : Grammar) : Parse Tree := do
  let start ← start
  let base ← g.primaryType
  extend (fun _ => do
    let t ← punct "["
    guard (!t.afterBreak)
    if ← punct? "]" then node "array_type" start []
    else
      let _ ← inside g.type
      let _ ← punct "]"
      node "lookup_type" start []) base

/-- A type with the operators in front of it. -/
def operatorType (g : Grammar) : Parse Tree := do
  let start ← start
  let isOperand (t : Token) : Bool :=
    t.kind ≠ .punctuation && t.kind ≠ .done && !isWord t "extends" ||
      ["(", "[", "\x7b", "-", "+"].any (isPunct t)
  let operator : Parse String := do
    let t ← token
    guard (["keyof", "readonly", "unique", "infer"].any (isWord t))
    guard (isOperand (← peek))
    return t.text
  match ← many operator with
  | [] => g.postfixType
  | "infer" :: _ =>
    let _ ← g.postfixType
    let bound : Parse Unit := do
      let _ ← word "extends"
      let _ ← g.postfixType
      guard (!isPunct (← peek) "?")
    let _ ← attempt bound
    node "infer_type" start []
  | "readonly" :: _ =>
    let _ ← g.postfixType
    node "readonly_type" start []
  | "unique" :: _ =>
    let _ ← g.postfixType
    node "predefined_type" start []
  | _ =>
    let _ ← g.postfixType
    node "index_type_query" start []

/-- Types with one operator between them, perhaps with one in front. -/
def joinedType (kind operator : String) (part : Parse Tree) : Parse Tree := do
  let start ← start
  let leading ← punct? operator
  let first ← part
  let more ← many do
    let _ ← punct operator
    part
  if more.isEmpty && !leading then return first else node kind start []

/-- A union of intersections. -/
def unionType (g : Grammar) : Parse Tree :=
  joinedType "union_type" "|" (joinedType "intersection_type" "&" g.operatorType)

/-- A function or constructor type. -/
def functionType (g : Grammar) : Parse Tree := do
  let start ← start
  let _ ← attempt (do let _ ← word "abstract"; guard (isWord (← peek) "new"))
  let constructs ← word? "new"
  if !constructs then
    let t ← peek
    if isPunct t "(" then guard (← g.opensFunctionType) else guard (isPunct t "<")
  let _ ← attempt g.typeParameters
  let _ ← g.parameters
  g.arrowResult
  node (if constructs then "constructor_type" else "function_type") start []

/-- Any type. -/
def anyType (g : Grammar) : Parse Tree :=
  g.functionType <|> do
    let start ← start
    let checked ← g.unionType
    let t ← peek
    let branches : Parse Tree := do
      let _ ← word "extends"
      let _ ← g.type
      let _ ← punct "?"
      let _ ← g.type
      let _ ← punct ":"
      let _ ← g.type
      node "conditional_type" start []
    if isWord t "extends" then branches <|> pure checked
    else return checked

end Grammar

end TypeScript

end SignalLint
