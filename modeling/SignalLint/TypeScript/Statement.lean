import SignalLint.TypeScript.Class

/-!
# Statements and declarations
-/

namespace SignalLint

namespace TypeScript

open Parse

/-- The end of a statement: a semicolon, if there is one. -/
def ending : Parse Unit := discard (punct? ";")

namespace Grammar

/-! ### Variables and functions -/

/-- A variable with its declared type and its initializer. -/
def declarator (g : Grammar) : Parse Tree := do
  let start ← start
  let p ← g.pattern
  let _ ← punct? "!"
  let type ← attempt g.typed
  let value ← attempt g.initializer
  node "variable_declarator" start
    (held "name" p :: (type.map (held "type")).toList ++ (value.map (held "value")).toList)

/-- The word that opens a declaration of variables. -/
def variableWord : Parse Token := do
  let t ← token
  guard (["var", "let", "const"].any (isWord t))
  let p ← peek
  guard (p.kind = .word || isPunct p "[" || isPunct p "\x7b")
  guard (!(["enum", "in", "instanceof"].any (isWord p)))
  return t

/-- `const a = 1, b` -/
def variableList (g : Grammar) : Parse Tree := do
  let t ← variableWord
  let ds ← commaList g.declarator
  node (if t.text = "var" then "variable_declaration" else "lexical_declaration") t.start ds

/-- A function with a name, with or without a body. -/
def functionDeclaration (g : Grammar) : Parse Tree := do
  let start ← start
  let _ ← word? "async"
  let _ ← word "function"
  let generator ← punct? "*"
  let own ← name "identifier"
  let parts ← g.signature
  if isPunct (← peek) "\x7b" then
    let body ← g.block
    node (if generator then "generator_function_declaration" else "function_declaration") start
      (held "name" own :: parts ++ [held "body" body])
  else
    ending
    node "function_signature" start (held "name" own :: parts)

/-! ### Types and modules -/

/-- `interface A<T> extends B { … }` -/
def interfaceDeclaration (g : Grammar) : Parse Tree := do
  let t ← word "interface"
  let n ← peek
  guard (!n.afterBreak)
  let own ← name "type_identifier"
  let _ ← attempt g.typeParameters
  let _ ← attempt (do let _ ← word "extends"; commaList g.type)
  let body ← g.objectType
  node "interface_declaration" t.start [held "name" own, held "body" body]

/-- `type A<T> = B` -/
def typeAlias (g : Grammar) : Parse Tree := do
  let t ← word "type"
  let n ← peek
  guard (!n.afterBreak)
  let own ← name "type_identifier"
  let _ ← attempt g.typeParameters
  let _ ← punct "="
  let value ← g.type
  ending
  node "type_alias_declaration" t.start [held "name" own, held "value" value]

/-- `enum A { B = 1 }` -/
def enumDeclaration (g : Grammar) : Parse Tree := do
  let start ← start
  let _ ← word? "const"
  let _ ← word "enum"
  let own ← name "identifier"
  let b ← punct "\x7b"
  let ms ← inside (commaSeparated (do
    let start ← Parse.start
    let key ← g.propertyName
    match ← attempt g.initializer with
    | none => return key
    | some value => node "enum_assignment" start [held "name" key, held "value" value]) "\x7d")
  let body ← node "enum_body" b.start ms
  node "enum_declaration" start [held "name" own, held "body" body]

/-- `namespace A.B { … }`, `module 'a' { … }` or `global { … }` -/
def moduleDeclaration (g : Grammar) : Parse Tree := do
  let t ← token
  let n ← peek
  if isWord t "global" then
    guard (isPunct n "\x7b")
    let body ← g.block
    node "internal_module" t.start [body]
  else
    guard (isWord t "namespace" || isWord t "module")
    guard (!n.afterBreak)
    if n.kind = .string then goTo n.stop
    else
      guard (isName n)
      discard dottedExpression
    if isPunct (← peek) "\x7b" then
      let body ← g.block
      node "internal_module" t.start [held "body" body]
    else
      guard (n.kind = .string)
      ending
      node "module" t.start []

/-- A declaration that no value is needed for, behind `declare`. -/
def ambient (g : Grammar) (declaration : Parse Tree) : Parse Tree := do
  let t ← word "declare"
  let n ← peek
  guard (!n.afterBreak && (n.kind = .word || isPunct n "@"))
  let d ← declaration <|> g.moduleDeclaration
  node "ambient_declaration" t.start [d]

/-- Any declaration of a class, a function, variables, a type or a module. -/
def declaration (g : Grammar) : Parse Tree := do
  let t ← peek
  if isPunct t "@" then g.classOf true
  else
    guard (t.kind = .word)
    match t.text with
    | "class" | "abstract" => g.classOf true
    | "function" | "async" => g.functionDeclaration
    | "interface" => g.interfaceDeclaration
    | "type" => g.typeAlias
    | "enum" => g.enumDeclaration
    | "namespace" | "module" => g.moduleDeclaration
    | "const" => g.enumDeclaration <|> (do let v ← g.variableList; ending; return v)
    | "var" | "let" => do
      let v ← g.variableList
      ending
      return v
    | _ => fail

/-! ### Imports and exports -/

/-- `import x = a.b` or `import x = require('y')` -/
def importAlias (g : Grammar) : Parse Unit := do
  let _ ← word? "type"
  let _ ← name "identifier"
  let _ ← punct "="
  let _ ← g.sequence
  ending

/-- The rest of an import or export up to the end of its clause: names, stars and lists in braces,
then the module and its attributes. -/
def moduleClause (g : Grammar) : Parse Unit := do
  let _ ← many do
    let t ← peek
    if isPunct t "\x7b" then
      goTo t.stop
      let _ ← many do
        let p ← token
        guard (!isPunct p "\x7d" && p.kind ≠ .done)
      discard (punct "\x7d")
    else
      guard (isPunct t "*" || isPunct t "," || (t.kind = .word && !isWord t "from"))
      goTo t.stop
  if ← word? "from" then
    let _ ← tokenOf .string
    if (← word? "with") || (← word? "assert") then
      let _ ← g.object
  ending

/-- `import a, { b } from 'c'` -/
def importDeclaration (g : Grammar) : Parse Tree := do
  let t ← word "import"
  let n ← peek
  guard (!isPunct n "(" && !isPunct n ".")
  let bare : Parse Unit := do
    let _ ← tokenOf .string
    if (← word? "with") || (← word? "assert") then
      let _ ← g.object
    ending
  bare <|> g.importAlias <|> g.moduleClause
  node "import_statement" t.start []

/-- An export of a declaration, of a value, or of names. -/
def exportDeclaration (g : Grammar) : Parse Tree := do
  let start ← start
  let ds ← g.decorators
  let _ ← word "export"
  let declared : Parse Tree := do
    let d ← g.ambient g.declaration <|> g.declaration
    node "export_statement" start (ds ++ [held "declaration" d])
  let byDefault : Parse Tree := do
    let _ ← word "default"
    let d ← g.declaration <|> do
      let e ← g.anyExpression
      ending
      return e
    node "export_statement" start (ds ++ [held "value" d])
  let assigned : Parse Tree := do
    let _ ← punct "="
    let e ← g.anySequence
    ending
    node "export_statement" start [e]
  let imported : Parse Tree := do
    let d ← g.importDeclaration
    node "export_statement" start [d]
  let names : Parse Tree := do
    g.moduleClause
    node "export_statement" start []
  declared <|> byDefault <|> assigned <|> imported <|> names

/-! ### Control flow -/

/-- `(condition)` -/
def condition (g : Grammar) : Parse Tree := g.parenthesized

/-- `if (a) b else c` -/
def ifStatement (g : Grammar) : Parse Tree := do
  let t ← word "if"
  let c ← g.condition
  let yes ← g.statement
  let no ← attempt (do let _ ← word "else"; g.statement)
  node "if_statement" t.start (c :: yes :: no.toList)

/-- The head of a loop over values: what each is bound to, and where they come from. -/
def iterationHead (g : Grammar) : Parse (List Tree) := do
  let bound : Parse Tree := do
    let _ ← variableWord
    g.pattern
  let assigned : Parse Tree :=
    (g.chain (g.classOf false)).under fun env => { env with allowIn := false }
  let left ← bound <|> assigned
  let t ← token
  guard (isWord t "of" || isWord t "in")
  let right ← g.anySequence
  return [held "left" left, held "right" right]

/-- The head of a counting loop. -/
def countingHead (g : Grammar) : Parse (List Tree) := do
  let first ← attempt ((g.variableList <|> g.anySequence).under fun env =>
    { env with allowIn := false })
  let _ ← punct ";"
  let condition ← attempt g.anySequence
  let _ ← punct ";"
  let step ← attempt g.anySequence
  return first.toList ++ condition.toList ++ step.toList

/-- A loop with a head in parentheses. -/
def forStatement (g : Grammar) : Parse Tree := do
  let t ← word "for"
  let _ ← word? "await"
  let _ ← punct "("
  let iteration : Parse (String × List Tree) := do
    let head ← g.iterationHead
    let _ ← punct ")"
    return ("for_in_statement", head)
  let counting : Parse (String × List Tree) := do
    let head ← g.countingHead
    let _ ← punct ")"
    return ("for_statement", head)
  let (kind, head) ← inside (iteration <|> counting)
  let body ← g.statement
  node kind t.start (head ++ [held "body" body])

/-- `while (a) b` -/
def whileStatement (g : Grammar) : Parse Tree := do
  let t ← word "while"
  let c ← g.condition
  let body ← g.statement
  node "while_statement" t.start [c, held "body" body]

/-- `do a while (b)` -/
def doStatement (g : Grammar) : Parse Tree := do
  let t ← word "do"
  let body ← g.statement
  let _ ← word "while"
  let c ← g.condition
  ending
  node "do_statement" t.start [held "body" body, c]

/-- `switch (a) { case b: c }` -/
def switchStatement (g : Grammar) : Parse Tree := do
  let t ← word "switch"
  let c ← g.condition
  let _ ← punct "\x7b"
  let cases ← inside <| many do
    let t ← token
    let label ←
      if isWord t "case" then pure [← g.anySequence]
      else
        guard (isWord t "default")
        pure []
    let _ ← punct ":"
    let body ← many do
      let p ← peek
      guard (!isPunct p "\x7d" && !isWord p "case" && p.kind ≠ .done)
      guard (!isWord p "default")
      g.statement
    node "switch_case" t.start (label ++ body)
  let _ ← punct "\x7d"
  node "switch_statement" t.start (c :: cases)

/-- `try { … } catch (e) { … } finally { … }` -/
def tryStatement (g : Grammar) : Parse Tree := do
  let t ← word "try"
  let body ← g.block
  let handler ← attempt do
    let t ← word "catch"
    let parameter ← attempt do
      let _ ← punct "("
      let p ← g.pattern
      let _ ← attempt g.typed
      let _ ← punct ")"
      return p
    let body ← g.block
    node "catch_clause" t.start (parameter.toList ++ [body])
  let finalizer ← attempt do
    let t ← word "finally"
    let body ← g.block
    node "finally_clause" t.start [body]
  node "try_statement" t.start (body :: handler.toList ++ finalizer.toList)

/-- A word with an optional value behind it on the same line. -/
def jump (g : Grammar) (kind : String) : Parse Tree := do
  let t ← token
  let p ← peek
  let value ←
    if p.afterBreak || !startsExpression p then pure none
    else attempt g.anySequence
  ending
  node kind t.start value.toList

/-- `label: statement` -/
def labelled (g : Grammar) : Parse Tree := do
  let t ← token
  guard (isName t)
  let _ ← punct ":"
  let s ← g.statement
  node "labeled_statement" t.start [s]

/-- An expression as a statement. -/
def expressionStatement (g : Grammar) : Parse Tree := do
  let start ← start
  let e ← g.anySequence
  ending
  node "expression_statement" start [e]

/-- Any statement. -/
def anyStatement (g : Grammar) : Parse Tree := do
  let t ← peek
  let otherwise : Parse Tree := g.labelled <|> g.expressionStatement
  if isPunct t "\x7b" then g.block
  else if isPunct t ";" then
    goTo t.stop
    leaf "empty_statement" t
  else if isPunct t "@" then g.exportDeclaration <|> g.declaration <|> otherwise
  else if t.kind ≠ .word then otherwise
  else
    match t.text with
    | "if" => g.ifStatement
    | "for" => g.forStatement
    | "while" => g.whileStatement
    | "do" => g.doStatement
    | "switch" => g.switchStatement
    | "try" => g.tryStatement
    | "return" => g.jump "return_statement"
    | "throw" => g.jump "throw_statement"
    | "break" => g.jump "break_statement"
    | "continue" => g.jump "continue_statement"
    | "debugger" => g.jump "debugger_statement"
    | "with" => do
      goTo t.stop
      let c ← g.condition
      let body ← g.statement
      node "with_statement" t.start [c, body]
    | "import" => g.importDeclaration <|> otherwise
    | "export" => g.exportDeclaration
    | "declare" => g.ambient g.declaration <|> otherwise
    | _ => g.declaration <|> otherwise

end Grammar

end TypeScript

end SignalLint
