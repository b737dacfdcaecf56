import SignalLint.Proofs.Rule.Resolution
import SignalLint.Proofs.Tree.Contributions
import SignalLint.Proofs.Tree.FirstDeclaration
import SignalLint.Rule.PreferSignals

/-!
# An initializer in parentheses

Parentheses are not read, so a variable whose initializer is put in parentheses is declared with the
same initializer as before. There is one exception. Whether a declarator declares a function is
decided by the node that it holds as its value, parentheses and all, so a function in parentheses is
no function: its name leaves the functions and enters the variables.

* `ParenthesizesInitializer` — what is done to a declarator, and `Replaces` — to a tree that has it.
* `differIn_contributions` — the tree adds what it added, except that the declarator may declare
  something else (`initializerEntry`).
* `DeclarationIndex.AgreeBesides` — two indexes with the same entries but for one name; they give
  the same symbol to every expression whose resolution does not come to ask for the name
  (`AgreeBesides.resolve`).

The main statement, `symbol?_parenthesizesInitializer`, says for which initializers nothing changes,
and what changes for the others. `symbol?_call_ne_of_parenthesized_arrow` is one of those.
-/

namespace SignalLint

namespace Tree

/-! ### What is done to the tree -/

/-- A bare parenthesis, or a comment. -/
def IsParenthesis (t : Tree) : Prop :=
  t.children = [] ∧ (t.named = false ∧ t.kind ∈ ["(", ")"] ∨ t.kind = "comment")

/-- The declarator of a plain name gets parentheses around its initializer. -/
inductive ParenthesizesInitializer (name value : Tree) : Tree → Tree → Prop where
  | intro {d d' : Tree} {span : Span} {before after : List Tree}
      (kind : d.kind = "variable_declarator") (notTypes : d.field ≠ some "type_arguments")
      (named : d.child? "name" = some name) (plain : name.kind = "identifier")
      (valued : d.child? "value" = some value) (operand : value.IsOperand)
      (padding : ∀ p ∈ before ++ after, p.IsParenthesis)
      (replaced : ReplacesChild value (value.parenthesized span before after) d d')
      (enclosed : d'.child? "value" = some (value.parenthesized span before after)) :
      ParenthesizesInitializer name value d d'

/-- A tree with `d'` in one place where it had `d`. -/
def Replaces (d d' : Tree) : Tree → Tree → Prop :=
  Within (fun _ _ => True) fun t t' => t = d ∧ t' = d'

/-- The variable that a declarator declares with an initializer. -/
def variableEntry (source : Bytes) (d name value : Tree) : Contribution :=
  .variable (name.text source) (d.declaredTypeAt source "type") (some (value.toExpression source))

/-- The function that a declarator declares with an initializer. -/
def functionEntry (source : Bytes) (name value : Tree) : Contribution :=
  .function (name.text source) (value.returnType source)

/-- What a declarator declares with an initializer: a function if the initializer is one, and a
variable if not. -/
def initializerEntry (source : Bytes) (d name value : Tree) : Contribution :=
  if Visit.functionValueKinds.contains value.kind then functionEntry source name value
  else variableEntry source d name value

/-! ### What the declarator adds -/

section Declarator

variable {source : Bytes} {as bs : List Tree} {d d' name value root root' : Tree}

theorem IsParenthesis.isPadding {t : Tree} (h : t.IsParenthesis) : t.IsPadding :=
  h.2.imp And.left id

/-- Parentheses and comments add nothing to a unit. -/
theorem contribution?_of_kind_mem {v : Visit}
    (h : v.tree.kind ∈ ["(", ")", "comment", "parenthesized_expression"]) :
    v.contribution? source = none := by
  simp only [List.mem_cons, List.not_mem_nil, or_false] at h
  unfold Visit.contribution?
  rcases h with h | h | h | h <;> rw [isClass, h] <;> rfl

theorem IsParenthesis.contributionsUnder {t : Tree} (h : t.IsParenthesis) :
    t.contributionsUnder source as = [] := by
  obtain ⟨hchildren, hkind⟩ := h
  have hmem : t.kind ∈ ["(", ")", "comment", "parenthesized_expression"] := by
    simp only [List.mem_cons, List.not_mem_nil, or_false] at hkind ⊢
    tauto
  rw [contributionsUnder_eq, contribution?_of_kind_mem hmem, hchildren]
  rfl

/-- **A tree in parentheses adds what the tree adds.** -/
theorem contributionsUnder_parenthesized {t : Tree} {span : Span} {before after : List Tree}
    (hpadding : ∀ p ∈ before ++ after, p.IsParenthesis)
    (habove : SameAbove source as (t.parenthesized span before after :: bs)) :
    (t.parenthesized span before after).contributionsUnder source bs =
      t.contributionsUnder source as := by
  have hnothing : ∀ ps : List Tree, (∀ p ∈ ps, p.IsParenthesis) → ∀ above,
      ps.flatMap (Tree.contributionsUnder source above) = [] := fun ps hps above =>
    List.flatMap_eq_nil_iff.2 fun p hp => (hps p hp).contributionsUnder
  rw [contributionsUnder_eq, contribution?_of_kind_mem (by simp), children_parenthesized,
    List.flatMap_append, List.flatMap_cons,
    hnothing before fun p hp => hpadding p (List.mem_append_left _ hp),
    hnothing after fun p hp => hpadding p (List.mem_append_right _ hp),
    contributionsUnder_withField habove, List.append_nil]
  rfl

theorem contribution?_of_initializer (hkind : d.kind = "variable_declarator")
    (hname : d.child? "name" = some name) (hplain : name.kind = "identifier")
    (hvalue : d.child? "value" = some value) :
    Visit.contribution? ⟨d, as⟩ source = some (initializerEntry source d name value) := by
  rw [Visit.contribution?_of_variableDeclarator hkind, Visit.variableContribution?, hname, hvalue,
    initializerEntry]
  simp only [hplain, bne_self_eq_false, Bool.false_eq_true, if_false]
  split_ifs <;> rfl

/-- To the nodes above it the declarator is the same. -/
theorem ParenthesizesInitializer.sameUse (h : ParenthesizesInitializer name value d d') :
    SameUse source d d' := by
  obtain ⟨kind, notTypes, -, -, valued, operand, padding, replaced, -⟩ := h
  have hfield : value.field = some "value" := field_of_child? valued
  have hreading : SameReading source d d' :=
    SameReading.of_parenthesized replaced operand (fun p hp => (padding p hp).isPadding)
      (by simp [kind]) (by simp [kind]) notTypes
  refine ⟨hreading, ?_, ?_⟩
  · exact toTypeName_congr_of_kind_notMem (by simp [kind]) replaced.kind replaced.span
  · exact declaredTypeAt_of_replacesChild replaced rfl fun hreturn =>
      absurd (hfield.symm.trans hreturn) (by decide)

/-- **What the declarator adds** is a variable now, whatever it was. What stands below it adds the
same. -/
theorem ParenthesizesInitializer.differIn (h : ParenthesizesInitializer name value d d')
    (habove : SameAbove source as bs) :
    DifferIn [initializerEntry source d name value] [variableEntry source d name value]
      (d.contributionsUnder source as) (d'.contributionsUnder source bs) := by
  obtain ⟨kind, -, named, plain, valued, operand, padding, replaced, enclosed⟩ := h
  have hkind : d'.kind = "variable_declarator" := replaced.kind.trans kind
  have hfield : value.field = some "value" := field_of_child? valued
  -- the parentheses stand under the field of the value, and all other fields hold what they held
  have hchild : ∀ f, f ≠ "value" → d'.child? f = d.child? f := fun f hf => by
    have hheld := replaced.map_child? (g := id) (f := f) rfl fun h =>
      absurd (Option.some.inj (hfield.symm.trans h)).symm hf
    rwa [Option.map_id, id, id] at hheld
  have hown : Visit.contribution? ⟨d', bs⟩ source = some (variableEntry source d name value) := by
    have htype : d'.declaredTypeAt source "type" = d.declaredTypeAt source "type" := by
      rw [declaredTypeAt, hchild "type" (by decide), declaredTypeAt]
    rw [contribution?_of_initializer hkind ((hchild "name" (by decide)).trans named) plain enclosed,
      initializerEntry, if_neg (by simp [Visit.functionValueKinds]), variableEntry, variableEntry,
      htype, toExpression_parenthesized operand fun p hp => (padding p hp).isPadding]
  have hbelow : SameAbove source (d :: as) (d' :: bs) := by
    refine habove.cons replaced.kind replaced.span ?_
    rw [className?, hchild "name" (by decide), className?]
  -- what the declarator itself adds comes first, and then what its children add
  obtain ⟨front, back, heq, heq'⟩ := replaced.children
  refine ⟨[], d.children.flatMap (contributionsUnder source (d :: as)), ?_, ?_⟩
  · rw [contributionsUnder_eq, contribution?_of_initializer kind named plain valued]
    rfl
  · rw [contributionsUnder_eq, hown, heq, heq', List.flatMap_append, List.flatMap_cons,
      List.flatMap_append, List.flatMap_cons, flatMap_contributionsUnder_congr hbelow front,
      flatMap_contributionsUnder_congr hbelow back,
      contributionsUnder_parenthesized padding
        (hbelow.insert (by rw [kind]; decide) (by simp) rfl)]
    rfl

/-- A whole tree adds what it added, but for the entry of the declarator. -/
theorem ParenthesizesInitializer.differIn_contributions
    (h : ParenthesizesInitializer name value d d') (hroot : Replaces d d' root root')
    (source : Bytes) :
    DifferIn [initializerEntry source d name value] [variableEntry source d name value]
      (root.contributions source) (root'.contributions source) := by
  rw [contributions_eq_contributionsUnder, contributions_eq_contributionsUnder]
  refine differIn_contributionsUnder_of_within ?_ ?_ hroot (SameAbove.refl source [])
  · rintro t t' ⟨rfl, rfl⟩
    exact h.sameUse
  · rintro t t' as bs ⟨rfl, rfl⟩ habove
    exact h.differIn habove

end Declarator

end Tree

/-! ### Indexes that agree but for one name -/

namespace DeclarationIndex

/-- **Agreement besides one name**: two indexes have the same classes, members and methods, and the
same functions and variables but for one name. -/
structure AgreeBesides (name : String) (index other : DeclarationIndex) : Prop where
  functions : ∀ n, n ≠ name → other.functions.get? n = index.functions.get? n
  bindings : ∀ n, n ≠ name → other.bindings.get? n = index.bindings.get? n
  classes : other.classes = index.classes
  members : other.members = index.members
  methods : other.methods = index.methods

/-- Resolving an expression comes to ask for a name: the expression is the name or a call of it, or
leads to an initializer that comes to ask for it. -/
inductive AsksFor (index : DeclarationIndex) (name : String) : Expression → Prop where
  | itself {span : Span} : AsksFor index name (.identifier name span)
  | call {nameSpan span : Span} {arguments : List Expression} {typeArguments : List TypeNode} :
      AsksFor index name (.call (.identifier name nameSpan) arguments typeArguments span)
  | hop {e value : Expression} (hop : index.Hop e value) (asks : AsksFor index name value) :
      AsksFor index name e

namespace AgreeBesides

variable {name : String} {index other : DeclarationIndex} {e : Expression}

theorem member? (h : index.AgreeBesides name other) (offset : Int) :
    other.member? offset = index.member? offset := by
  funext n
  rw [DeclarationIndex.member?, DeclarationIndex.member?, enclosingClass?, enclosingClass?,
    h.classes, h.members]

theorem methodType? (h : index.AgreeBesides name other) (offset : Int) :
    other.methodType? offset = index.methodType? offset := by
  funext n
  rw [DeclarationIndex.methodType?, DeclarationIndex.methodType?, enclosingClass?, enclosingClass?,
    h.classes, h.methods]

theorem declaration? (h : index.AgreeBesides name other) (he : ¬ index.AsksFor name e) :
    other.declaration? e = index.declaration? e := by
  unfold DeclarationIndex.declaration?
  split
  · rename_i n span
    exact h.bindings n fun heq => he (heq ▸ .itself)
  · rw [h.member?]

theorem returnType? {callee : Expression} {arguments : List Expression}
    {typeArguments : List TypeNode} {span : Span} (h : index.AgreeBesides name other)
    (he : ¬ index.AsksFor name (.call callee arguments typeArguments span)) :
    other.returnType? callee = index.returnType? callee := by
  unfold DeclarationIndex.returnType?
  split
  · rename_i n nameSpan
    rw [functionType?, functionType?, h.functions n fun heq => he (heq ▸ .call)]
  · rw [h.methodType?]

/-- **One step** at an expression that does not ask for the name comes to the same. -/
theorem step (h : index.AgreeBesides name other) (he : ¬ index.AsksFor name e) :
    other.step e = index.step e := by
  rw [step_eq, step_eq]
  cases e with
  | call callee arguments typeArguments span => simp only [h.returnType? he]
  | construct callee arguments typeArguments span => cases callee <;> rfl
  | _ => simp only [h.declaration? he]

/-- **Two resolutions side by side** take the same steps, as long as none asks for the name. -/
theorem resolve (h : index.AgreeBesides name other) (he : ¬ index.AsksFor name e) (hops : Nat) :
    other.resolve hops e = index.resolve hops e := by
  induction hops generalizing e with
  | zero => rw [DeclarationIndex.resolve, DeclarationIndex.resolve, h.step he]
  | succ hops ih =>
    rw [DeclarationIndex.resolve, DeclarationIndex.resolve, h.step he]
    cases hstep : index.step e with
    | done symbol => rfl
    | follow value =>
      -- what asks for the name further on asks for it from here
      exact ih fun hasks => he (.hop (step_eq_follow_iff.1 hstep) hasks)

end AgreeBesides

/-- A call of a name has the symbol of the return type that the name is declared with. -/
theorem symbol?_call (index : DeclarationIndex) (name : String) (nameSpan span : Span)
    (arguments : List Expression) (typeArguments : List TypeNode) :
    index.symbol? (.call (.identifier name nameSpan) arguments typeArguments span) =
      (index.functionType? name).bind TypeNode.symbol? := rfl

/-- A name is the function that was entered under it first. -/
theorem functions_get?_ofContributions (cs : List Contribution) (name : String) :
    (ofContributions cs).functions.get? name =
      ((cs.filterMap Contribution.function?).find? (·.1 = name)).map (·.2) := by
  rw [ofContributions, functions_foldl_add, Table.get?_foldl_insertNew, Table.get?_empty,
    Option.none_or]

theorem bindings_get?_ofContributions (cs : List Contribution) (name : String) :
    (ofContributions cs).bindings.get? name =
      ((cs.filterMap Contribution.binding?).find? (·.1 = name)).map (·.2) := by
  rw [ofContributions, bindings_foldl_add, Table.get?_foldl_insertNew, Table.get?_empty,
    Option.none_or]

section FunctionToVariable

variable {name : String} {returnType declaredType : Option TypeNode} {value : Option Expression}
  {cs cs' : List Contribution}

/-- Entering a name as a variable and not as a function is noticed at this name only. -/
theorem agreeBesides_of_differIn
    (h : Tree.DifferIn [.function name returnType] [.variable name declaredType value] cs cs') :
    (ofContributions cs).AgreeBesides name (ofContributions cs') := by
  -- looking for another name passes over both entries, and the other tables have no use for them
  refine ⟨fun n hn => ?_, fun n hn => ?_, ?_, ?_, ?_⟩
  · obtain ⟨before, after, rfl, rfl⟩ := h
    have hskip : ¬ name = n := fun heq => hn heq.symm
    rw [functions_get?_ofContributions, functions_get?_ofContributions]
    simp [List.filterMap_append, Contribution.function?, List.find?_append, hskip]
  · obtain ⟨before, after, rfl, rfl⟩ := h
    have hskip : ¬ name = n := fun heq => hn heq.symm
    rw [bindings_get?_ofContributions, bindings_get?_ofContributions]
    simp [List.filterMap_append, Contribution.binding?, List.find?_append, hskip]
  · rw [ofContributions, classes_foldl_add, ofContributions, classes_foldl_add,
      h.filterMap_eq (f := Contribution.classScope?) rfl]
  · rw [ofContributions, members_foldl_add, ofContributions, members_foldl_add,
      h.filterMap_eq (f := Contribution.member?) rfl]
  · rw [ofContributions, methods_foldl_add, ofContributions, methods_foldl_add,
      h.filterMap_eq (f := Contribution.method?) rfl]

/-- If nothing else enters the name as a function, it is one before and none after. -/
theorem functions_get?_of_differIn
    (h : Tree.DifferIn [.function name returnType] [.variable name declaredType value] cs cs')
    (hnone : (ofContributions cs').functions.get? name = none) :
    (ofContributions cs).functions.get? name = some returnType := by
  obtain ⟨before, after, rfl, rfl⟩ := h
  rw [functions_get?_ofContributions] at hnone ⊢
  simp only [List.filterMap_append, List.find?_append, Option.map_eq_none_iff,
    Option.or_eq_none_iff] at hnone
  simp [List.filterMap_append, Contribution.function?, List.find?_append, hnone.1.1]

end FunctionToVariable

end DeclarationIndex

/-! ### What parentheses around an initializer change -/

/-- A unit shows of its tree what the tree adds, and no more. -/
theorem SourceUnit.ofTree_congr {root root' : Tree} {source : Bytes}
    (h : root'.contributions source = root.contributions source) (path language : String)
    (hasErrors : Bool) :
    SourceUnit.ofTree path language source root' hasErrors =
      SourceUnit.ofTree path language source root hasErrors := by
  rw [SourceUnit.ofTree, h]
  rfl

section Main

variable {name value d d' root root' : Tree}

/-- **An initializer in parentheses.** Put parentheses around the initializer of a declarator with a
plain name, anywhere in a tree.

If the initializer is no function, then every expression has the symbol that it had, and so the rule
does what it did. If it is a function, then the entry of the declarator moves from the functions to
the variables, and nothing else moves: the nodes that the rule looks at are the same, and so are the
symbols of all expressions that do not come to ask for the name. A call of the name, though, had the
declared return type of the function and has none then, unless the name is declared as a function
elsewhere. -/
theorem symbol?_parenthesizesInitializer (h : Tree.ParenthesizesInitializer name value d d')
    (hroot : Tree.Replaces d d' root root') (path language : String) (source : Bytes)
    (hasErrors : Bool) :
    let unit := SourceUnit.ofTree path language source root hasErrors
    let unit' := SourceUnit.ofTree path language source root' hasErrors
    let before := TypeServices.ofDeclarations unit.declarations
    let after := TypeServices.ofDeclarations unit'.declarations
    let called := name.text source
    (value.kind ∉ Visit.functionValueKinds →
      (∀ e, after.symbol? e = before.symbol? e) ∧
        ∀ options types, runRule options unit' types = runRule options unit types) ∧
    (value.kind ∈ Visit.functionValueKinds →
      Tree.DifferIn [.function called (value.returnType source)]
          [.variable called (d.declaredTypeAt source "type") (some (value.toExpression source))]
          (root.contributions source) (root'.contributions source) ∧
        unit'.nodes = unit.nodes ∧
        (∀ e, ¬ unit.declarations.AsksFor called e → after.symbol? e = before.symbol? e) ∧
        (unit'.declarations.functions.get? called = none →
          ∀ nameSpan arguments typeArguments span,
            let call := Expression.call (.identifier called nameSpan) arguments typeArguments span
            before.symbol? call = (value.returnType source).bind TypeNode.symbol? ∧
              after.symbol? call = none)) := by
  intro unit unit' before after called
  have hdiffer := h.differIn_contributions hroot source
  constructor
  · intro hvalue
    have hunit : unit' = unit := by
      -- the declarator declares the same variable, so the list of entries is the same one
      rw [Tree.initializerEntry, if_neg (by simpa using hvalue)] at hdiffer
      obtain ⟨front, back, heq, heq'⟩ := hdiffer
      exact SourceUnit.ofTree_congr (heq'.trans heq.symm) path language hasErrors
    refine ⟨fun e => ?_, fun options types => by rw [hunit]⟩
    change (TypeServices.ofDeclarations unit'.declarations).symbol? e = _
    rw [hunit]
  · intro hvalue
    rw [Tree.initializerEntry, if_pos (List.contains_iff_mem.2 hvalue)] at hdiffer
    have hagree : unit.declarations.AgreeBesides called unit'.declarations :=
      DeclarationIndex.agreeBesides_of_differIn hdiffer
    refine ⟨hdiffer, ?_, fun e he => hagree.resolve he maxHops, fun hnone => ?_⟩
    · exact hdiffer.filterMap_eq (f := Contribution.node?) rfl
    · intro nameSpan arguments typeArguments span call
      have hfunction : unit.declarations.functions.get? called =
          some (value.returnType source) :=
        DeclarationIndex.functions_get?_of_differIn hdiffer hnone
      constructor
      · change unit.declarations.symbol? call = _
        rw [DeclarationIndex.symbol?_call, DeclarationIndex.functionType?, hfunction]
        rfl
      · change unit'.declarations.symbol? call = _
        rw [DeclarationIndex.symbol?_call, DeclarationIndex.functionType?, hnone]
        rfl

end Main

/-! ### Two declarators -/

/-- The tree of `const make = (…);` without the parentheses, as far as the second `=`. -/
def makeDeclarator (value : Tree) : Tree :=
  .node "variable_declarator" true { startByte := 6, endByte := 38 } none
    [.leaf "identifier" true 6 10 (some "name"), .leaf "=" false 11 12 none, value]

def makeProgram (declarator : Tree) : Tree :=
  .node "program" true { endByte := 39 } none [
    .node "lexical_declaration" true { endByte := 39 } none
      [.leaf "const" false 0 5 (some "kind"), declarator, .leaf ";" false 38 39 none]]

/-- An initializer in parentheses right around it. -/
def inParentheses (value : Tree) : Tree :=
  value.parenthesized { startByte := 13, endByte := 38 }
    [.leaf "(" false 13 14 none] [.leaf ")" false 37 38 none]

/-- The function `(): Signal<number> => 0`. -/
def signalArrow : Tree :=
  .node "arrow_function" true { startByte := 14, endByte := 37 } (some "value") [
    .node "formal_parameters" true { startByte := 14, endByte := 16 } (some "parameters")
      [.leaf "(" false 14 15 none, .leaf ")" false 15 16 none],
    .node "type_annotation" true { startByte := 16, endByte := 32 } (some "return_type") [
      .leaf ":" false 16 17 none,
      .node "generic_type" true { startByte := 18, endByte := 32 } none [
        .leaf "type_identifier" true 18 24 (some "name"),
        .node "type_arguments" true { startByte := 24, endByte := 32 } (some "type_arguments") [
          .leaf "<" false 24 25 none, .leaf "predefined_type" true 25 31 none,
          .leaf ">" false 31 32 none]]],
    .leaf "=>" false 33 35 none, .leaf "number" true 36 37 (some "body")]

/-- Putting parentheses around what `makeDeclarator` declares. -/
theorem parenthesizesInitializer_makeDeclarator (value : Tree) (hfield : value.field = some "value")
    (hvalue : value.IsOperand) :
    Tree.ParenthesizesInitializer (.leaf "identifier" true 6 10 (some "name")) value
      (makeDeclarator value) (makeDeclarator (inParentheses value)) := by
  have hheld : ∀ v : Tree, v.field = some "value" → (makeDeclarator v).child? "value" = some v := by
    intro v hv
    change List.find? (fun c : Tree => c.field == some "value") [_, _, v] = some v
    rw [List.find?_cons_of_neg (by decide), List.find?_cons_of_neg (by decide),
      List.find?_cons_of_pos (by rw [hv]; decide)]
  refine .intro rfl nofun rfl rfl (hheld value hfield) hvalue ?_
    ⟨rfl, rfl, rfl, rfl, [_, _], [], rfl, rfl⟩ (hheld _ hfield)
  simp [Tree.leaf, Tree.IsParenthesis, Tree.children, Tree.named, Tree.kind]

theorem replaces_makeProgram (value : Tree) :
    Tree.Replaces (makeDeclarator value) (makeDeclarator (inParentheses value))
      (makeProgram (makeDeclarator value)) (makeProgram (makeDeclarator (inParentheses value))) :=
  .inside trivial ⟨rfl, rfl, rfl, rfl, [], [], rfl, rfl⟩
    (.inside trivial ⟨rfl, rfl, rfl, rfl, [_], [_], rfl, rfl⟩ (.here ⟨rfl, rfl⟩))

/-- Parentheses around the initializer of `const make = (build);` change nothing. -/
theorem symbol?_parenthesizesInitializer_build :
    let source := Utf8.encode "const make = (                build    );"
    let build := Tree.leaf "identifier" true 29 34 (some "value")
    let unit (value : Tree) := SourceUnit.ofTree "a.ts" "typescript" source
      (makeProgram (makeDeclarator value)) false
    build.kind ∉ Visit.functionValueKinds ∧
      (∀ e, (TypeServices.ofDeclarations (unit (inParentheses build)).declarations).symbol? e =
        (TypeServices.ofDeclarations (unit build).declarations).symbol? e) ∧
      runRule .default (unit (inParentheses build)) .declarations =
        runRule .default (unit build) .declarations := by
  intro source build unit
  have hkind : build.kind ∉ Visit.functionValueKinds := by decide
  have hsame := (symbol?_parenthesizesInitializer
    (parenthesizesInitializer_makeDeclarator build rfl (by decide))
    (replaces_makeProgram build) "a.ts" "typescript" source false).1 hkind
  exact ⟨hkind, hsame.1, hsame.2 .default .declarations⟩

/-- **A function in parentheses is no function**: `make()` is a `Signal` without the parentheses and
nothing with them. -/
theorem symbol?_call_ne_of_parenthesized_arrow :
    let source := Utf8.encode "const make = ((): Signal<number> => 0);"
    let before := makeProgram (makeDeclarator signalArrow)
    let after := makeProgram (makeDeclarator (inParentheses signalArrow))
    let symbol? (root : Tree) (e : Expression) :=
      (TypeServices.ofDeclarations
        (SourceUnit.ofTree "a.ts" "typescript" source root false).declarations).symbol? e
    let call := Expression.call (.identifier "make" {}) [] [] {}
    (∃ name d d', Tree.ParenthesizesInitializer name signalArrow d d' ∧
        Tree.Replaces d d' before after) ∧
      symbol? before call = some "Signal" ∧ symbol? after call = none := by
  intro source before after symbol? call
  have hparenthesizes := parenthesizesInitializer_makeDeclarator signalArrow rfl (by decide)
  have hname : Span.text { startByte := 6, endByte := 10 } source = "make" := by decide +kernel
  have hreturn : (signalArrow.returnType source).bind TypeNode.symbol? = some "Signal" := by
    -- the annotation of the return type is read as far as the name of the generic type
    have htype : signalArrow.returnType source = some (.reference
        (Tree.toTypeName source (.leaf "type_identifier" true 18 24 (some "name")))
        [Tree.toType source (.leaf "predefined_type" true 25 31 none)]
        { startByte := 18, endByte := 32 }) := by
      change some (Tree.toType source _) = _
      rw [Tree.toType_eq]
      rfl
    have htext : Span.text { startByte := 18, endByte := 24 } source = "Signal" := by
      decide +kernel
    rw [htype, Tree.toTypeName_of_kind_notMem (by decide), ← htext]
    rfl
  have hbefore : before.contributions source =
      [.function "make" (signalArrow.returnType source)] := by
    rw [Tree.contributions_eq_contributionsUnder, ← hname]
    rfl
  have hafter : ∃ type value, after.contributions source = [.variable "make" type value] := by
    rw [Tree.contributions_eq_contributionsUnder, ← hname]
    exact ⟨_, _, rfl⟩
  refine ⟨⟨_, _, _, hparenthesizes, replaces_makeProgram signalArrow⟩, ?_, ?_⟩
  · change ((DeclarationIndex.ofContributions (before.contributions source)).functionType?
      "make").bind TypeNode.symbol? = some "Signal"
    rw [hbefore, ← hreturn]
    rfl
  · obtain ⟨type, value, heq⟩ := hafter
    change ((DeclarationIndex.ofContributions (after.contributions source)).functionType?
      "make").bind TypeNode.symbol? = none
    rw [heq]
    rfl

end SignalLint
