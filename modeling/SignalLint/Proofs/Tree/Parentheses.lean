import Mathlib.Logic.Relation
import SignalLint.Proofs.Tree.Replacement

/-!
# Parentheses are not seen

Around every operand of an expression there may be parentheses, as many as one likes, and comments
in them. This module puts them there one pair at a time and says that the expression that is read
off the tree stays what it was, with all its spans.

* `OperandPosition` — where a node has operands: object, property and index of an access, callee,
  arguments, and what already stands in parentheses.
* `ParenthesizesOperand` — one operand of a node is put in parentheses; `AddsParentheses` — this at
  any depth of a tree, or around the whole tree.
* `toExpression_of_addsParentheses` — one pair is not read, and
  `toExpression_of_reflTransGen_addsParentheses` — no number of them is.

The way from an operand to the root does not lead through dotted names of types. These are the one
place where more is read of a node than its expression and its type, and they have no operands.
-/

namespace SignalLint

namespace Tree

/-! ### Where operands stand -/

/-- The fields of expressions that hold operands. -/
def operandFields : List (String × String) :=
  [("member_expression", "object"), ("member_expression", "property"),
    ("subscript_expression", "object"), ("subscript_expression", "index"),
    ("call_expression", "function"), ("new_expression", "constructor")]

/-- A child stands where an expression has an operand. A list of type arguments has none. -/
structure OperandPosition (t c : Tree) : Prop where
  notTypes : t.field ≠ some "type_arguments"
  place : t.kind ∈ ["arguments", "parenthesized_expression"] ∨
    ∃ f, c.field = some f ∧ (t.kind, f) ∈ operandFields

/-- One operand of a node is put in parentheses, with tokens and comments around it. -/
inductive ParenthesizesOperand : Tree → Tree → Prop where
  | intro {c t t' : Tree} {span : Span} {before after : List Tree} (position : OperandPosition t c)
      (operand : c.IsOperand) (padding : ∀ p ∈ before ++ after, p.IsPadding)
      (replaced : ReplacesChild c (c.parenthesized span before after) t t') :
      ParenthesizesOperand t t'

/-- One pair of parentheses is added: around the whole tree, or around an operand somewhere in it
outside of the names of types. -/
inductive AddsParentheses : Tree → Tree → Prop where
  | whole {t : Tree} {span : Span} {before after : List Tree} (operand : t.IsOperand)
      (padding : ∀ p ∈ before ++ after, p.IsPadding) :
      AddsParentheses t (t.parenthesized span before after)
  | inside {t t' : Tree}
      (added : Within (fun t c => ¬ IsTypeNamePart t c) ParenthesizesOperand t t') :
      AddsParentheses t t'

/-! ### Adding them -/

section

variable {source : Bytes} {c t t' : Tree}

/-- A node with operands is none of the nodes that read a child as a type. -/
theorem OperandPosition.kind_notMem (h : OperandPosition t c) :
    t.kind ∉ ["parenthesized_type", "generic_type", "nested_type_identifier",
      "type_annotation"] := by
  have hkinds : t.kind ∈ ["arguments", "parenthesized_expression"] ++ operandFields.map (·.1) := by
    rcases h.place with hlist | ⟨f, -, hfield⟩
    · exact List.mem_append_left _ hlist
    · exact List.mem_append_right _ (List.mem_map_of_mem hfield)
  intro htypes
  have hdisjoint : ∀ k ∈ ["arguments", "parenthesized_expression"] ++ operandFields.map (·.1),
      k ∉ ["parenthesized_type", "generic_type", "nested_type_identifier", "type_annotation"] := by
    decide
  exact hdisjoint t.kind hkinds htypes

/-- The operand of a call is its callee, and no list. -/
theorem OperandPosition.field_notMem (h : OperandPosition t c)
    (hcall : t.kind = "call_expression" ∨ t.kind = "new_expression") :
    c.field ∉ [some "arguments", some "type_arguments"] := by
  rcases h.place with hlist | ⟨f, hf, hfield⟩
  · rcases hcall with hcall | hcall <;> exact absurd hlist (by rw [hcall]; decide)
  · have hlists : ∀ place ∈ operandFields,
        some place.2 ∉ [some "arguments", some "type_arguments"] := by
      decide
    rw [hf]
    exact hlists _ hfield

/-- An operand in parentheses is not noticed from above. -/
theorem ParenthesizesOperand.sameReading (h : ParenthesizesOperand t t') :
    SameReading source t t' := by
  obtain ⟨position, operand, padding, replaced⟩ := h
  exact SameReading.of_parenthesized replaced operand padding position.kind_notMem
    position.field_notMem position.notTypes

/-- One pair of parentheses is not read. -/
theorem toExpression_of_addsParentheses (h : AddsParentheses t t') :
    t'.toExpression source = t.toExpression source := by
  cases h with
  | whole operand padding => exact toExpression_parenthesized operand padding
  | inside added =>
    have hsame : SameReading source t t' :=
      SameReading.of_within (fun _ _ entered => entered)
        (fun _ _ taken => taken.sameReading) added
    exact hsame.expression

/-- **Parentheses are not read.** Whatever pairs of parentheses are added to a tree, around the
whole of it and around operands at any depth, one after the other and in one another, with comments
in them or without: the expression read off the tree is the same one, spans included. -/
theorem toExpression_of_reflTransGen_addsParentheses (source : Bytes) {t t' : Tree}
    (h : Relation.ReflTransGen AddsParentheses t t') :
    t'.toExpression source = t.toExpression source := by
  -- one pair after the other
  induction h with
  | refl => rfl
  | tail _ added ih => exact (toExpression_of_addsParentheses added).trans ih

end

/-! ### A call in parentheses -/

/-- A node in parentheses over some bytes, behind a comment if there is room for one. -/
private def enclosed (t : Tree) (start stop : Nat) : Tree :=
  t.parenthesized { startByte := start, endByte := stop }
    [leaf "(" false start (start + 1) none,
      leaf "comment" true (start + 1) t.span.startByte none]
    [leaf ")" false (stop - 1) stop none]

private theorem isPadding_enclosed (t : Tree) (start stop : Nat) :
    ∀ p ∈ [leaf "(" false start (start + 1) none,
        leaf "comment" true (start + 1) t.span.startByte none] ++
      [leaf ")" false (stop - 1) stop none], p.IsPadding := by
  simp [leaf, IsPadding, Tree.kind, Tree.named]

/-- A member `b` of an object, over the bytes that it has in `(((a).b)((/**/c)))`. -/
private def accessOf (object : Tree) : Tree :=
  .node "member_expression" true { startByte := 2, endByte := 7 } (some "function")
    [object, leaf "." false 5 6 none, leaf "property_identifier" true 6 7 (some "property")]

/-- A call over the bytes that it has there. -/
private def callOf (callee argument : Tree) : Tree :=
  .node "call_expression" true { startByte := 1, endByte := 17 } none
    [callee, .node "arguments" true { startByte := 8, endByte := 17 } (some "arguments")
      [leaf "(" false 8 9 none, argument, leaf ")" false 16 17 none]]

theorem toExpression_of_reflTransGen_addsParentheses_call :
    let source := Utf8.encode "(((a).b)((/**/c)))"
    let a := leaf "identifier" true 3 4 (some "object")
    let c := leaf "identifier" true 14 15 none
    let bare := callOf (accessOf a) c
    let full := enclosed (callOf (enclosed (accessOf (enclosed a 2 5)) 1 8) (enclosed c 9 16)) 0 18
    Relation.ReflTransGen AddsParentheses bare full ∧
      full.toExpression source = bare.toExpression source ∧
      full.toExpression source =
        .call (.member (.identifier "a" a.span) (.identifier "b" { startByte := 6, endByte := 7 })
            false false { startByte := 2, endByte := 7 })
          [.identifier "c" c.span] [] { startByte := 1, endByte := 17 } := by
  intro source a c bare full
  have hobject : AddsParentheses bare (callOf (accessOf (enclosed a 2 5)) c) :=
    .inside (.inside (by decide) ⟨rfl, rfl, rfl, rfl, [], _, rfl, rfl⟩
      (.here (.intro ⟨by decide, .inr ⟨"object", rfl, by decide⟩⟩ (by decide)
        (isPadding_enclosed a 2 5) ⟨rfl, rfl, rfl, rfl, [], _, rfl, rfl⟩)))
  have hcallee : AddsParentheses (callOf (accessOf (enclosed a 2 5)) c)
      (callOf (enclosed (accessOf (enclosed a 2 5)) 1 8) c) :=
    .inside (.here (.intro ⟨by decide, .inr ⟨"function", rfl, by decide⟩⟩ (by decide)
      (isPadding_enclosed _ 1 8) ⟨rfl, rfl, rfl, rfl, [], _, rfl, rfl⟩))
  have hargument : AddsParentheses (callOf (enclosed (accessOf (enclosed a 2 5)) 1 8) c)
      (callOf (enclosed (accessOf (enclosed a 2 5)) 1 8) (enclosed c 9 16)) :=
    .inside (.inside (by decide) ⟨rfl, rfl, rfl, rfl, [_], [], rfl, rfl⟩
      (.here (.intro ⟨by decide, .inl (by decide)⟩ (by decide) (isPadding_enclosed c 9 16)
        ⟨rfl, rfl, rfl, rfl, [_], _, rfl, rfl⟩)))
  have hall : Relation.ReflTransGen AddsParentheses bare full :=
    (((Relation.ReflTransGen.single hobject).tail hcallee).tail hargument).tail
      (.whole (by decide) (isPadding_enclosed _ 0 18))
  have hread := toExpression_of_reflTransGen_addsParentheses source hall
  refine ⟨hall, hread, ?_⟩
  -- what is left is to read the call without parentheses
  have hname : ∀ (kind : String) (start stop : Nat) (field : Option String),
      kind ∈ ["identifier", "property_identifier"] →
      (leaf kind true start stop field).toExpression source =
        .identifier (Span.text { startByte := start, endByte := stop } source)
          { startByte := start, endByte := stop } := by
    intro kind start stop field hkind
    simp only [List.mem_cons, List.not_mem_nil, or_false] at hkind
    rcases hkind with rfl | rfl <;> rw [toExpression_eq] <;> rfl
  have htexts : Span.text { startByte := 3, endByte := 4 } source = "a" ∧
      Span.text { startByte := 6, endByte := 7 } source = "b" ∧
      Span.text { startByte := 14, endByte := 15 } source = "c" := by
    decide +kernel
  have haccess : (accessOf a).toExpression source =
      .member (a.toExpression source)
        ((leaf "property_identifier" true 6 7 (some "property")).toExpression source) false false
        { startByte := 2, endByte := 7 } := by
    rw [toExpression_eq]
    rfl
  have hcall : bare.toExpression source =
      .call ((accessOf a).toExpression source) [c.toExpression source] []
        { startByte := 1, endByte := 17 } := by
    rw [toExpression_eq]
    rfl
  rw [hread, hcall, haccess, hname _ 3 4 _ (by decide), hname _ 6 7 _ (by decide),
    hname _ 14 15 _ (by decide), htexts.1, htexts.2.1, htexts.2.2]
  rfl

end Tree

end SignalLint
