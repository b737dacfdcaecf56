import Mathlib.Data.List.Basic
import SignalLint.Proofs.Lint.Fix
import SignalLint.Proofs.Tree.FirstDeclaration

/-!
# Names stand where they are said to stand

Every name and every text in a unit comes with a span. This module says that the two belong
together: the text is that of the source at the span. The parts of a construct are found by looking
through parentheses and annotations, and the span that is kept is always that of the part itself.

* `Label` — a text with its span, and `labels` for each kind of node: all labels in it, at any
  depth. A stand-in for a missing part has no label, since nothing of the source stands for it.
* `toTypeName_labels`, `toType_labels`, `toExpression_labels` — the three readers of a tree, along
  their own recursion.
* `Visit.contribution?_labels` is about one tree node, and `SourceUnit.labels_ofTree` about a unit:
  an index has no labels but those of its contributions
  (`DeclarationIndex.exists_contribution_of_mem_labels`).

The main statement, `labels_faithful`, adds what this means for diagnostics: the source under an
anchor is the name that the diagnostic is about.
-/

namespace SignalLint

/-! ### Labels -/

/-- A text in a node, with the span at which it is said to stand. -/
structure Label where
  text : String
  span : Span
  deriving DecidableEq, Repr, Inhabited

/-- The text is that of the source at the span. -/
def Label.Faithful (source : Bytes) (label : Label) : Prop := label.text = label.span.text source

/-- The labels in a type name, one for each of its parts. -/
def TypeName.labels : TypeName → List Label
  | simple name span => [⟨name, span⟩]
  | qualified left right rightSpan _ => left.labels ++ [⟨right, rightSpan⟩]

mutual

/-- The labels in a type, type arguments included. -/
def TypeNode.labels : TypeNode → List Label
  | .reference name arguments _ => name.labels ++ TypeNode.labelsAll arguments
  | .other _ text span => [⟨text, span⟩]

def TypeNode.labelsAll : List TypeNode → List Label
  | [] => []
  | t :: ts => t.labels ++ TypeNode.labelsAll ts

end

mutual

/-- The labels in an expression, arguments and type arguments included. -/
def Expression.labels : Expression → List Label
  | .identifier name span => [⟨name, span⟩]
  | .privateIdentifier name span => [⟨name, span⟩]
  | .this _ => []
  | .member object property _ _ _ => object.labels ++ property.labels
  | .call callee arguments typeArguments _ =>
    callee.labels ++ Expression.labelsAll arguments ++ TypeNode.labelsAll typeArguments
  | .construct callee arguments typeArguments _ =>
    callee.labels ++ Expression.labelsAll arguments ++ TypeNode.labelsAll typeArguments
  | .other grammar text span => if grammar = "missing" then [] else [⟨text, span⟩]

def Expression.labelsAll : List Expression → List Label
  | [] => []
  | e :: es => e.labels ++ Expression.labelsAll es

end

def Decorator.labels (d : Decorator) : List Label := d.expression.labels

def Field.labels (f : Field) : List Label :=
  f.key.labels ++ f.declaredType.toList.flatMap TypeNode.labels ++
    f.value.toList.flatMap Expression.labels ++ f.decorators.flatMap Decorator.labels

def Node.labels : Node → List Label
  | expression e => e.labels
  | typeName n => n.labels
  | type t => t.labels
  | decorator d => d.labels
  | field f => f.labels

def Declaration.labels (d : Declaration) : List Label :=
  d.declaredType.toList.flatMap TypeNode.labels ++ d.value.toList.flatMap Expression.labels

/-- The labels in the declared types and initializers of an index. -/
def DeclarationIndex.labels (index : DeclarationIndex) : List Label :=
  (index.functions.entries.flatMap fun e => e.2.toList.flatMap TypeNode.labels) ++
    (index.bindings.entries.flatMap fun e => e.2.labels) ++
    (index.members.entries.flatMap fun e => e.2.labels) ++
    (index.methods.entries.flatMap fun e => e.2.toList.flatMap TypeNode.labels)

/-- All labels in a unit. -/
def SourceUnit.labels (unit : SourceUnit) : List Label :=
  unit.nodes.flatMap Node.labels ++ unit.declarations.labels

theorem TypeNode.labelsAll_eq (ts : List TypeNode) : labelsAll ts = ts.flatMap labels := by
  induction ts with
  | nil => rfl
  | cons t ts ih => rw [labelsAll, ih, List.flatMap_cons]

theorem Expression.labelsAll_eq (es : List Expression) : labelsAll es = es.flatMap labels := by
  induction es with
  | nil => rfl
  | cons e es ih => rw [labelsAll, ih, List.flatMap_cons]

/-! ### Reading a node -/

namespace Tree

variable (source : Bytes)

/-- A node's own text stands at its own span. -/
theorem faithful_text (t : Tree) : Label.Faithful source ⟨t.text source, t.span⟩ := rfl

theorem toTypeName_labels (t : Tree) :
    ∀ label ∈ (t.toTypeName source).labels, label.Faithful source := by
  -- a qualified name has the labels of what is in front of its last part, and one more
  induction t using toTypeName.induct with
  | case1 t left right hdotted ih =>
    rw [toTypeName_eq, hdotted]
    refine List.forall_mem_append.2 ⟨ih, ?_⟩
    exact List.forall_mem_singleton.2 (faithful_text source right)
  | case2 t hdotted =>
    rw [toTypeName_eq, hdotted]
    exact List.forall_mem_singleton.2 (faithful_text source t)

theorem toType_labels (t : Tree) : ∀ label ∈ (t.toType source).labels, label.Faithful source := by
  -- the cases are those of the reading: what is passed through, type arguments, a bare name, the
  -- rest
  induction t using toType.induct with
  | case1 t inner hshape ih =>
    rw [toType_eq, hshape]
    exact ih
  | case2 t base hshape ih =>
    rw [toType_eq, hshape, TypeNode.labels, TypeNode.labelsAll_eq, List.flatMap_map]
    refine List.forall_mem_append.2 ⟨toTypeName_labels source base, ?_⟩
    exact List.forall_mem_flatMap.2 ih
  | case3 t hshape =>
    rw [toType_eq, hshape, TypeNode.labels, TypeNode.labelsAll, List.append_nil]
    exact toTypeName_labels source t
  | case4 t hshape =>
    rw [toType_eq, hshape, TypeNode.labels]
    exact List.forall_mem_singleton.2 (faithful_text source t)

/-- **The labels of an expression are faithful.** What is read off a node is its own text with its
own span, or the reading of its parts; out of parentheses it is the span inside that is kept. -/
theorem toExpression_labels (t : Tree) :
    ∀ label ∈ (t.toExpression source).labels, label.Faithful source := by
  induction t using toExpression.induct with
  | case1 t hshape | case2 t hshape =>
    rw [toExpression_eq, hshape, Expression.labels]
    exact List.forall_mem_singleton.2 (faithful_text source t)
  | case3 t hshape =>
    rw [toExpression_eq, hshape, Expression.labels]
    exact List.forall_mem_nil _
  -- parentheses and the like hand on to what is inside
  | case4 t inner hshape ih =>
    rw [toExpression_eq, hshape]
    exact ih
  | case5 t object property optional hshape ihObject ihProperty =>
    rw [toExpression_eq, hshape, Expression.labels]
    exact List.forall_mem_append.2 ⟨ihObject, ihProperty⟩
  | case6 t object index hshape ihObject ihIndex =>
    rw [toExpression_eq, hshape, Expression.labels]
    exact List.forall_mem_append.2 ⟨ihObject, ihIndex⟩
  -- calls and constructions differ in nothing that is read here
  | case7 t callee hshape ihCallee ihArguments | case8 t callee hshape ihCallee ihArguments =>
    rw [toExpression_eq, hshape, Expression.labels, Expression.labelsAll_eq,
      TypeNode.labelsAll_eq, List.flatMap_map, List.flatMap_map]
    refine List.forall_mem_append.2 ⟨List.forall_mem_append.2 ⟨ihCallee, ?_⟩, ?_⟩
    · exact List.forall_mem_flatMap.2 ihArguments
    · exact List.forall_mem_flatMap.2 fun c _ => toType_labels source c
  | case9 t hshape =>
    rw [toExpression_eq, hshape, Expression.labels]
    -- where a part is missing nothing stands in the source, and there is no label
    split
    · exact List.forall_mem_nil _
    · exact List.forall_mem_singleton.2 (faithful_text source t)

/-- A stand-in for a missing part has no label. -/
theorem labels_missing (text : String) (span : Span) :
    (Expression.other "missing" text span).labels = [] := by
  rw [Expression.labels, if_pos rfl]

theorem value_labels (t : Option Tree) :
    ∀ label ∈ (t.map (toExpression source)).toList.flatMap Expression.labels,
      label.Faithful source := by
  cases t with
  | none => exact List.forall_mem_nil _
  | some t =>
    exact List.forall_mem_flatMap.2 (List.forall_mem_singleton.2 (toExpression_labels source t))

theorem declaredTypeAt_labels (t : Tree) (field : String) :
    ∀ label ∈ (t.declaredTypeAt source field).toList.flatMap TypeNode.labels,
      label.Faithful source := by
  refine List.forall_mem_flatMap.2 fun type htype => ?_
  -- an annotation hands on to the type in it
  obtain ⟨c, -, hc⟩ := Option.bind_eq_some_iff.1 (Option.mem_toList.1 htype)
  unfold toDeclaredType at hc
  split at hc
  · obtain ⟨inner, -, rfl⟩ := Option.map_eq_some_iff.1 hc
    exact toType_labels source inner
  · obtain rfl := Option.some.inj hc
    exact toType_labels source c

theorem toDecorator_labels (t : Tree) :
    ∀ label ∈ (t.toDecorator source).labels, label.Faithful source := by
  unfold toDecorator Decorator.labels
  -- a decorator without an expression reads as one that is missing
  split
  · exact toExpression_labels source _
  · rw [labels_missing]
    exact List.forall_mem_nil _

theorem fieldKey_labels (t : Tree) :
    ∀ label ∈ (t.fieldKey source).labels, label.Faithful source := by
  unfold fieldKey
  split
  · exact toExpression_labels source _
  · rw [labels_missing]
    exact List.forall_mem_nil _

end Tree

/-! ### What a tree node adds -/

/-- The labels in a contribution. -/
def Contribution.labels : Contribution → List Label
  | .construct e => e.labels
  | .classScope _ => []
  | .field f _ => f.labels
  | .decorator d => d.labels
  | .function _ returnType => returnType.toList.flatMap TypeNode.labels
  | .variable name declaredType value => Declaration.labels ⟨name, declaredType, value⟩
  | .getter _ returnType => returnType.toList.flatMap TypeNode.labels
  | .method _ returnType => returnType.toList.flatMap TypeNode.labels

namespace Visit

variable (source : Bytes)

theorem toField_labels (v : Visit) :
    ∀ label ∈ (v.toField source).labels, label.Faithful source := by
  simp only [Field.labels, List.forall_mem_append, and_assoc]
  refine ⟨Tree.fieldKey_labels source v.tree, Tree.declaredTypeAt_labels source v.tree "type",
    Tree.value_labels source _, List.forall_mem_flatMap.2 fun d hd => ?_⟩
  obtain ⟨c, -, rfl⟩ := List.mem_map.1 hd
  exact Tree.toDecorator_labels source c

/-- **One tree node** adds nothing but faithful labels. -/
theorem contribution?_labels {v : Visit} {c : Contribution} (h : v.contribution? source = some c) :
    ∀ label ∈ c.labels, label.Faithful source := by
  cases adds_of_contribution? h with
  | construct kind => exact Tree.toExpression_labels source v.tree
  | classScope isClass => exact List.forall_mem_nil _
  | field kind => exact toField_labels source v
  | decorator kind => exact Tree.toDecorator_labels source v.tree
  | function kind named => exact Tree.declaredTypeAt_labels source v.tree "return_type"
  | @functionVariable name value kind named valued isFunction =>
    exact Tree.declaredTypeAt_labels source value "return_type"
  | @«variable» name kind named =>
    refine List.forall_mem_append.2 ⟨?_, Tree.value_labels source _⟩
    exact Tree.declaredTypeAt_labels source v.tree "type"
  | getter kind named owned => exact Tree.declaredTypeAt_labels source v.tree "return_type"
  | method kind named owned => exact Tree.declaredTypeAt_labels source v.tree "return_type"

end Visit

/-! ### What an index gathers -/

/-- What is in a table was there before or was entered. -/
theorem Table.mem_entries_of_foldl_insertNew {κ α : Type} [DecidableEq κ] {entries : List (κ × α)}
    {t : Table κ α} {e : κ × α}
    (h : e ∈ (entries.foldl (fun t e => t.insertNew e.1 e.2) t).entries) :
    e ∈ t.entries ∨ e ∈ entries := by
  -- the induction is on what is still to be entered, and `t` holds what was
  induction entries generalizing t with
  | nil => exact Or.inl h
  | cons f entries ih =>
    rcases ih h with h | h
    · have h : e ∈ (t.insertNew f.1 f.2).entries := h
      unfold insertNew at h
      -- a key that is there already keeps its first value
      split at h
      · exact Or.inl h
      · rcases List.mem_append.1 h with h | h
        · exact Or.inl h
        · exact Or.inr (List.mem_singleton.1 h ▸ List.mem_cons_self)
    · exact Or.inr (List.mem_cons_of_mem f h)

namespace Contribution

variable {c : Contribution} {label : Label}

/-- An entry of a table has labels of the contribution that makes it. -/
theorem mem_labels_of_function? {e : String × Option TypeNode} (h : c.function? = some e)
    (hl : label ∈ e.2.toList.flatMap TypeNode.labels) : label ∈ c.labels := by
  cases c <;> cases h
  exact hl

theorem mem_labels_of_binding? {e : String × Declaration} (h : c.binding? = some e)
    (hl : label ∈ e.2.labels) : label ∈ c.labels := by
  cases c <;> cases h
  exact hl

theorem mem_labels_of_member? {e : MemberKey × Declaration} (h : c.member? = some e)
    (hl : label ∈ e.2.labels) : label ∈ c.labels := by
  -- members are made by fields in a class and by getters
  cases c with
  | field f owner =>
    cases owner with
    | none => cases h
    | some start =>
      cases hname : f.key.name? with
      | none =>
        simp only [member?, hname] at h
        cases h
      | some name =>
        simp only [member?, hname] at h
        cases h
        -- a declaration keeps the type and the initializer of the field
        simp only [Declaration.labels, labels, Field.labels, List.mem_append] at hl ⊢
        rcases hl with hl | hl
        · exact Or.inl (Or.inl (Or.inr hl))
        · exact Or.inl (Or.inr hl)
  | getter key returnType =>
    cases h
    rwa [Declaration.labels, Option.toList_none, List.flatMap_nil, List.append_nil] at hl
  | _ => cases h

theorem mem_labels_of_method? {e : MemberKey × Option TypeNode} (h : c.method? = some e)
    (hl : label ∈ e.2.toList.flatMap TypeNode.labels) : label ∈ c.labels := by
  cases c <;> cases h
  exact hl

theorem mem_labels_of_node? {n : Node} (h : c.node? = some n) (hl : label ∈ n.labels) :
    label ∈ c.labels := by
  cases c <;> cases h <;> exact hl

end Contribution

/-- What is gathered from a table that contributions fill comes from one of them. -/
theorem exists_contribution_of_mem_flatMap {κ α : Type} [DecidableEq κ]
    {declared? : Contribution → Option (κ × α)} {gather : κ × α → List Label}
    {contributions : List Contribution} {label : Label}
    (hgather : ∀ c e, declared? c = some e → label ∈ gather e → label ∈ c.labels)
    (h : label ∈ ((contributions.filterMap declared?).foldl (fun t e => t.insertNew e.1 e.2)
      Table.empty).entries.flatMap gather) : ∃ c ∈ contributions, label ∈ c.labels := by
  obtain ⟨e, he, hl⟩ := List.mem_flatMap.1 h
  rcases Table.mem_entries_of_foldl_insertNew he with he | he
  · exact absurd he List.not_mem_nil
  · obtain ⟨c, hc, hdeclared⟩ := List.mem_filterMap.1 he
    exact ⟨c, hc, hgather c e hdeclared hl⟩

/-- **An index has the labels of its contributions**, and no others. -/
theorem DeclarationIndex.exists_contribution_of_mem_labels {contributions : List Contribution}
    {label : Label} (h : label ∈ (ofContributions contributions).labels) :
    ∃ c ∈ contributions, label ∈ c.labels := by
  rw [labels, ofContributions, functions_foldl_add, bindings_foldl_add, members_foldl_add,
    methods_foldl_add] at h
  simp only [List.mem_append] at h
  -- four tables, filled side by side, each by entries of its own kind
  rcases h with ((h | h) | h) | h
  · exact exists_contribution_of_mem_flatMap
      (fun _ _ hc hl => Contribution.mem_labels_of_function? hc hl) h
  · exact exists_contribution_of_mem_flatMap
      (fun _ _ hc hl => Contribution.mem_labels_of_binding? hc hl) h
  · exact exists_contribution_of_mem_flatMap
      (fun _ _ hc hl => Contribution.mem_labels_of_member? hc hl) h
  · exact exists_contribution_of_mem_flatMap
      (fun _ _ hc hl => Contribution.mem_labels_of_method? hc hl) h

/-- **The labels of a unit are faithful.** -/
theorem SourceUnit.labels_ofTree (path language : String) (source : Bytes) (root : Tree)
    (hasErrors : Bool) :
    ∀ label ∈ (SourceUnit.ofTree path language source root hasErrors).labels,
      label.Faithful source := by
  intro label h
  -- the nodes and the index of a unit come from the same contributions
  have hfrom : ∃ c ∈ root.contributions source, label ∈ c.labels := by
    rcases List.mem_append.1 h with h | h
    · obtain ⟨n, hn, hl⟩ := List.mem_flatMap.1 h
      obtain ⟨c, hc, hnode⟩ := List.mem_filterMap.1 hn
      exact ⟨c, hc, Contribution.mem_labels_of_node? hnode hl⟩
    · exact DeclarationIndex.exists_contribution_of_mem_labels h
  obtain ⟨c, hc, hl⟩ := hfrom
  obtain ⟨v, -, hv⟩ := List.mem_filterMap.1 hc
  exact Visit.contribution?_labels source hv label hl

/-! ### The source under a diagnostic -/

/-- A name is a label of the expression that has it. -/
theorem Expression.mem_labels_of_name? {e : Expression} {name : String} (h : e.name? = some name) :
    ⟨name, e.span⟩ ∈ e.labels := by
  cases e <;> cases h <;> exact List.mem_singleton_self _

theorem Field.mem_labels_of_mem_key {f : Field} {label : Label} (h : label ∈ f.key.labels) :
    label ∈ f.labels :=
  List.mem_append_left _ (List.mem_append_left _ (List.mem_append_left _ h))

/-- A node has the name that a replacement is suggested for as a label, at the anchor. -/
theorem Warrants.of_preferSignal {o : RuleOptions} {unit : SourceUnit} {types : TypeSupply}
    {n : Node} {d : Diagnostic} (h : Warrants o unit types n d)
    (hid : d.messageId = "preferSignal") :
    ∃ name ∈ o.typesToReplace, d.data = [("type", .text name)] ∧ ⟨name, d.span⟩ ∈ n.labels := by
  cases h with
  | @construction name span whole arguments typeArguments listed =>
    refine ⟨name, listed, rfl, ?_⟩
    simp only [Node.labels, Expression.labels, List.cons_append, List.nil_append]
    exact List.mem_cons_self
  | _ => exact absurd hid (ne_of_beq_false rfl)

/-- **Names stand where they are said to stand.** All labels of a unit are faithful, whatever the
tree. So after a run that succeeds the source at a diagnostic that asks for another type is the
type that it names, which is one of the given ones; and at a diagnostic that asks for the modifier
it is the name of the field, in front of which the suggestion puts the modifier. -/
theorem labels_faithful :
    (∀ path language source root hasErrors,
      ∀ label ∈ (SourceUnit.ofTree path language source root hasErrors).labels,
        label.text = label.span.text source) ∧
      ∀ (l : Linter) (content path : String) (language : Option String) (ds : List Diagnostic),
        (l.lintSource content path language).1 = .ok ds →
          let source := Utf8.encode content
          (∀ d ∈ ds, d.messageId = "preferSignal" →
            ∃ name ∈ l.options.typesToReplace,
              d.data = [("type", .text name)] ∧ d.span.text source = name) ∧
            ∃ unit, (parseSource l.parser content path language).1 = .ok unit ∧
              let fields := reportedFields l.options unit l.types
              ds.filter (·.messageId = "preferReadonly") = fields.map (fieldDiagnostic path) ∧
                ∀ f ∈ fields,
                  let d := fieldDiagnostic path f
                  (∀ name, f.key.name? = some name → d.span.text source = name) ∧
                    d.suggestions.map (·.edit.offset) = [(d.span.startByte : Int)] := by
  refine ⟨SourceUnit.labels_ofTree, fun l content path language ds h => ?_⟩
  intro source
  obtain ⟨unit, hparse, hrun, rfl⟩ := Linter.lintSource_eq_ok_iff.1 h
  obtain ⟨p, name, parsed, -, -, hunit⟩ := parseSource_eq_ok hparse
  -- what follows about diagnostics needs the labels of the nodes only
  have hfaithful : ∀ n ∈ unit.nodes, ∀ label ∈ n.labels, label.Faithful source := by
    intro n hn label hl
    rw [hunit] at hn
    exact SourceUnit.labels_ofTree _ _ _ _ _ label
      (List.mem_append_left _ (List.mem_flatMap.2 ⟨n, hn, hl⟩))
  refine ⟨fun d hd hid => ?_, unit, hparse, ?_⟩
  · rw [(Progress.of_ok hrun).diagnostics] at hd
    obtain ⟨n, hn, hverdict⟩ := List.mem_filterMap.1 hd
    obtain ⟨type, hlisted, hdata, hlabel⟩ :=
      (RuleOptions.verdict_eq_some_iff.1 hverdict).of_preferSignal hid
    exact ⟨type, hlisted, hdata, (hfaithful n hn _ hlabel).symm⟩
  · have hpath : unit.path = path := by rw [hunit]; rfl
    intro fields
    refine ⟨hpath ▸ filter_preferReadonly hrun, fun f hf => ⟨fun name hname => ?_, rfl⟩⟩
    have hkey : ⟨name, f.key.span⟩ ∈ (Node.field f).labels :=
      Field.mem_labels_of_mem_key (Expression.mem_labels_of_name? hname)
    exact (hfaithful _ (mem_reportedFields.1 hf).1 _ hkey).symm

/-- The initializer in `class A { n: Signal<T> = new BehaviorSubject(); }`. -/
def subjectCall : Tree :=
  .node "new_expression" true { startByte := 25, endByte := 46 } (some "value") [
    .node "new" false { startByte := 25, endByte := 28 } none [],
    .node "identifier" true { startByte := 29, endByte := 44 } (some "constructor") [],
    .node "arguments" true { startByte := 44, endByte := 46 } (some "arguments") []]

/-- The declared type in `class A { n: Signal<T> = new BehaviorSubject(); }`. -/
def signalOfT : Tree :=
  .node "generic_type" true { startByte := 13, endByte := 22 } none [
    .node "type_identifier" true { startByte := 13, endByte := 19 } (some "name") [],
    .node "type_arguments" true { startByte := 19, endByte := 22 } (some "type_arguments") [
      .node "type_identifier" true { startByte := 20, endByte := 21 } none []]]

/-- The tree of `class A { n: Signal<T> = new BehaviorSubject(); }`. -/
def subjectClass : Tree :=
  .node "program" true { endByte := 49 } none [
    .node "class_declaration" true { endByte := 49 } none [
      .node "class" false { endByte := 5 } none [],
      .node "type_identifier" true { startByte := 6, endByte := 7 } (some "name") [],
      .node "class_body" true { startByte := 8, endByte := 49 } (some "body") [
        .node "public_field_definition" true { startByte := 10, endByte := 46 } none [
          .node "property_identifier" true { startByte := 10, endByte := 11 } (some "name") [],
          .node "type_annotation" true { startByte := 11, endByte := 22 } (some "type") [
            signalOfT],
          subjectCall]]]]

/-- A linter that takes every source for `class A { n: Signal<T> = new BehaviorSubject(); }`. -/
def subjectClassLinter : Linter where
  config := {}
  options := .default
  parser := some ⟨["typescript"], fun _ _ => some { root := subjectClass }⟩

theorem toExpression_subjectCall :
    subjectCall.toExpression (Utf8.encode "class A { n: Signal<T> = new BehaviorSubject(); }") =
      .construct (.identifier "BehaviorSubject" { startByte := 29, endByte := 44 }) [] []
        { startByte := 25, endByte := 46 } := by
  have hname : Span.text { startByte := 29, endByte := 44 }
      (Utf8.encode "class A { n: Signal<T> = new BehaviorSubject(); }") = "BehaviorSubject" := by
    decide +kernel
  rw [Tree.toExpression_eq]
  change Expression.construct (Tree.toExpression _ _) [] [] _ = _
  rw [Tree.toExpression_eq]
  exact congrArg (fun name => Expression.construct (.identifier name _) [] [] _) hname

/-- The declared type is one of signals. -/
theorem declaredTypeEvidence_signalOfT :
    declaredTypeEvidence
      (signalOfT.toType (Utf8.encode "class A { n: Signal<T> = new BehaviorSubject(); }")) =
        true := by
  have hname : Span.text { startByte := 13, endByte := 19 }
      (Utf8.encode "class A { n: Signal<T> = new BehaviorSubject(); }") = "Signal" := by
    decide +kernel
  rw [Tree.toType_eq]
  change declaredTypeEvidence (.reference (Tree.toTypeName _ _) [Tree.toType _ _] _) = true
  rw [Tree.toTypeName_eq]
  exact (congrArg (fun name =>
    declaredTypeEvidence (.reference (.simple name _) [Tree.toType _ _] _)) hname).trans rfl

theorem labels_faithful_subjectClass :
    let content := "class A { n: Signal<T> = new BehaviorSubject(); }"
    ∃ ds, (subjectClassLinter.lintSource content "a.ts" (some "typescript")).1 = .ok ds ∧
      ds.map (fun d => (d.messageId, d.span.text (Utf8.encode content))) =
        [("preferReadonly", "n"), ("preferSignal", "BehaviorSubject")] := by
  intro content
  let source := Utf8.encode content
  let unit := SourceUnit.ofTree "a.ts" "typescript" source subjectClass false
  let field := (subjectClass.preorder [])[5].toField source
  have hparse : (parseSource subjectClassLinter.parser content "a.ts" (some "typescript")).1 =
    .ok unit := rfl
  have hrun : (runRule .default unit .declarations).1 = .ok () :=
    runRule_ok_iff.2 fun _ _ _ => rfl
  have hlint : (subjectClassLinter.lintSource content "a.ts" (some "typescript")).1 =
      .ok (runRule .default unit .declarations).2.diagnostics :=
    Linter.lintSource_eq_ok_iff.2 ⟨unit, hparse, hrun, rfl⟩
  have hnodes : unit.nodes = [.field field, .expression (subjectCall.toExpression source)] := by
    simp only [unit, SourceUnit.ofTree, Tree.contributions, Tree.walk_eq_preorder]
    rfl
  have hreports : RuleOptions.default.reports (some (.ofDeclarations unit.declarations)) field =
      true := by
    have htype : field.declaredType = some (signalOfT.toType source) := rfl
    simp only [RuleOptions.reports, RuleOptions.isSignal, RuleOptions.judge, htype]
    exact declaredTypeEvidence_signalOfT
  have hfields : reportedFields .default unit .declarations = [field] := by
    rw [reportedFields, hnodes]
    exact List.filterMap_cons_some (if_pos hreports)
  have hkey : field.key = .identifier "n" { startByte := 10, endByte := 11 } := by
    change Tree.toExpression _ _ = _
    rw [Tree.toExpression_eq]
    have hname : Span.text { startByte := 10, endByte := 11 } source = "n" := by decide +kernel
    exact congrArg (Expression.identifier · _) hname
  obtain ⟨-, hfaithful⟩ := labels_faithful
  obtain ⟨hpreferSignal, parsedUnit, hparsed, -, hreadonly⟩ :=
    hfaithful subjectClassLinter content "a.ts" (some "typescript") _ hlint
  obtain rfl : unit = parsedUnit := Except.ok.inj (hparse.symm.trans hparsed)
  refine ⟨_, hlint, ?_⟩
  let construction := ruleDiagnostic "a.ts" { startByte := 29, endByte := 44 } "preferSignal"
    [("type", .text "BehaviorSubject")] []
  have hdiagnostics : (runRule .default unit .declarations).2.diagnostics =
      [fieldDiagnostic "a.ts" field, construction] := by
    have hverdict : RuleOptions.default.verdict "a.ts"
        (some (.ofDeclarations unit.declarations)) (.field field) =
          some (fieldDiagnostic "a.ts" field) := by
      rw [RuleOptions.verdict_field, if_pos hreports]
    rw [(Progress.of_ok hrun).diagnostics, hnodes, toExpression_subjectCall]
    exact List.filterMap_cons_some hverdict
  have hn : (fieldDiagnostic "a.ts" field).span.text source = "n" :=
    (hreadonly field (hfields ▸ List.mem_singleton_self field)).1 "n" (by rw [hkey]; rfl)
  have hsubject : construction.span.text source = "BehaviorSubject" := by
    have hmem : construction ∈ (runRule .default unit .declarations).2.diagnostics := by
      rw [hdiagnostics]
      exact List.mem_cons_of_mem _ (List.mem_singleton_self _)
    obtain ⟨name, -, hdata, htext⟩ := hpreferSignal construction hmem rfl
    cases hdata
    exact htext
  rw [hdiagnostics, List.map_cons, List.map_singleton, hn, hsubject]
  rfl

end SignalLint
