import Mathlib.Data.List.Basic
import SignalLint.Tree.Unit

/-!
# Replacing a node of a tree

A node is read by its kind, its place and its children, and of the children only through a few
views: the first one under a field, the ones that stand for something, the tokens. So putting one
child in the place of another is seen only where a view shows that child.

* `ReplacesChild` — one child of a node stands in another's place; `map_child?`, `map_operands`,
  `any_children` say when the views do not notice.
* `toTypeName_eq_read`, `toType_eq_read`, `toExpression_eq_read` — the three readers as functions
  of the views, with the parts already read. Two nodes with the same views are read the same
  (`toType_congr`, `toExpression_congr`).
* `SameReading` — two trees that no node above them tells apart. It goes up from a child to its
  parent (`SameReading.of_replacesChild`), and so from one node to a whole tree
  (`SameReading.of_within`).
* `parenthesized` — a node in parentheses, with tokens and comments around it;
  `SameReading.of_parenthesized` — a node one of whose operands is put in parentheses.
-/

namespace SignalLint

namespace Tree

/-! ### One child in the place of another -/

/-- The same node, except that `c'` stands where `c` stood among its children. -/
structure ReplacesChild (c c' t t' : Tree) : Prop where
  kind : t'.kind = t.kind
  named : t'.named = t.named
  span : t'.span = t.span
  field : t'.field = t.field
  children : ∃ before after, t.children = before ++ c :: after ∧ t'.children = before ++ c' :: after

/-- A step taken at one place of a tree: at the tree itself, or at a place below it that is reached
by entering one child after the other. -/
inductive Within (enters step : Tree → Tree → Prop) : Tree → Tree → Prop where
  | here {t t' : Tree} (taken : step t t') : Within enters step t t'
  | inside {c c' t t' : Tree} (entered : enters t c) (replaced : ReplacesChild c c' t t')
      (taken : Within enters step c c') : Within enters step t t'

/-- What is found under a field stands under it. -/
theorem field_of_child? {t c : Tree} {f : String} (h : t.child? f = some c) : c.field = some f := by
  have hfound : (c.field == some f) = true :=
    List.find?_some (p := fun d : Tree => d.field == some f) h
  exact eq_of_beq hfound

namespace ReplacesChild

variable {c c' t t' : Tree}

/-- The children that pass a test, as far as `g` shows them, if the test takes the two for one and
`g` shows the same of them. -/
theorem map_filter_children {α : Type} {p : Tree → Bool} {g : Tree → α}
    (h : ReplacesChild c c' t t') (hp : p c' = p c) (hg : p c = true → g c' = g c) :
    (t'.children.filter p).map g = (t.children.filter p).map g := by
  obtain ⟨before, after, heq, heq'⟩ := h.children
  rw [heq, heq', List.filter_append, List.filter_append, List.filter_cons, List.filter_cons, hp]
  cases hpc : p c with
  | false => rfl
  | true =>
    have hshown : g c' = g c := hg hpc
    simp only [if_true, List.map_append, List.map_cons, hshown]

theorem map_child? {α : Type} {g : Tree → α} {f : String} (h : ReplacesChild c c' t t')
    (hfield : c'.field = c.field) (hg : c.field = some f → g c' = g c) :
    (t'.child? f).map g = (t.child? f).map g := by
  -- what stands under a field is the first of the children that stand under it
  have hfiltered := h.map_filter_children (p := fun d => d.field == some f) (g := g)
    (congrArg (· == some f) hfield) (fun hc => hg (eq_of_beq hc))
  have hhead := congrArg List.head? hfiltered
  rwa [List.head?_map, List.head?_map, List.head?_filter, List.head?_filter] at hhead

theorem map_operands {α : Type} {g : Tree → α} (h : ReplacesChild c c' t t')
    (hnamed : c'.named = c.named) (hcomment : (c'.kind != "comment") = (c.kind != "comment"))
    (hg : g c' = g c) : t'.operands.map g = t.operands.map g :=
  h.map_filter_children (by rw [hnamed, hcomment]) fun _ => hg

theorem any_children {p : Tree → Bool} (h : ReplacesChild c c' t t') (hp : p c' = p c) :
    t'.children.any p = t.children.any p := by
  obtain ⟨before, after, heq, heq'⟩ := h.children
  simp only [heq, heq', List.any_append, List.any_cons, hp]

theorem text (h : ReplacesChild c c' t t') (source : Bytes) : t'.text source = t.text source :=
  congrArg (Span.text · source) h.span

end ReplacesChild

/-! ### Readers as functions of the views -/

section Reading

variable (source : Bytes)

theorem map_operand? {α : Type} (t : Tree) (g : Tree → α) :
    t.operand?.map g = (t.operands.map g).head? :=
  List.head?_map.symm

theorem map_argumentTrees {α : Type} (t : Tree) (g : Tree → α) :
    t.argumentTrees.map g =
      ((t.child? "arguments").map fun list =>
        if list.kind == "arguments" then list.operands.map g else []).getD [] := by
  rw [argumentTrees]
  cases t.child? "arguments" with
  | none => rfl
  | some list => simp only [Option.map_some, Option.getD_some, apply_ite (List.map g), List.map_nil]

theorem map_typeArgumentTrees {α : Type} (t : Tree) (g : Tree → α) :
    t.typeArgumentTrees.map g =
      ((t.child? "type_arguments").map fun list => list.operands.map g).getD [] := by
  rw [typeArgumentTrees]
  cases t.child? "type_arguments" <;> rfl

/-- What a type name shows of one of its sides. -/
def side (t : Tree) : TypeName × String × Span :=
  (t.toTypeName source, t.text source, t.span)

/-- A type name, with its sides read. -/
theorem toTypeName_eq_read (t : Tree) :
    t.toTypeName source =
      if t.kind == "nested_type_identifier" || t.kind == "nested_identifier" then
        match t.operands.map (side source) with
        | left :: next :: rest =>
          let right := (next :: rest).getLast (List.cons_ne_nil _ _)
          .qualified left.1 right.2.1 right.2.2 t.span
        | _ => .simple (t.text source) t.span
      else if t.kind == "member_expression" then
        match (t.child? "object").map (side source), (t.child? "property").map (side source) with
        | some object, some property => .qualified object.1 property.2.1 property.2.2 t.span
        | _, _ => .simple (t.text source) t.span
      else .simple (t.text source) t.span := by
  rw [toTypeName_eq, dotted?]
  split_ifs
  · rcases t.operands with _ | ⟨left, _ | ⟨next, rest⟩⟩
    · rfl
    · rfl
    · -- reading the last of the parts or taking the last of the read parts
      have hlast : ((next :: rest).map (side source)).getLast (by simp) =
          side source ((next :: rest).getLast (List.cons_ne_nil _ _)) :=
        List.getLast_map (l := next :: rest) (by simp)
      simp only [List.map_cons] at hlast ⊢
      rw [hlast]
      rfl
  · cases t.child? "object" <;> cases t.child? "property" <;> rfl
  · rfl

/-- A type, with its parts read. -/
theorem toType_eq_read (t : Tree) :
    t.toType source =
      let whole := TypeNode.other t.kind (t.text source) t.span
      if t.kind == "parenthesized_type" then (t.operand?.map (toType source)).getD whole
      else if t.kind == "generic_type" then
        (((t.child? "name").map (toTypeName source)).map fun name =>
          .reference name (t.typeArgumentTrees.map (toType source)) t.span).getD whole
      else if t.kind == "type_identifier" || t.kind == "nested_type_identifier" then
        .reference (t.toTypeName source) [] t.span
      else whole := by
  rw [toType_eq, typeShape]
  split_ifs
  · cases t.operand? <;> rfl
  · cases t.child? "name" <;> rfl
  · rfl
  · rfl

/-- An expression, with its parts read. -/
theorem toExpression_eq_read (t : Tree) :
    t.toExpression source =
      let optional := t.children.any fun c => c.kind == "optional_chain" || c.kind == "?."
      let arguments := t.argumentTrees.map (toExpression source)
      let types := t.typeArgumentTrees.map (toType source)
      let whole := Expression.other t.kind (t.text source) t.span
      if nameKinds.contains t.kind then .identifier (t.text source) t.span
      else if t.kind == "private_property_identifier" then
        .privateIdentifier (t.text source) t.span
      else if t.kind == "this" then .this t.span
      else if t.kind == "parenthesized_expression" then
        (t.operand?.map (toExpression source)).getD whole
      else if t.kind == "member_expression" then
        match (t.child? "object").map (toExpression source),
          (t.child? "property").map (toExpression source) with
        | some object, some property => .member object property false optional t.span
        | _, _ => whole
      else if t.kind == "subscript_expression" then
        match (t.child? "object").map (toExpression source),
          (t.child? "index").map (toExpression source) with
        | some object, some index => .member object index true false t.span
        | _, _ => whole
      else if t.kind == "call_expression" then
        (((t.child? "function").map (toExpression source)).map fun callee =>
          .call callee arguments types t.span).getD whole
      else if t.kind == "new_expression" then
        (((t.child? "constructor").map (toExpression source)).map fun callee =>
          .construct callee arguments types t.span).getD whole
      else whole := by
  rw [toExpression_eq, shape]
  split_ifs
  · rfl
  · rfl
  · rfl
  · cases t.operand? <;> rfl
  · cases t.child? "object" <;> cases t.child? "property" <;> rfl
  · cases t.child? "object" <;> cases t.child? "index" <;> rfl
  · cases t.child? "function" <;> rfl
  · cases t.child? "constructor" <;> rfl
  · rfl

variable {t t' : Tree}

theorem toType_congr (hkind : t'.kind = t.kind) (hspan : t'.span = t.span)
    (hparens : t.kind = "parenthesized_type" →
      t'.operand?.map (toType source) = t.operand?.map (toType source))
    (hgeneric : t.kind = "generic_type" →
      (t'.child? "name").map (toTypeName source) = (t.child? "name").map (toTypeName source) ∧
        t'.typeArgumentTrees.map (toType source) = t.typeArgumentTrees.map (toType source))
    (hname : t.kind = "type_identifier" ∨ t.kind = "nested_type_identifier" →
      t'.toTypeName source = t.toTypeName source) :
    t'.toType source = t.toType source := by
  have htext : t'.text source = t.text source := congrArg (Span.text · source) hspan
  rw [toType_eq_read, toType_eq_read source t]
  simp only [hkind, htext, hspan]
  split_ifs with h₁ h₂ h₃
  · rw [hparens (eq_of_beq h₁)]
  · obtain ⟨hbase, harguments⟩ := hgeneric (eq_of_beq h₂)
    rw [hbase, harguments]
  · rw [hname (by simpa using h₃)]
  · rfl

theorem toExpression_congr (hkind : t'.kind = t.kind) (hspan : t'.span = t.span)
    (hchild : ∀ field, (t'.child? field).map (toExpression source) =
      (t.child? field).map (toExpression source))
    (hoperand : t'.operand?.map (toExpression source) = t.operand?.map (toExpression source))
    (hoptional : (t'.children.any fun c => c.kind == "optional_chain" || c.kind == "?.") =
      t.children.any fun c => c.kind == "optional_chain" || c.kind == "?.")
    (hlists : t.kind = "call_expression" ∨ t.kind = "new_expression" →
      t'.argumentTrees.map (toExpression source) = t.argumentTrees.map (toExpression source) ∧
        t'.typeArgumentTrees.map (toType source) = t.typeArgumentTrees.map (toType source)) :
    t'.toExpression source = t.toExpression source := by
  have htext : t'.text source = t.text source := congrArg (Span.text · source) hspan
  rw [toExpression_eq_read, toExpression_eq_read source t]
  simp only [hkind, htext, hspan, hchild, hoperand, hoptional]
  -- all that is left to compare is the lists of calls and of `new` expressions
  by_cases hcall : t.kind = "call_expression" ∨ t.kind = "new_expression"
  · obtain ⟨harguments, htypes⟩ := hlists hcall
    rw [harguments, htypes]
  · rw [not_or] at hcall
    simp only [beq_eq_false_iff_ne.2 hcall.1, beq_eq_false_iff_ne.2 hcall.2, Bool.false_eq_true,
      if_false]

end Reading

/-! ### Trees that nothing above tells apart -/

/-- Two trees that a node above them cannot tell apart, whichever of them is among its children. The
types among the parts are read only in a list of type arguments and in an annotation. -/
structure SameReading (source : Bytes) (t t' : Tree) : Prop where
  kind : t'.kind = t.kind
  named : t'.named = t.named
  span : t'.span = t.span
  field : t'.field = t.field
  expression : t'.toExpression source = t.toExpression source
  type : t'.toType source = t.toType source
  operands : t'.operands.map (toExpression source) = t.operands.map (toExpression source)
  types : t.field = some "type_arguments" ∨ t.kind = "type_annotation" →
    t'.operands.map (toType source) = t.operands.map (toType source)

/-- A child that is read as a part of a type name: a side of a dotted name, or the name of a generic
type. -/
def IsTypeNamePart (t c : Tree) : Prop :=
  t.kind = "nested_type_identifier" ∨ t.kind = "nested_identifier" ∨
    t.kind = "generic_type" ∧ c.field = some "name"

instance (t c : Tree) : Decidable (IsTypeNamePart t c) :=
  inferInstanceAs (Decidable (_ ∨ _ ∨ _ ∧ _))

section Context

variable {source : Bytes} {c c' t t' : Tree}

/-- A name that is not dotted is its text. -/
theorem toTypeName_of_kind_notMem
    (h : t.kind ∉ ["nested_type_identifier", "nested_identifier", "member_expression"]) :
    t.toTypeName source = .simple (t.text source) t.span := by
  simp only [List.mem_cons, List.not_mem_nil, or_false, not_or] at h
  rw [toTypeName_eq_read, if_neg (by simp [h.1, h.2.1]), if_neg (by simp [h.2.2])]

/-- So it is decided by the kind and the place of the node. -/
theorem toTypeName_congr_of_kind_notMem
    (h : t.kind ∉ ["nested_type_identifier", "nested_identifier", "member_expression"])
    (hkind : t'.kind = t.kind) (hspan : t'.span = t.span) :
    t'.toTypeName source = t.toTypeName source := by
  have htext : t'.text source = t.text source := congrArg (Span.text · source) hspan
  have h' : t'.kind ∉ ["nested_type_identifier", "nested_identifier", "member_expression"] := by
    rwa [hkind]
  rw [toTypeName_of_kind_notMem h, toTypeName_of_kind_notMem h', htext, hspan]

/-- A type name shows of its sides their names, their texts and their places. -/
theorem toTypeName_of_replacesChild (h : ReplacesChild c c' t t') (hnamed : c'.named = c.named)
    (hkind : c'.kind = c.kind) (hspan : c'.span = c.span) (hfield : c'.field = c.field)
    (hname : c'.toTypeName source = c.toTypeName source) :
    t'.toTypeName source = t.toTypeName source := by
  have hside : side source c' = side source c := by
    simp only [side, hname, text, hspan]
  have hoperands := h.map_operands (g := side source) hnamed (by rw [hkind]) hside
  have hobject := h.map_child? (g := side source) (f := "object") hfield fun _ => hside
  have hproperty := h.map_child? (g := side source) (f := "property") hfield fun _ => hside
  rw [toTypeName_eq_read, toTypeName_eq_read source t]
  simp only [h.kind, h.span, h.text, hoperands, hobject, hproperty]

theorem SameReading.text (h : SameReading source t t') : t'.text source = t.text source :=
  congrArg (Span.text · source) h.span

theorem SameReading.operand? (h : SameReading source t t') :
    t'.operand?.map (toExpression source) = t.operand?.map (toExpression source) := by
  rw [map_operand?, map_operand?, h.operands]

theorem SameReading.toDeclaredType (h : SameReading source t t') :
    t'.toDeclaredType source = t.toDeclaredType source := by
  rw [Tree.toDeclaredType, Tree.toDeclaredType, h.kind, h.type]
  split_ifs with hannotation
  · rw [map_operand?, map_operand?, h.types (Or.inr (eq_of_beq hannotation))]
  · rfl

/-- **From a child to its parent.** If two children cannot be told apart, then no more can the two
nodes that have the one and the other. Only type names look deeper than at one child. -/
theorem SameReading.of_replacesChild (h : ReplacesChild c c' t t') (hc : SameReading source c c')
    (hname : IsTypeNamePart t c → c'.toTypeName source = c.toTypeName source) :
    SameReading source t t' := by
  have hcomment : (c'.kind != "comment") = (c.kind != "comment") := by rw [hc.kind]
  have hoperands : t'.operands.map (toExpression source) = t.operands.map (toExpression source) :=
    h.map_operands hc.named hcomment hc.expression
  have htypes : t'.operands.map (toType source) = t.operands.map (toType source) :=
    h.map_operands hc.named hcomment hc.type
  -- two lists of arguments cannot be told apart if their parts are read the same
  have harguments : t'.argumentTrees.map (toExpression source) =
      t.argumentTrees.map (toExpression source) := by
    rw [map_argumentTrees, map_argumentTrees,
      h.map_child? hc.field fun _ => by rw [hc.kind, hc.operands]]
  have htypeArguments : t'.typeArgumentTrees.map (toType source) =
      t.typeArgumentTrees.map (toType source) := by
    rw [map_typeArgumentTrees, map_typeArgumentTrees,
      h.map_child? hc.field fun hfield => hc.types (Or.inl hfield)]
  refine ⟨h.kind, h.named, h.span, h.field, ?_, ?_, hoperands, fun _ => htypes⟩
  · refine toExpression_congr source h.kind h.span
      (fun field => h.map_child? hc.field fun _ => hc.expression) ?_
      (h.any_children (by simp only [hc.kind])) (fun _ => ⟨harguments, htypeArguments⟩)
    rw [map_operand?, map_operand?, hoperands]
  · refine toType_congr source h.kind h.span (fun _ => ?_) (fun hgeneric => ⟨?_, htypeArguments⟩)
      fun hidentifier => ?_
    · rw [map_operand?, map_operand?, htypes]
    · exact h.map_child? hc.field fun hfield => hname (Or.inr (Or.inr ⟨hgeneric, hfield⟩))
    · rcases hidentifier with hidentifier | hnested
      · -- a plain name has no sides
        exact toTypeName_congr_of_kind_notMem (by simp [hidentifier]) h.kind h.span
      · exact toTypeName_of_replacesChild h hc.named hc.kind hc.span hc.field
          (hname (Or.inl hnested))

/-- **From one place to the whole tree.** A step that no parent notices is not noticed by the tree,
if it is not taken below a type name. -/
theorem SameReading.of_within {enters step : Tree → Tree → Prop}
    (henters : ∀ t c, enters t c → ¬ IsTypeNamePart t c)
    (hstep : ∀ t t', step t t' → SameReading source t t') (h : Within enters step t t') :
    SameReading source t t' := by
  -- along the way from the place of the step up to the root
  induction h with
  | here taken => exact hstep _ _ taken
  | inside entered replaced _ ih =>
    exact SameReading.of_replacesChild replaced ih fun hpart =>
      absurd hpart (henters _ _ entered)

end Context

/-! ### A node in parentheses -/

/-- The same node under another field. -/
def withField (t : Tree) (field : Option String) : Tree :=
  match t with
  | node k n s _ cs => node k n s field cs

/-- A node that may stand as an operand: it stands for something, and is not the token of an
optional chain. -/
structure IsOperand (t : Tree) : Prop where
  named : t.named = true
  kind : t.kind ∉ ["comment", "optional_chain", "?."]

instance (t : Tree) : Decidable t.IsOperand :=
  decidable_of_iff (t.named = true ∧ t.kind ∉ ["comment", "optional_chain", "?."])
    ⟨fun h => ⟨h.1, h.2⟩, fun h => ⟨h.named, h.kind⟩⟩

/-- A node that stands for nothing: a token or a comment. -/
def IsPadding (t : Tree) : Prop := t.named = false ∨ t.kind = "comment"

instance (t : Tree) : Decidable t.IsPadding := inferInstanceAs (Decidable (_ ∨ _))

/-- A node over some bytes with nothing below it. -/
def leaf (kind : String) (named : Bool) (start stop : Nat) (field : Option String) : Tree :=
  node kind named { startByte := start, endByte := stop } field []

/-- A node in parentheses. The parentheses stand at a place of their own, under the field that the
node had, and have the nodes `before` and `after` around it. -/
def parenthesized (t : Tree) (span : Span) (before after : List Tree) : Tree :=
  node "parenthesized_expression" true span t.field (before ++ t.withField none :: after)

section Parenthesized

variable {source : Bytes} {c t t' : Tree} {span : Span} {before after : List Tree}

@[simp] theorem kind_withField (t : Tree) (field : Option String) :
    (t.withField field).kind = t.kind := by
  cases t
  rfl

@[simp] theorem named_withField (t : Tree) (field : Option String) :
    (t.withField field).named = t.named := by
  cases t
  rfl

@[simp] theorem span_withField (t : Tree) (field : Option String) :
    (t.withField field).span = t.span := by
  cases t
  rfl

@[simp] theorem children_withField (t : Tree) (field : Option String) :
    (t.withField field).children = t.children := by
  cases t
  rfl

@[simp] theorem kind_parenthesized :
    (t.parenthesized span before after).kind = "parenthesized_expression" := rfl

@[simp] theorem named_parenthesized : (t.parenthesized span before after).named = true := rfl

@[simp] theorem field_parenthesized : (t.parenthesized span before after).field = t.field := rfl

theorem children_parenthesized :
    (t.parenthesized span before after).children = before ++ t.withField none :: after := rfl

/-- The field of a node is no part of its expression. -/
theorem toExpression_withField (t : Tree) (field : Option String) :
    (t.withField field).toExpression source = t.toExpression source := by
  have hchild : ∀ f, (t.withField field).child? f = t.child? f := fun f => by
    rw [child?, children_withField, child?]
  refine toExpression_congr source (kind_withField t field) (span_withField t field)
    (fun f => by rw [hchild]) ?_ (by rw [children_withField]) fun _ => ?_
  · rw [operand?, operands, children_withField, operand?, operands]
  · rw [argumentTrees, typeArgumentTrees, hchild, hchild]
    exact ⟨rfl, rfl⟩

/-- Tokens and comments are not among the parts. -/
theorem filter_padding {padding : List Tree} (h : ∀ p ∈ padding, p.IsPadding) :
    (padding.filter fun p => p.named && p.kind != "comment") = [] := by
  refine List.filter_eq_nil_iff.2 fun p hp => ?_
  rcases h p hp with hnamed | hkind
  · simp [hnamed]
  · simp [hkind]

/-- What stands in parentheses is the only part of them. -/
theorem operands_parenthesized (ht : t.IsOperand) (hpadding : ∀ p ∈ before ++ after, p.IsPadding) :
    (t.parenthesized span before after).operands = [t.withField none] := by
  have hkept : ((t.withField none).named && (t.withField none).kind != "comment") = true := by
    have hkind := ht.kind
    simp only [List.mem_cons, not_or] at hkind
    simp [ht.named, hkind.1]
  rw [operands, children_parenthesized, List.filter_append, List.filter_cons, if_pos hkept,
    filter_padding fun p hp => hpadding p (List.mem_append_left _ hp),
    filter_padding fun p hp => hpadding p (List.mem_append_right _ hp), List.nil_append]

/-- **Parentheses are not read**, nor is what stands around a node in them. -/
theorem toExpression_parenthesized (ht : t.IsOperand)
    (hpadding : ∀ p ∈ before ++ after, p.IsPadding) :
    (t.parenthesized span before after).toExpression source = t.toExpression source := by
  have hshape : (t.parenthesized span before after).shape = .parentheses (t.withField none) := by
    rw [shape, operand?, operands_parenthesized ht hpadding]
    rfl
  rw [toExpression_eq, hshape]
  exact toExpression_withField t none

/-- **An operand in parentheses.** A node one of whose operands is put in parentheses cannot be told
apart from what it was, unless it reads this operand as a type. -/
theorem SameReading.of_parenthesized
    (h : ReplacesChild c (c.parenthesized span before after) t t') (hc : c.IsOperand)
    (hpadding : ∀ p ∈ before ++ after, p.IsPadding)
    (hkind : t.kind ∉
      ["parenthesized_type", "generic_type", "nested_type_identifier", "type_annotation"])
    (hlist : t.kind = "call_expression" ∨ t.kind = "new_expression" →
      c.field ∉ [some "arguments", some "type_arguments"])
    (hfield : t.field ≠ some "type_arguments") : SameReading source t t' := by
  have hsame : (c.parenthesized span before after).toExpression source = c.toExpression source :=
    toExpression_parenthesized hc hpadding
  obtain ⟨hcomment, hchain, htoken⟩ : c.kind ≠ "comment" ∧ c.kind ≠ "optional_chain" ∧
      c.kind ≠ "?." := by simpa using hc.kind
  simp only [List.mem_cons, List.not_mem_nil, or_false, not_or] at hkind
  have hoperands : t'.operands.map (toExpression source) = t.operands.map (toExpression source) :=
    h.map_operands hc.named.symm (by simp [hcomment]) hsame
  -- a call keeps its lists of arguments, since the operand is neither of them
  have hother : c.field ∉ [some "arguments", some "type_arguments"] →
      t'.argumentTrees.map (toExpression source) = t.argumentTrees.map (toExpression source) ∧
        t'.typeArgumentTrees.map (toType source) = t.typeArgumentTrees.map (toType source) := by
    intro hc
    simp only [List.mem_cons, List.not_mem_nil, or_false, not_or] at hc
    rw [map_argumentTrees, map_argumentTrees, map_typeArgumentTrees, map_typeArgumentTrees,
      h.map_child? field_parenthesized fun hfield => absurd hfield hc.1,
      h.map_child? field_parenthesized fun hfield => absurd hfield hc.2]
    exact ⟨rfl, rfl⟩
  -- the parentheses are read as a type of their own, but not in a node of one of these kinds
  refine ⟨h.kind, h.named, h.span, h.field, ?_, ?_, hoperands, ?_⟩
  · refine toExpression_congr source h.kind h.span
      (fun field => h.map_child? field_parenthesized fun _ => hsame) ?_ (h.any_children ?_)
      fun hcall => hother (hlist hcall)
    · rw [map_operand?, map_operand?, hoperands]
    · -- neither the operand nor the parentheses make a chain optional
      simp [hchain, htoken]
  · refine toType_congr source h.kind h.span (fun h => absurd h hkind.1)
      (fun h => absurd h hkind.2.1) fun hname => ?_
    rcases hname with hidentifier | hnested
    · exact toTypeName_congr_of_kind_notMem (by simp [hidentifier]) h.kind h.span
    · exact absurd hnested hkind.2.2.1
  · rintro (harguments | hannotation)
    · exact absurd harguments hfield
    · exact absurd hannotation hkind.2.2.2

end Parenthesized

end Tree

end SignalLint
