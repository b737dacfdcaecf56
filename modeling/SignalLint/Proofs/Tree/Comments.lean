import Mathlib.Data.List.Find
import Mathlib.Data.List.Flatten
import SignalLint.Lint.Source
import SignalLint.Proofs.Tree.Visits

/-!
# Comments are not seen

A comment is a named node and may stand between any two parts of a construct: in parentheses and
argument lists, behind a decorator's sign, in annotations and dotted names. This module takes all
comments out of a tree (`Tree.withoutComments`) and says that nobody can tell.

* `Tree.BareComments` — what comments are like: they have nothing below them, and no parent holds
  them under a field.
* `child?_withoutComments`, `operands_withoutComments`, `any_children_withoutComments` — the three
  ways to look at the children of a node. The first finds no comment since these have no field, the
  second leaves them out, and the third asks for tokens of other kinds.
* `shape_withoutComments`, `typeShape_withoutComments`, `dotted?_withoutComments` — so a node has
  the same parts, and by recursion is read the same (`toExpression_withoutComments`,
  `toType_withoutComments`).
* `Visit.contribution?_withoutComments` — one node, below ancestors that have lost their comments
  too; `Tree.preorder_withoutComments` — the nodes that are left, in the same order.

The main statement, `lintSource_withoutComments`, is about the unit of a tree and about linting with
a grammar that drops comments.
-/

namespace SignalLint

namespace Tree

/-! ### Taking comments out -/

/-- Whether a node is a comment. -/
def isComment (t : Tree) : Bool := t.kind == "comment"

mutual

/-- A tree without the comments below its root. All other nodes keep their places. -/
def withoutComments : Tree → Tree
  | node k n s f cs => node k n s f (withoutCommentsAll cs)

/-- Siblings without the comments among them and below them. -/
def withoutCommentsAll : List Tree → List Tree
  | [] => []
  | c :: cs =>
    if c.isComment then withoutCommentsAll cs else c.withoutComments :: withoutCommentsAll cs

end

theorem withoutCommentsAll_eq (cs : List Tree) :
    withoutCommentsAll cs = (cs.filter (!·.isComment)).map withoutComments := by
  induction cs with
  | nil => rfl
  | cons c cs ih =>
    rw [withoutCommentsAll, ih, List.filter_cons]
    cases c.isComment <;> rfl

/-- Comments have nothing below them and stand under no field. -/
def BareComments (t : Tree) : Prop :=
  t.Everywhere fun c => c.isComment = true → c.children = [] ∧ c.field = none

instance (t : Tree) : Decidable t.BareComments :=
  inferInstanceAs (Decidable (Everywhere _ t))

section

variable (t : Tree)

@[simp] theorem kind_withoutComments : t.withoutComments.kind = t.kind := by
  cases t
  rw [withoutComments]
  rfl

@[simp] theorem named_withoutComments : t.withoutComments.named = t.named := by
  cases t
  rw [withoutComments]
  rfl

@[simp] theorem span_withoutComments : t.withoutComments.span = t.span := by
  cases t
  rw [withoutComments]
  rfl

@[simp] theorem field_withoutComments : t.withoutComments.field = t.field := by
  cases t
  rw [withoutComments]
  rfl

theorem children_withoutComments :
    t.withoutComments.children = (t.children.filter (!·.isComment)).map withoutComments := by
  cases t
  rw [withoutComments, ← withoutCommentsAll_eq]
  rfl

/-- Going through the children that are left is going through all and passing the comments. -/
theorem flatMap_children_withoutComments {α : Type} (g : Tree → List α) :
    t.withoutComments.children.flatMap g =
      t.children.flatMap fun c => if c.isComment then [] else g c.withoutComments := by
  rw [children_withoutComments, List.flatMap_map]
  induction t.children with
  | nil => rfl
  | cons c cs ih =>
    rw [List.filter_cons, List.flatMap_cons, ← ih]
    cases c.isComment <;> rfl

@[simp] theorem text_withoutComments (source : Bytes) :
    t.withoutComments.text source = t.text source :=
  congrArg (Span.text · source) t.span_withoutComments

@[simp] theorem isClass_withoutComments : t.withoutComments.isClass = t.isClass :=
  congrArg classKinds.contains t.kind_withoutComments

end

/-! ### The children of a node -/

section Children

variable {t : Tree}

/-- A field holds the same child, since it holds no comment. -/
theorem child?_withoutComments (h : t.BareComments) (field : String) :
    t.withoutComments.child? field = (t.child? field).map withoutComments := by
  have hfield : ((fun c : Tree => c.field == some field) ∘ withoutComments) =
      fun c => c.field == some field := by
    funext c
    rw [Function.comp_apply, field_withoutComments]
  have hkept : ∀ c ∈ t.children,
      decide ((!c.isComment) = true ∧ (c.field == some field) = true) =
        (c.field == some field) := by
    intro c hc
    rw [Bool.eq_iff_iff]
    cases hcomment : c.isComment with
    | false => simp
    | true => simp [((h.child hc).self hcomment).2]
  rw [child?, children_withoutComments, List.find?_map, hfield, List.find?_filter, child?]
  exact congrArg _ (List.find?_congr hkept)

/-- A test for kinds that comments are none of need not ask for comments. -/
theorem and_not_isComment {p : String → Bool} (hp : p "comment" = false) (c : Tree) :
    (p c.kind && !c.isComment) = p c.kind := by
  cases hcomment : c.isComment with
  | false => exact Bool.and_true _
  | true =>
    rw [eq_of_beq hcomment, hp]
    rfl

/-- The children of such kinds are the same ones. -/
theorem filter_children_withoutComments (t : Tree) {p : String → Bool} (hp : p "comment" = false) :
    t.withoutComments.children.filter (fun c => p c.kind) =
      (t.children.filter fun c => p c.kind).map withoutComments := by
  have hsame : ((fun c : Tree => p c.kind) ∘ withoutComments) = fun c => p c.kind :=
    funext fun c => congrArg p c.kind_withoutComments
  rw [children_withoutComments, List.filter_map, hsame, List.filter_filter]
  simp only [and_not_isComment hp]

theorem any_children_withoutComments (t : Tree) {p : String → Bool} (hp : p "comment" = false) :
    t.withoutComments.children.any (fun c => p c.kind) = t.children.any (fun c => p c.kind) := by
  rw [children_withoutComments, List.any_map, List.any_filter]
  refine congrArg t.children.any (funext fun c => ?_)
  rw [Function.comp_apply, kind_withoutComments, Bool.and_comm]
  exact and_not_isComment hp c

/-- The parts of a node are the same ones. -/
theorem operands_withoutComments (t : Tree) :
    t.withoutComments.operands = t.operands.map withoutComments := by
  have hparts : ∀ t : Tree, t.operands = (t.children.filter (·.kind != "comment")).filter
      (·.named) := fun t => (List.filter_filter ..).symm
  have hnamed : (fun c : Tree => c.named) ∘ withoutComments = fun c => c.named :=
    funext named_withoutComments
  rw [hparts, hparts, filter_children_withoutComments t (p := (· != "comment")) rfl,
    List.filter_map, hnamed]

theorem operand?_withoutComments (t : Tree) :
    t.withoutComments.operand? = t.operand?.map withoutComments := by
  rw [operand?, operands_withoutComments, List.head?_map, operand?]

end Children

/-! ### What a node consists of -/

/-- The shape of a node whose parts are replaced. -/
def Shape.map (φ : Tree → Tree) : Shape → Shape
  | .parentheses inner => .parentheses (φ inner)
  | .member object property optional => .member (φ object) (φ property) optional
  | .subscript object index => .subscript (φ object) (φ index)
  | .call callee => .call (φ callee)
  | .construct callee => .construct (φ callee)
  | .name => .name
  | .privateName => .privateName
  | .this => .this
  | .other => .other

def TypeShape.map (φ : Tree → Tree) : TypeShape → TypeShape
  | .parentheses inner => .parentheses (φ inner)
  | .generic base => .generic (φ base)
  | .name => .name
  | .other => .other

section Shapes

variable {t : Tree}

theorem shape_withoutComments (h : t.BareComments) :
    t.withoutComments.shape = t.shape.map withoutComments := by
  have hoptional := any_children_withoutComments t
    (p := fun kind => kind == "optional_chain" || kind == "?.") rfl
  unfold shape
  simp only [kind_withoutComments, operand?_withoutComments, child?_withoutComments h, hoptional,
    apply_ite (Shape.map withoutComments)]
  -- one test of the chain after the other; where it finds its parts, both sides do
  congr! 1
  congr! 1
  congr! 1
  congr! 1
  · cases t.operand? <;> rfl
  congr! 1
  · cases t.child? "object" <;> cases t.child? "property" <;> rfl
  congr! 1
  · cases t.child? "object" <;> cases t.child? "index" <;> rfl
  congr! 1
  · cases t.child? "function" <;> rfl
  congr! 1
  · cases t.child? "constructor" <;> rfl

theorem typeShape_withoutComments (h : t.BareComments) :
    t.withoutComments.typeShape = t.typeShape.map withoutComments := by
  unfold typeShape
  simp only [kind_withoutComments, operand?_withoutComments, child?_withoutComments h,
    apply_ite (TypeShape.map withoutComments)]
  congr! 1
  · cases t.operand? <;> rfl
  congr! 1
  · cases t.child? "name" <;> rfl

/-- A dotted name has the same sides: the parts before and behind its dots, without comments. -/
theorem dotted?_withoutComments (h : t.BareComments) :
    t.withoutComments.dotted? =
      t.dotted?.map fun sides => (sides.1.withoutComments, sides.2.withoutComments) := by
  unfold dotted?
  simp only [kind_withoutComments, operands_withoutComments, child?_withoutComments h,
    apply_ite (Option.map _)]
  congr! 1
  · rcases t.operands with _ | ⟨left, _ | ⟨next, rest⟩⟩
    · rfl
    · rfl
    · -- the last of the replaced parts is the last part, replaced
      refine congrArg (fun last => some (left.withoutComments, last)) ?_
      exact List.getLast_map (l := next :: rest) (List.cons_ne_nil _ _)
  congr! 1
  · cases t.child? "object" <;> cases t.child? "property" <;> rfl

theorem typeArgumentTrees_withoutComments (h : t.BareComments) :
    t.withoutComments.typeArgumentTrees = t.typeArgumentTrees.map withoutComments := by
  rw [typeArgumentTrees, child?_withoutComments h, typeArgumentTrees]
  cases t.child? "type_arguments" with
  | none => rfl
  | some list => exact operands_withoutComments list

theorem argumentTrees_withoutComments (h : t.BareComments) :
    t.withoutComments.argumentTrees = t.argumentTrees.map withoutComments := by
  rw [argumentTrees, child?_withoutComments h, argumentTrees]
  cases t.child? "arguments" with
  | none => rfl
  | some list =>
    simp only [Option.map_some, kind_withoutComments, operands_withoutComments,
      apply_ite (List.map withoutComments), List.map_nil]

/-- What is below the parts of a node is below the node. -/
theorem Everywhere.of_mem_argumentTrees {P : Tree → Prop} {c : Tree} (h : t.Everywhere P)
    (hc : c ∈ t.argumentTrees) : c.Everywhere P := by
  unfold argumentTrees at hc
  split at hc
  · rename_i list hlist
    split at hc
    · exact (h.child (mem_children_of_child? hlist)).child (mem_children_of_mem_operands hc)
    · exact absurd hc List.not_mem_nil
  · exact absurd hc List.not_mem_nil

theorem Everywhere.of_mem_typeArgumentTrees {P : Tree → Prop} {c : Tree} (h : t.Everywhere P)
    (hc : c ∈ t.typeArgumentTrees) : c.Everywhere P := by
  unfold typeArgumentTrees at hc
  split at hc
  · rename_i list hlist
    exact (h.child (mem_children_of_child? hlist)).child (mem_children_of_mem_operands hc)
  · exact absurd hc List.not_mem_nil

theorem Everywhere.of_mem_shape {P : Tree → Prop} {s : Shape} {c : Tree} (h : t.Everywhere P)
    (hs : t.shape = s) (hc : c ∈ s.parts) : c.Everywhere P :=
  h.child (mem_children_of_mem_shape (hs ▸ hc))

theorem Everywhere.of_mem_typeShape {P : Tree → Prop} {s : TypeShape} {c : Tree}
    (h : t.Everywhere P) (hs : t.typeShape = s) (hc : c ∈ s.parts) : c.Everywhere P :=
  h.child (mem_children_of_mem_typeShape (hs ▸ hc))

end Shapes

/-! ### Reading a node -/

section Reading

variable {t : Tree} (source : Bytes)

theorem toTypeName_withoutComments (h : t.BareComments) :
    t.withoutComments.toTypeName source = t.toTypeName source := by
  -- along the left sides of a dotted name
  induction t using toTypeName.induct with
  | case1 t left right hdotted ih =>
    have hleft := ih (h.child (mem_children_of_dotted? hdotted).1)
    rw [toTypeName_eq, toTypeName_eq source t, dotted?_withoutComments h, hdotted]
    simp only [Option.map_some, hleft, text_withoutComments, span_withoutComments]
  | case2 t hdotted =>
    rw [toTypeName_eq, toTypeName_eq source t, dotted?_withoutComments h, hdotted]
    simp only [Option.map_none, text_withoutComments, span_withoutComments]

theorem toType_withoutComments (h : t.BareComments) :
    t.withoutComments.toType source = t.toType source := by
  -- along the type arguments and out of parentheses
  induction t using toType.induct with
  | case1 t inner hshape ih =>
    have hinner := ih (h.of_mem_typeShape hshape (List.mem_singleton_self inner))
    rw [toType_eq, toType_eq source t, typeShape_withoutComments h, hshape]
    exact hinner
  | case2 t base hshape ih =>
    have hbase := toTypeName_withoutComments source
      (h.of_mem_typeShape hshape (List.mem_singleton_self base))
    have harguments : ∀ c ∈ t.typeArgumentTrees,
        (toType source ∘ withoutComments) c = toType source c :=
      fun c hc => ih c hc (h.of_mem_typeArgumentTrees hc)
    rw [toType_eq, toType_eq source t, typeShape_withoutComments h, hshape]
    simp only [TypeShape.map, hbase, typeArgumentTrees_withoutComments h, List.map_map,
      List.map_congr_left harguments, span_withoutComments]
  | case3 t hshape =>
    rw [toType_eq, toType_eq source t, typeShape_withoutComments h, hshape]
    simp only [TypeShape.map, toTypeName_withoutComments source h, span_withoutComments]
  | case4 t hshape =>
    rw [toType_eq, toType_eq source t, typeShape_withoutComments h, hshape]
    simp only [TypeShape.map, kind_withoutComments, text_withoutComments, span_withoutComments]

theorem map_toType_withoutComments (h : t.BareComments) :
    t.withoutComments.typeArgumentTrees.map (toType source) =
      t.typeArgumentTrees.map (toType source) := by
  rw [typeArgumentTrees_withoutComments h, List.map_map]
  exact List.map_congr_left fun c hc =>
    toType_withoutComments source (h.of_mem_typeArgumentTrees hc)

/-- **Comments are not read.** -/
theorem toExpression_withoutComments (h : t.BareComments) :
    t.withoutComments.toExpression source = t.toExpression source := by
  -- the induction is along the parts of an expression; comments are never among them
  induction t using toExpression.induct with
  | case1 t hshape | case2 t hshape | case3 t hshape | case9 t hshape =>
    rw [toExpression_eq, toExpression_eq source t, shape_withoutComments h, hshape]
    simp only [Shape.map, kind_withoutComments, text_withoutComments, span_withoutComments]
  | case4 t inner hshape ih =>
    have hinner := ih (h.of_mem_shape hshape (by simp [Shape.parts]))
    rw [toExpression_eq, toExpression_eq source t, shape_withoutComments h, hshape]
    exact hinner
  | case5 t object property optional hshape ihObject ihProperty =>
    have hobject := ihObject (h.of_mem_shape hshape (by simp [Shape.parts]))
    have hproperty := ihProperty (h.of_mem_shape hshape (by simp [Shape.parts]))
    rw [toExpression_eq, toExpression_eq source t, shape_withoutComments h, hshape]
    simp only [Shape.map, hobject, hproperty, span_withoutComments]
  | case6 t object index hshape ihObject ihIndex =>
    have hobject := ihObject (h.of_mem_shape hshape (by simp [Shape.parts]))
    have hindex := ihIndex (h.of_mem_shape hshape (by simp [Shape.parts]))
    rw [toExpression_eq, toExpression_eq source t, shape_withoutComments h, hshape]
    simp only [Shape.map, hobject, hindex, span_withoutComments]
  | case7 t callee hshape ihCallee ihArguments | case8 t callee hshape ihCallee ihArguments =>
    have hcallee := ihCallee (h.of_mem_shape hshape (by simp [Shape.parts]))
    have harguments : ∀ c ∈ t.argumentTrees,
        (toExpression source ∘ withoutComments) c = toExpression source c :=
      fun c hc => ihArguments c hc (h.of_mem_argumentTrees hc)
    rw [toExpression_eq, toExpression_eq source t, shape_withoutComments h, hshape]
    simp only [Shape.map, hcallee, argumentTrees_withoutComments h, List.map_map,
      List.map_congr_left harguments, map_toType_withoutComments source h, span_withoutComments]

theorem map_toExpression_withoutComments {c? : Option Tree} (h : ∀ c ∈ c?, c.BareComments) :
    (c?.map withoutComments).map (toExpression source) = c?.map (toExpression source) := by
  cases c? with
  | none => rfl
  | some c => exact congrArg some (toExpression_withoutComments source (h c rfl))

theorem declaredTypeAt_withoutComments (h : t.BareComments) (field : String) :
    t.withoutComments.declaredTypeAt source field = t.declaredTypeAt source field := by
  rw [declaredTypeAt, child?_withoutComments h, declaredTypeAt]
  cases hchild : t.child? field with
  | none => rfl
  | some c =>
    have hc : c.BareComments := h.child (mem_children_of_child? hchild)
    simp only [Option.map_some, Option.bind_some, toDeclaredType, kind_withoutComments,
      operand?_withoutComments, toType_withoutComments source hc]
    cases hoperand : c.operand? with
    | none => rfl
    | some inner =>
      have hinner : inner.BareComments := hc.child (mem_children_of_operand? hoperand)
      simp only [Option.map_some, toType_withoutComments source hinner]

theorem toDecorator_withoutComments (h : t.BareComments) :
    t.withoutComments.toDecorator source = t.toDecorator source := by
  rw [toDecorator, operand?_withoutComments, toDecorator]
  cases hoperand : t.operand? with
  | none => simp only [Option.map_none, span_withoutComments]
  | some e =>
    have he : e.BareComments := h.child (mem_children_of_operand? hoperand)
    simp only [Option.map_some, toExpression_withoutComments source he, span_withoutComments]

theorem className?_withoutComments (h : t.BareComments) :
    t.withoutComments.className? source = t.className? source := by
  rw [className?, child?_withoutComments h, Option.map_map, className?]
  exact congrArg (Option.map · _) (funext fun c => c.text_withoutComments source)

/-- A comment is none of the words that decide. -/
theorem fieldKind_withoutComments (t : Tree) : t.withoutComments.fieldKind = t.fieldKind := by
  unfold fieldKind
  -- a step of the loop that passes a comment leaves the kind as it is
  rw [children_withoutComments, List.foldl_map, List.foldl_filter]
  refine congrArg (List.foldl · FieldKind.plain t.children) ?_
  funext kind c
  rw [kind_withoutComments]
  cases hcomment : c.isComment with
  | false => rfl
  | true =>
    rw [eq_of_beq hcomment]
    rfl

theorem fieldKey_withoutComments (h : t.BareComments) :
    t.withoutComments.fieldKey source = t.fieldKey source := by
  rw [fieldKey, child?_withoutComments h, child?_withoutComments h, ← Option.map_or, fieldKey]
  cases hname : (t.child? "name").or (t.child? "property") with
  | none => simp only [Option.map_none, span_withoutComments]
  | some name =>
    have hbare : name.BareComments := h.child (mem_children_of_key? hname)
    simp only [Option.map_some, toExpression_withoutComments source hbare]

theorem returnType_withoutComments (h : t.BareComments) :
    t.withoutComments.returnType source = t.returnType source :=
  declaredTypeAt_withoutComments source h "return_type"

end Reading

end Tree

/-! ### What a node adds -/

namespace Visit

/-- The visit of the same node in the tree without comments. -/
def withoutComments (v : Visit) : Visit :=
  ⟨v.tree.withoutComments, v.ancestors.map Tree.withoutComments⟩

variable {v : Visit} (source : Bytes)

theorem enclosingClass?_withoutComments (v : Visit) :
    v.withoutComments.enclosingClass? = v.enclosingClass?.map Tree.withoutComments := by
  have hclass : Tree.isClass ∘ Tree.withoutComments = Tree.isClass :=
    funext Tree.isClass_withoutComments
  rw [enclosingClass?, withoutComments, List.find?_map, hclass]
  rfl

theorem parent?_withoutComments (v : Visit) :
    v.withoutComments.parent? = v.parent?.map Tree.withoutComments :=
  List.head?_map

theorem toField_withoutComments (h : v.tree.BareComments)
    (habove : ∀ a ∈ v.ancestors, a.BareComments) :
    v.withoutComments.toField source = v.toField source := by
  have hvalue : ((v.tree.withoutComments.child? "value").map (Tree.toExpression source)) =
      (v.tree.child? "value").map (Tree.toExpression source) := by
    rw [Tree.child?_withoutComments h]
    exact Tree.map_toExpression_withoutComments source
      fun c hc => h.child (Tree.mem_children_of_child? hc)
  have hdecorators :
      (v.tree.withoutComments.children.filter (·.kind == "decorator")).map (·.toDecorator source) =
        (v.tree.children.filter (·.kind == "decorator")).map (·.toDecorator source) := by
    rw [Tree.filter_children_withoutComments _ (p := (· == "decorator")) rfl, List.map_map]
    exact List.map_congr_left fun c hc =>
      Tree.toDecorator_withoutComments source (h.child (List.mem_filter.1 hc).1)
  have hclassName : (v.withoutComments.enclosingClass?.bind (·.className? source)) =
      v.enclosingClass?.bind (·.className? source) := by
    rw [enclosingClass?_withoutComments, Option.bind_map]
    cases hclass : v.enclosingClass? with
    | none => rfl
    | some c =>
      exact Tree.className?_withoutComments source (habove c (List.mem_of_find?_eq_some hclass))
  have hreadonly := Tree.any_children_withoutComments v.tree (p := (· == "readonly")) rfl
  have hstatic := Tree.any_children_withoutComments v.tree (p := (· == "static")) rfl
  simp only [toField, hclassName, Field.mk.injEq]
  exact ⟨Tree.fieldKind_withoutComments _, Tree.fieldKey_withoutComments source h,
    Tree.declaredTypeAt_withoutComments source h "type", hvalue, hreadonly, hstatic, hdecorators,
    trivial, Tree.span_withoutComments _⟩

theorem variableContribution?_withoutComments (h : v.tree.BareComments) :
    v.withoutComments.variableContribution? source = v.variableContribution? source := by
  have htype := Tree.declaredTypeAt_withoutComments source h "type"
  unfold variableContribution?
  simp only [withoutComments, Tree.child?_withoutComments h, htype]
  cases v.tree.child? "name" with
  | none => rfl
  | some name =>
    simp only [Option.map_some, Tree.kind_withoutComments, Tree.text_withoutComments]
    cases hvalue : v.tree.child? "value" with
    | none => rfl
    | some value =>
      have hv : value.BareComments := h.child (Tree.mem_children_of_child? hvalue)
      simp only [Option.map_some, Tree.kind_withoutComments,
        Tree.returnType_withoutComments source hv, Tree.toExpression_withoutComments source hv]

theorem methodContribution?_withoutComments (h : v.tree.BareComments) :
    v.withoutComments.methodContribution? source = v.methodContribution? source := by
  have hget := Tree.any_children_withoutComments v.tree (p := (· == "get")) rfl
  have hreturn := Tree.returnType_withoutComments source h
  unfold methodContribution?
  rw [parent?_withoutComments, enclosingClass?_withoutComments]
  simp only [withoutComments, Tree.child?_withoutComments h, hget, hreturn]
  cases v.tree.child? "name" with
  | none => rfl
  | some name =>
    cases v.parent? with
    | none => rfl
    | some parent =>
      cases v.enclosingClass? with
      | none => rfl
      | some owner =>
        simp only [Option.map_some, Tree.kind_withoutComments, Tree.text_withoutComments,
          Tree.span_withoutComments]

/-- **One node adds the same**, below ancestors that have lost their comments too. -/
theorem contribution?_withoutComments (h : v.tree.BareComments)
    (habove : ∀ a ∈ v.ancestors, a.BareComments) :
    v.withoutComments.contribution? source = v.contribution? source := by
  have htree : v.withoutComments.tree = v.tree.withoutComments := rfl
  unfold contribution?
  simp only [htree, Tree.kind_withoutComments, Tree.isClass_withoutComments,
    Tree.named_withoutComments, Tree.span_withoutComments, Tree.child?_withoutComments h,
    Tree.toExpression_withoutComments source h, Tree.className?_withoutComments source h,
    Tree.toDecorator_withoutComments source h, Tree.returnType_withoutComments source h,
    toField_withoutComments source h habove, enclosingClass?_withoutComments, Option.map_map,
    Function.comp_def, Tree.text_withoutComments, variableContribution?_withoutComments source h,
    methodContribution?_withoutComments source h]

/-- A comment adds nothing. -/
theorem contribution?_of_isComment (h : v.tree.isComment = true) :
    v.contribution? source = none := by
  have hkind : v.tree.kind = "comment" := eq_of_beq h
  unfold contribution?
  rw [Tree.isClass, hkind]
  rfl

end Visit

/-! ### The nodes that are left -/

namespace Tree

/-- **What is left** are the other nodes, in the same order and below the same nodes. -/
theorem preorder_withoutComments {t : Tree} (h : t.BareComments) (hroot : t.isComment = false)
    (ancestors : List Tree) :
    t.withoutComments.preorder (ancestors.map withoutComments) =
      ((t.preorder ancestors).filter (!·.tree.isComment)).map Visit.withoutComments := by
  induction t using Tree.induction generalizing ancestors with
  | step t ih =>
    have hchildren : ∀ c ∈ t.children,
        (if c.isComment then [] else
          c.withoutComments.preorder ((t :: ancestors).map withoutComments)) =
          ((c.preorder (t :: ancestors)).filter (!·.tree.isComment)).map
            Visit.withoutComments := by
      intro c hc
      cases hcomment : c.isComment with
      | false => exact ih c hc (h.child hc) hcomment _
      | true =>
        -- nothing stands below a comment, so nothing of it is left
        have hpreorder : c.preorder (t :: ancestors) = [⟨c, t :: ancestors⟩] := by
          rw [preorder_eq, ((h.child hc).self hcomment).1, List.flatMap_nil]
        simp only [hpreorder, if_true, List.filter_cons, hcomment, Bool.not_true,
          Bool.false_eq_true, if_false, List.filter_nil, List.map_nil]
    rw [preorder_eq, preorder_eq ancestors t, flatMap_children_withoutComments,
      List.filter_cons_of_pos (by rw [hroot]; rfl), List.map_cons, List.filter_flatMap,
      List.map_flatMap, ← List.flatMap_congr hchildren]
    rfl

/-- **A tree adds the same** to its unit. -/
theorem contributions_withoutComments {t : Tree} (h : t.BareComments)
    (hroot : t.isComment = false) (source : Bytes) :
    t.withoutComments.contributions source = t.contributions source := by
  have hleft := preorder_withoutComments h hroot []
  rw [List.map_nil, ← walk_eq_preorder, ← walk_eq_preorder] at hleft
  rw [contributions, hleft, List.filterMap_map, List.filterMap_filter, contributions]
  refine List.filterMap_congr fun v hv => ?_
  -- a comment adds nothing where it stands, and every other node what it added
  cases hcomment : v.tree.isComment with
  | true => exact (Visit.contribution?_of_isComment source hcomment).symm
  | false =>
    have hbelow : ∀ u ∈ t.walk, u.tree.BareComments := fun u hu =>
      h.below (walk_eq_preorder t ▸ hu)
    refine Visit.contribution?_withoutComments source (hbelow v hv) fun a ha => ?_
    obtain ⟨-, u, hu, rfl⟩ := exists_visit_of_mem_ancestors hv ha
    exact hbelow u hu

end Tree

theorem SourceUnit.ofTree_withoutComments {root : Tree} (h : root.BareComments)
    (hroot : root.isComment = false) (path language : String) (source : Bytes)
    (hasErrors : Bool) :
    SourceUnit.ofTree path language source root.withoutComments hasErrors =
      SourceUnit.ofTree path language source root hasErrors := by
  rw [SourceUnit.ofTree, SourceUnit.ofTree, Tree.contributions_withoutComments h hroot]

/-! ### Linting -/

/-- A grammar that drops comments. -/
def Parser.withoutComments (p : Parser) : Parser where
  languages := p.languages
  parse name source := (p.parse name source).map fun parsed =>
    { parsed with root := parsed.root.withoutComments }

theorem Parser.parse?_withoutComments (p : Parser) (name : String) (source : Bytes) :
    p.withoutComments.parse? name source =
      (p.parse? name source).map fun parsed =>
        { parsed with root := parsed.root.withoutComments } := by
  have hsupports : p.withoutComments.supports name = p.supports name := rfl
  unfold parse?
  rw [hsupports]
  cases p.supports name <;> rfl

/-- A linter whose grammar drops comments. -/
def Linter.withoutComments (l : Linter) : Linter :=
  { l with parser := l.parser.map Parser.withoutComments }

/-- The trees that a grammar has for a source have bare comments, below another root. -/
def Parser.CommentsBare (p : Parser) (source : Bytes) : Prop :=
  ∀ name parsed, p.parse? name source = some parsed →
    parsed.root.BareComments ∧ parsed.root.isComment = false

theorem parseSource_withoutComments {parser : Option Parser} {content : String}
    (h : ∀ p ∈ parser, p.CommentsBare (Utf8.encode content)) (path : String)
    (language : Option String) :
    parseSource (parser.map Parser.withoutComments) content path language =
      parseSource parser content path language := by
  cases parser with
  | none => rfl
  | some p =>
    have hsupports : p.withoutComments.supports = p.supports := rfl
    unfold parseSource
    simp only [Option.map_some, hsupports, p.parse?_withoutComments]
    -- the language is the same, so only what the grammar has for it can differ
    cases (language.filter (!·.isEmpty)).or (FilePath.ofString path).language? with
    | none => rfl
    | some name =>
      cases hparse : p.parse? name (Utf8.encode content) with
      | none => simp only [hparse, Option.map_none]
      | some parsed =>
        obtain ⟨hbare, hroot⟩ := h p rfl name parsed hparse
        simp only [hparse, Option.map_some, SourceUnit.ofTree_withoutComments hbare hroot]

/-- **Comments are not seen.** Take the comments out of a parse tree, in which they are leaves under
no field and not the root: its unit has the same nodes and the same declarations. So a linter whose
grammar drops comments says of a source what it says with them. -/
theorem lintSource_withoutComments :
    (∀ root : Tree, root.BareComments → root.isComment = false →
      ∀ path language source hasErrors,
        let unit := SourceUnit.ofTree path language source root hasErrors
        let bare := SourceUnit.ofTree path language source root.withoutComments hasErrors
        bare.nodes = unit.nodes ∧ bare.declarations = unit.declarations) ∧
      ∀ (l : Linter) (content path : String) (language : Option String),
        (∀ p ∈ l.parser, p.CommentsBare (Utf8.encode content)) →
          l.withoutComments.lintSource content path language =
            l.lintSource content path language := by
  constructor
  · intro root h hroot path language source hasErrors unit bare
    have heq : bare = unit := SourceUnit.ofTree_withoutComments h hroot path language source _
    exact ⟨congrArg SourceUnit.nodes heq, congrArg SourceUnit.declarations heq⟩
  · intro l content path language h
    have hparse := parseSource_withoutComments h path language
    rw [Linter.lintSource, Linter.lintSource]
    exact congrArg (Logged.andThen · _) hparse

/-- The tree of `new B(/**/);`. -/
def commentedCall : Tree :=
  .node "program" true { endByte := 12 } none [
    .node "expression_statement" true { endByte := 12 } none [
      .node "new_expression" true { endByte := 11 } none [
        .node "new" false { endByte := 3 } none [],
        .node "identifier" true { startByte := 4, endByte := 5 } (some "constructor") [],
        .node "arguments" true { startByte := 5, endByte := 11 } (some "arguments") [
          .node "(" false { startByte := 5, endByte := 6 } none [],
          .node "comment" true { startByte := 6, endByte := 10 } none [],
          .node ")" false { startByte := 10, endByte := 11 } none []]]]]

/-- A linter that takes every source for `new B(/**/);`. -/
def commentedCallLinter : Linter where
  config := {}
  options := .default
  parser := some ⟨["typescript"], fun _ _ => some { root := commentedCall }⟩

theorem lintSource_withoutComments_commentedCall :
    let source := Utf8.encode "new B(/**/);"
    commentedCall.walk.any (·.tree.isComment) = true ∧
      commentedCall.withoutComments.walk.any (·.tree.isComment) = false ∧
      (SourceUnit.ofTree "a.ts" "typescript" source commentedCall.withoutComments false).nodes =
        (SourceUnit.ofTree "a.ts" "typescript" source commentedCall false).nodes ∧
      commentedCallLinter.withoutComments.lintSource "new B(/**/);" "a.ts" =
        commentedCallLinter.lintSource "new B(/**/);" "a.ts" := by
  intro source
  have hbare : commentedCall.BareComments := by
    rw [Tree.BareComments, Tree.Everywhere, Tree.walk_eq_preorder]
    decide
  obtain ⟨hunit, hlint⟩ := lintSource_withoutComments
  refine ⟨?_, ?_, (hunit commentedCall hbare rfl "a.ts" "typescript" source false).1, ?_⟩
  · rw [Tree.walk_eq_preorder]
    decide
  · rw [Tree.walk_eq_preorder]
    decide
  · refine hlint commentedCallLinter _ "a.ts" none fun p hp name parsed hparsed => ?_
    -- whatever the language, the tree is the same one
    obtain rfl := Option.some.inj hp
    obtain ⟨-, hparsed⟩ := Option.ite_none_right_eq_some.1 hparsed
    obtain rfl := Option.some.inj hparsed
    exact ⟨hbare, rfl⟩

end SignalLint
