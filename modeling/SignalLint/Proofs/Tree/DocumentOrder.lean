import Mathlib.Data.List.Flatten
import SignalLint.Proofs.Tree.EnclosingClass

/-!
# The nodes of a unit in document order

A unit is read off its tree by one walk, which looks at each tree node through a chain of tests and
converts some of them. A conversion reads the tree below the node as well, and the walk goes on
into the same tree afterwards. The main statement, `nodes_ofTree_eq_map`, says what comes out: the
conversions of the listed tree nodes in recursive preorder, one for each and none for any other.

* `Visit.node?_contribution?` — one tree node: the chain of tests lists exactly the nodes of the
  listed kinds.
* `nodes_ofTree` — the whole tree, since the walk is the preorder.
* `Tree.preorder_sublist`, `Tree.cons_children_sublist_preorder` — a node and its children stand in
  the preorder one after another. So the decorators of a field, which the field holds too, are
  listed behind it as nodes of their own.
* `Tree.ProperlyNested.pairwise_preorder` — in a properly nested tree the preorder goes by first
  bytes: a node starts before what is inside it, and ends before its next sibling starts.
-/

namespace SignalLint

/-! ### Listed nodes -/

namespace Tree

/-- The grammar rules of the nodes that a unit lists. -/
def listedKinds : List String :=
  ["new_expression", "public_field_definition", "field_definition", "decorator"]

/-- Whether a unit lists the node. -/
def isListed (t : Tree) : Bool := listedKinds.contains t.kind

theorem isListed_iff {t : Tree} :
    t.isListed = true ↔
      t.kind = "new_expression" ∨ t.kind ∈ Visit.fieldKinds ∨ t.kind = "decorator" := by
  simp only [isListed, listedKinds, List.contains_iff_mem, Visit.fieldKinds, List.mem_cons,
    List.not_mem_nil, or_false, or_assoc]

/-- A `new` expression keeps its place, also when it lacks a constructor. -/
theorem span_toExpression_of_newExpression {t : Tree} (h : t.kind = "new_expression")
    (source : Bytes) : (t.toExpression source).span = t.span := by
  have hshape : (∃ callee, t.shape = .construct callee) ∨ t.shape = .other := by
    have hname : nameKinds.contains "new_expression" = false := by decide
    simp only [shape, h, hname]
    cases t.child? "constructor" with
    | some callee => exact Or.inl ⟨callee, rfl⟩
    | none => exact Or.inr rfl
  rw [toExpression_eq]
  rcases hshape with ⟨callee, hshape⟩ | hshape
  · rw [hshape]
    rfl
  · rw [hshape]
    rfl

end Tree

namespace Visit

variable {v : Visit} {source : Bytes}

/-- What a rule sees of a listed tree node. -/
def toNode (v : Visit) (source : Bytes) : Node :=
  if v.tree.kind = "new_expression" then .expression (v.tree.toExpression source)
  else if v.tree.kind = "decorator" then .decorator (v.tree.toDecorator source)
  else .field (v.toField source)

theorem toNode_of_newExpression (h : v.tree.kind = "new_expression") :
    v.toNode source = .expression (v.tree.toExpression source) := if_pos h

theorem toNode_of_decorator (h : v.tree.kind = "decorator") :
    v.toNode source = .decorator (v.tree.toDecorator source) := by
  have hne : v.tree.kind ≠ "new_expression" := by rw [h]; decide
  rw [toNode, if_neg hne, if_pos h]

theorem toNode_of_mem_fieldKinds (h : v.tree.kind ∈ fieldKinds) :
    v.toNode source = .field (v.toField source) := by
  have hnew : v.tree.kind ≠ "new_expression" := fun heq => absurd (heq ▸ h) (by decide)
  have hdecorator : v.tree.kind ≠ "decorator" := fun heq => absurd (heq ▸ h) (by decide)
  rw [toNode, if_neg hnew, if_neg hdecorator]

/-- A listed node keeps its place. -/
theorem span_toNode (h : v.tree.isListed = true) : (v.toNode source).span = v.tree.span := by
  rcases Tree.isListed_iff.1 h with hnew | hfield | hdecorator
  · rw [toNode_of_newExpression hnew]
    exact Tree.span_toExpression_of_newExpression hnew source
  · rw [toNode_of_mem_fieldKinds hfield]
    rfl
  · rw [toNode_of_decorator hdecorator]
    -- a decorator without an expression has its place all the same
    change (v.tree.toDecorator source).span = v.tree.span
    unfold Tree.toDecorator
    cases v.tree.operand? <;> rfl

/-- Of the listed tree nodes only decorators become decorators. -/
theorem kind_toNode_eq_decorator_iff (h : v.tree.isListed = true) :
    (v.toNode source).kind = .decorator ↔ v.tree.kind = "decorator" := by
  rcases Tree.isListed_iff.1 h with hnew | hfield | hdecorator
  · have hne : v.tree.kind ≠ "decorator" := by rw [hnew]; decide
    rw [toNode_of_newExpression hnew]
    cases v.tree.toExpression source <;> simp [Node.kind, hne]
  · have hne : v.tree.kind ≠ "decorator" := fun heq => absurd (heq ▸ hfield) (by decide)
    rw [toNode_of_mem_fieldKinds hfield]
    simp [Node.kind, hne]
  · rw [toNode_of_decorator hdecorator]
    simp [Node.kind, hdecorator]

/-- The chain of tests lets each listed kind through to its conversion. -/
theorem contribution?_of_isListed (source : Bytes) (h : v.tree.isListed = true) :
    ∃ c, v.contribution? source = some c ∧ c.node? = some (v.toNode source) := by
  rcases Tree.isListed_iff.1 h with hnew | hfield | hdecorator
  · refine ⟨.construct (v.tree.toExpression source), ?_, ?_⟩
    · rw [contribution?, if_pos (beq_iff_eq.2 hnew)]
    · rw [toNode_of_newExpression hnew]
      rfl
  · refine ⟨.field (v.toField source) (v.enclosingClass?.map (·.span.startByte)), ?_, ?_⟩
    · have hkinds : v.tree.kind = "public_field_definition" ∨ v.tree.kind = "field_definition" := by
        simpa [fieldKinds] using hfield
      rcases hkinds with hkind | hkind <;>
        simp [contribution?, hkind, Tree.isClass, Tree.classKinds, fieldKinds]
    · rw [toNode_of_mem_fieldKinds hfield]
      rfl
  · refine ⟨.decorator (v.tree.toDecorator source), ?_, ?_⟩
    · simp [contribution?, hdecorator, Tree.isClass, Tree.classKinds, fieldKinds]
    · rw [toNode_of_decorator hdecorator]
      rfl

/-- **One tree node.** Of the nodes of a tree exactly the listed ones become nodes of the unit. -/
theorem node?_contribution? (v : Visit) (source : Bytes) :
    (v.contribution? source).bind Contribution.node? =
      if v.tree.isListed then some (v.toNode source) else none := by
  by_cases h : v.tree.isListed = true
  · obtain ⟨c, hc, hnode⟩ := contribution?_of_isListed source h
    rw [if_pos h, hc, Option.bind_some, hnode]
  · rw [if_neg h]
    cases hc : v.contribution? source with
    | none => rfl
    | some c =>
      -- whatever else a tree node adds is for the index alone
      cases adds_of_contribution? hc with
      | construct kind => exact absurd (Tree.isListed_iff.2 (Or.inl kind)) h
      | field kind => exact absurd (Tree.isListed_iff.2 (Or.inr (Or.inl kind))) h
      | decorator kind => exact absurd (Tree.isListed_iff.2 (Or.inr (Or.inr kind))) h
      | _ => rfl

end Visit

section OfTree

variable {path language : String} {source : Bytes} {root : Tree} {hasErrors : Bool}

/-- The nodes of a unit are the conversions of the listed nodes, in recursive preorder. -/
theorem nodes_ofTree :
    (SourceUnit.ofTree path language source root hasErrors).nodes =
      ((root.preorder []).filter (·.tree.isListed)).map (·.toNode source) := by
  change (root.contributions source).filterMap Contribution.node? = _
  rw [Tree.contributions, List.filterMap_filterMap, Tree.walk_eq_preorder, ← List.filterMap_eq_map,
    List.filterMap_filter]
  exact List.filterMap_congr fun v _ => Visit.node?_contribution? v source

/-- The decorators of a unit are those of its tree. -/
theorem decorators_ofTree :
    (SourceUnit.ofTree path language source root hasErrors).nodes.filter (·.kind = .decorator) =
      ((root.preorder []).filter (·.tree.kind = "decorator")).map
        (fun v => .decorator (v.tree.toDecorator source)) := by
  have hsame : ∀ v ∈ root.preorder [],
      (decide ((v.toNode source).kind = .decorator) && v.tree.isListed) =
        decide (v.tree.kind = "decorator") := by
    intro v _
    by_cases hlisted : v.tree.isListed = true
    · rw [hlisted, Bool.and_true]
      exact decide_eq_decide.2 (Visit.kind_toNode_eq_decorator_iff hlisted)
    · -- a decorator would be listed
      have hne : v.tree.kind ≠ "decorator" :=
        fun h => hlisted (Tree.isListed_iff.2 (Or.inr (Or.inr h)))
      rw [Bool.not_eq_true] at hlisted
      rw [hlisted, Bool.and_false, decide_eq_false hne]
  rw [nodes_ofTree, List.filter_map, List.filter_filter]
  have hfilter := List.filter_congr hsame
  refine (congrArg (List.map _) hfilter).trans (List.map_congr_left fun v hv => ?_)
  exact Visit.toNode_of_decorator (of_decide_eq_true (List.mem_filter.1 hv).2)

end OfTree

/-! ### A node and its children -/

namespace Tree

variable {t : Tree} {ancestors : List Tree} {v : Visit}

/-- What stands below a visited node stands in the preorder of the whole tree, in the same order. -/
theorem preorder_sublist (hv : v ∈ t.preorder ancestors) :
    (v.tree.preorder v.ancestors).Sublist (t.preorder ancestors) := by
  induction t using Tree.induction generalizing ancestors with
  | step t ih =>
    rcases mem_preorder_iff.1 hv with rfl | ⟨c, hc, hvc⟩
    · exact List.Sublist.refl _
    · have hchild : (v.tree.preorder v.ancestors).Sublist (c.preorder (t :: ancestors)) :=
        ih c hc hvc
      have hsiblings : (c.preorder (t :: ancestors)).Sublist
          (t.children.flatMap (preorder (t :: ancestors))) :=
        List.sublist_flatten_of_mem (List.mem_map_of_mem hc)
      rw [preorder_eq ancestors t]
      exact (hchild.trans hsiblings).cons _

/-- A visited node stands in the preorder, and behind it each of its children. -/
theorem cons_children_sublist_preorder (hv : v ∈ t.preorder ancestors) :
    (v :: v.children).Sublist (t.preorder ancestors) := by
  refine List.Sublist.trans ?_ (preorder_sublist hv)
  rw [preorder_eq]
  refine List.Sublist.cons_cons v ?_
  -- the preorder of a child begins with the child
  have hfirst : ∀ c ∈ v.tree.children, [(⟨c, v.tree :: v.ancestors⟩ : Visit)].Sublist
      (c.preorder (v.tree :: v.ancestors)) := by
    intro c _
    exact List.singleton_sublist.2 (self_mem_preorder c _)
  have hchildren : v.children =
      v.tree.children.flatMap fun c => [(⟨c, v.tree :: v.ancestors⟩ : Visit)] :=
    List.map_eq_flatMap
  rw [hchildren]
  exact List.Sublist.flatMap_right v.tree.children hfirst

end Tree

/-- The decorators that a field holds are the conversions of its decorator children. -/
theorem Visit.decorators_toField (v : Visit) (source : Bytes) :
    (v.toField source).decorators.map Node.decorator =
      (v.children.filter (·.tree.kind = "decorator")).map (·.toNode source) := by
  have hheld : (v.toField source).decorators =
      (v.tree.children.filter (·.kind == "decorator")).map (·.toDecorator source) := rfl
  rw [hheld, Visit.children, List.filter_map, List.map_map, List.map_map]
  refine List.map_congr_left fun c hc => ?_
  have hkind : c.kind = "decorator" := eq_of_beq (List.mem_filter.1 hc).2
  exact (Visit.toNode_of_decorator (v := ⟨c, v.tree :: v.ancestors⟩) hkind).symm

/-! ### First bytes -/

namespace Tree

/-- A node covers a range of bytes: it ends no earlier than it starts. Without this, to be inside a
node or to end before another one would say nothing about first bytes. -/
def HasRange (t : Tree) : Prop := t.span.startByte ≤ t.span.endByte

instance (t : Tree) : Decidable t.HasRange := inferInstanceAs (Decidable (_ ≤ _))

/-- **The preorder goes by first bytes.** -/
theorem ProperlyNested.pairwise_preorder {t : Tree} (h : t.ProperlyNested)
    (hrange : t.Everywhere HasRange) (ancestors : List Tree) :
    (t.preorder ancestors).Pairwise fun u v => u.tree.span.startByte ≤ v.tree.span.startByte := by
  induction t using Tree.induction generalizing ancestors with
  | step t ih =>
    have hbelow : ∀ c ∈ t.children, ∀ v ∈ c.preorder (t :: ancestors),
        c.span.startByte ≤ v.tree.span.startByte ∧ v.tree.span.endByte ≤ c.span.endByte :=
      fun c hc v hv => (h.child hc).inside hv
    rw [preorder_eq, List.pairwise_cons, List.pairwise_flatMap]
    refine ⟨?_, fun c hc => ih c hc (h.child hc) (hrange.child hc) _, ?_⟩
    · -- the tree starts no later than what is inside it
      intro v hv
      obtain ⟨c, hc, hvc⟩ := List.mem_flatMap.1 hv
      calc t.span.startByte
        _ ≤ c.span.startByte := ((Everywhere.self h).inside c hc).1
        _ ≤ v.tree.span.startByte := (hbelow c hc v hvc).1
    · -- what is inside a child ends before the next child starts
      refine (Everywhere.self h).apart.imp_of_mem fun {a b} ha hb hab u hu v hv => ?_
      calc u.tree.span.startByte
        _ ≤ u.tree.span.endByte := (hrange.child ha).of_mem_preorder hu
        _ ≤ a.span.endByte := (hbelow a ha u hu).2
        _ ≤ b.span.startByte := hab
        _ ≤ v.tree.span.startByte := (hbelow b hb v hv).1

end Tree

/-! ### Document order -/

/-- **The nodes of a unit are the listed nodes of its tree, in recursive preorder.** Each of them
gives one node of the unit, at its own place, and no other node of the tree gives one. A field and
the decorators that it holds are listed one after another, and there are no decorators apart from
those of the tree, so each of these is listed once. The classes of the index are the class nodes in
the same preorder. In a properly nested tree, every node of which covers a range, the nodes of the
unit go by first bytes. -/
theorem nodes_ofTree_eq_map (path language : String) (source : Bytes) (root : Tree)
    (hasErrors : Bool) :
    let unit := SourceUnit.ofTree path language source root hasErrors
    let order := root.preorder []
    unit.nodes = (order.filter (·.tree.isListed)).map (·.toNode source) ∧
      (∀ v ∈ order, v.tree.isListed = true → (v.toNode source).span = v.tree.span) ∧
      (∀ v ∈ order, v.tree.kind ∈ Visit.fieldKinds →
        (.field (v.toField source) :: (v.toField source).decorators.map .decorator).Sublist
          unit.nodes) ∧
      unit.nodes.filter (·.kind = .decorator) =
        (order.filter (·.tree.kind = "decorator")).map
          (fun v => .decorator (v.tree.toDecorator source)) ∧
      unit.declarations.classes =
        (order.filter (·.tree.isClassNode)).map (·.tree.classScope source) ∧
      (root.ProperlyNested → root.Everywhere Tree.HasRange →
        (unit.nodes.map (·.span.startByte)).Pairwise (· ≤ ·)) := by
  intro unit order
  have hnodes : unit.nodes = (order.filter (·.tree.isListed)).map (·.toNode source) := nodes_ofTree
  have hclasses : unit.declarations.classes =
      (order.filter (·.tree.isClassNode)).map (·.tree.classScope source) := by
    rw [classes_ofTree, Tree.walk_eq_preorder]
  refine ⟨hnodes, fun v _ => Visit.span_toNode, ?_, decorators_ofTree, hclasses, ?_⟩
  · -- a field and its decorator children are listed, and stand in the preorder in this order
    intro v hv hfield
    have hlisted : ∀ c ∈ v :: v.children.filter (·.tree.kind = "decorator"),
        c.tree.isListed = true := by
      refine List.forall_mem_cons.2 ⟨Tree.isListed_iff.2 (Or.inr (Or.inl hfield)), fun c hc => ?_⟩
      exact Tree.isListed_iff.2 (Or.inr (Or.inr (of_decide_eq_true (List.mem_filter.1 hc).2)))
    have hsublist : (v :: v.children.filter (·.tree.kind = "decorator")).Sublist order :=
      (List.filter_sublist.cons_cons v).trans (Tree.cons_children_sublist_preorder hv)
    have hconverted := (hsublist.filter (·.tree.isListed)).map (·.toNode source)
    rw [List.filter_eq_self.2 hlisted, List.map_cons, Visit.toNode_of_mem_fieldKinds hfield,
      ← Visit.decorators_toField, ← hnodes] at hconverted
    exact hconverted
  · intro hn hrange
    have hpreorder := hn.pairwise_preorder hrange []
    have hspans : unit.nodes.map (·.span.startByte) =
        (order.filter (·.tree.isListed)).map (·.tree.span.startByte) := by
      rw [hnodes, List.map_map]
      refine List.map_congr_left fun v hv => ?_
      exact congrArg Span.startByte (Visit.span_toNode (List.mem_filter.1 hv).2)
    rw [hspans, List.pairwise_map]
    exact hpreorder.filter _

/-- The tree of `class A { @Input() f = new B(); }`. -/
def decoratedField : Tree :=
  .node "program" true { endByte := 33 } none [
    .node "class_declaration" true { endByte := 33 } none [
      .node "class" false { endByte := 5 } none [],
      .node "type_identifier" true { startByte := 6, endByte := 7 } (some "name") [],
      .node "class_body" true { startByte := 8, endByte := 33 } (some "body") [
        .node "public_field_definition" true { startByte := 10, endByte := 30 } none [
          .node "decorator" true { startByte := 10, endByte := 18 } (some "decorator") [
            .node "@" false { startByte := 10, endByte := 11 } none [],
            .node "call_expression" true { startByte := 11, endByte := 18 } none [
              .node "identifier" true { startByte := 11, endByte := 16 } (some "function") [],
              .node "arguments" true { startByte := 16, endByte := 18 } (some "arguments") []]],
          .node "property_identifier" true { startByte := 19, endByte := 20 } (some "name") [],
          .node "new_expression" true { startByte := 23, endByte := 30 } (some "value") [
            .node "new" false { startByte := 23, endByte := 26 } none [],
            .node "identifier" true { startByte := 27, endByte := 28 } (some "constructor") [],
            .node "arguments" true { startByte := 28, endByte := 30 } (some "arguments") []]]]]]

/-- The unit lists the field, its decorator, once, and the `new` expression of its initializer. -/
theorem nodes_ofTree_eq_map_decoratedField :
    let source := Utf8.encode "class A { @Input() f = new B(); }"
    let unit := SourceUnit.ofTree "a.ts" "typescript" source decoratedField false
    unit.nodes.map (·.span.startByte) = [10, 10, 23] ∧
      (unit.nodes.filter (·.kind = .decorator)).length = 1 ∧
      unit.declarations.classes.map (·.startByte) = [0] ∧
      (unit.nodes.map (·.span.startByte)).Pairwise (· ≤ ·) := by
  intro source unit
  have hn : decoratedField.ProperlyNested := by
    rw [Tree.ProperlyNested, Tree.Everywhere, Tree.walk_eq_preorder]
    decide
  have hrange : decoratedField.Everywhere Tree.HasRange := by
    rw [Tree.Everywhere, Tree.walk_eq_preorder]
    decide
  obtain ⟨hnodes, hspans, -, hdecorators, hclasses, hordered⟩ :=
    nodes_ofTree_eq_map "a.ts" "typescript" source decoratedField false
  refine ⟨?_, ?_, ?_, hordered hn hrange⟩
  · -- the places of the listed nodes, without a look at what they are converted to
    rw [hnodes, List.map_map]
    refine (List.map_congr_left fun v hv => ?_).trans
      (show ((decoratedField.preorder []).filter (·.tree.isListed)).map
        (·.tree.span.startByte) = [10, 10, 23] by decide)
    obtain ⟨hv, hlisted⟩ := List.mem_filter.1 hv
    exact congrArg Span.startByte (hspans v hv hlisted)
  · rw [hdecorators, List.length_map]
    decide
  · rw [hclasses, List.map_map]
    decide

end SignalLint
