import SignalLint.Code.Node
import SignalLint.Tree.Basic

/-!
# From parse trees to nodes

`Tree.toExpression`, `Tree.toType` and `Tree.toTypeName` read a grammar node as an expression, a
type or a type name. What a node consists of is decided by `Tree.shape` and `Tree.typeShape`, which
find the parts; reading the parts is then a plain recursion. Parentheses are transparent, comments
are never parts, and a node that lacks a required part is kept whole, with its text.
-/

namespace SignalLint

namespace Tree

/-! ### The parts of a node -/

/-- The grammar rules of names. -/
def nameKinds : List String :=
  ["identifier", "property_identifier", "shorthand_property_identifier", "type_identifier"]

/-- What an expression node consists of. -/
inductive Shape where
  | name
  | privateName
  | this
  | parentheses (inner : Tree)
  | member (object property : Tree) (optional : Bool)
  | subscript (object index : Tree)
  | call (callee : Tree)
  | construct (callee : Tree)
  | other
  deriving Repr, Inhabited

/-- The parts of an expression node. -/
def shape (t : Tree) : Shape :=
  if nameKinds.contains t.kind then .name
  else if t.kind == "private_property_identifier" then .privateName
  else if t.kind == "this" then .this
  else if t.kind == "parenthesized_expression" then
    match t.operand? with
    | some inner => .parentheses inner
    | none => .other
  else if t.kind == "member_expression" then
    match t.child? "object", t.child? "property" with
    | some object, some property =>
      .member object property (t.children.any fun c => c.kind == "optional_chain" || c.kind == "?.")
    | _, _ => .other
  else if t.kind == "subscript_expression" then
    match t.child? "object", t.child? "index" with
    | some object, some index => .subscript object index
    | _, _ => .other
  else if t.kind == "call_expression" then
    match t.child? "function" with
    | some callee => .call callee
    | none => .other
  else if t.kind == "new_expression" then
    match t.child? "constructor" with
    | some callee => .construct callee
    | none => .other
  else .other

/-- The argument nodes of a call. A tagged template has a template in their place and so none. -/
def argumentTrees (t : Tree) : List Tree :=
  match t.child? "arguments" with
  | some list => if list.kind == "arguments" then list.operands else []
  | none => []

/-- The type argument nodes of a call or a generic type. -/
def typeArgumentTrees (t : Tree) : List Tree :=
  match t.child? "type_arguments" with
  | some list => list.operands
  | none => []

/-- What a type node consists of. -/
inductive TypeShape where
  | parentheses (inner : Tree)
  | generic (name : Tree)
  | name
  | other
  deriving Repr, Inhabited

/-- The parts of a type node. -/
def typeShape (t : Tree) : TypeShape :=
  if t.kind == "parenthesized_type" then
    match t.operand? with
    | some inner => .parentheses inner
    | none => .other
  else if t.kind == "generic_type" then
    match t.child? "name" with
    | some name => .generic name
    | none => .other
  else if t.kind == "type_identifier" || t.kind == "nested_type_identifier" then .name
  else .other

/-- The two sides of a dotted name: what stands before the last name, and that name. -/
def dotted? (t : Tree) : Option (Tree × Tree) :=
  if t.kind == "nested_type_identifier" || t.kind == "nested_identifier" then
    match t.operands with
    | left :: next :: rest => some (left, (next :: rest).getLast (by simp))
    | _ => none
  else if t.kind == "member_expression" then
    match t.child? "object", t.child? "property" with
    | some object, some property => some (object, property)
    | _, _ => none
  else none

/-! ### Parts are smaller -/

theorem sizeOf_argumentTrees {t c : Tree} (h : c ∈ t.argumentTrees) : sizeOf c < sizeOf t := by
  unfold argumentTrees at h
  split at h
  · rename_i list hl
    split at h
    · exact Nat.lt_trans (sizeOf_lt_of_mem (mem_children_of_mem_operands h))
        (sizeOf_lt_of_mem (mem_children_of_child? hl))
    · simp at h
  · simp at h

theorem sizeOf_typeArgumentTrees {t c : Tree} (h : c ∈ t.typeArgumentTrees) :
    sizeOf c < sizeOf t := by
  unfold typeArgumentTrees at h
  split at h
  · rename_i list hl
    exact Nat.lt_trans (sizeOf_lt_of_mem (mem_children_of_mem_operands h))
      (sizeOf_lt_of_mem (mem_children_of_child? hl))
  · simp at h

theorem mem_children_of_dotted? {t left right : Tree} (h : t.dotted? = some (left, right)) :
    left ∈ t.children ∧ right ∈ t.children := by
  unfold dotted? at h
  split at h
  · split at h
    · rename_i l n r ho
      simp only [Option.some.injEq, Prod.mk.injEq] at h
      obtain ⟨rfl, rfl⟩ := h
      exact ⟨mem_children_of_mem_operands (by rw [ho]; simp),
        mem_children_of_mem_operands (by
          rw [ho]; exact List.mem_cons_of_mem _ (List.getLast_mem _))⟩
    · simp at h
  · split at h
    · split at h
      · rename_i o p ho hp
        simp only [Option.some.injEq, Prod.mk.injEq] at h
        obtain ⟨rfl, rfl⟩ := h
        exact ⟨mem_children_of_child? ho, mem_children_of_child? hp⟩
      · simp at h
    · simp at h

/-- The parts that an expression shape names directly. -/
def Shape.parts : Shape → List Tree
  | .parentheses inner => [inner]
  | .member object property _ => [object, property]
  | .subscript object index => [object, index]
  | .call callee => [callee]
  | .construct callee => [callee]
  | _ => []

theorem mem_children_of_mem_shape {t c : Tree} (h : c ∈ t.shape.parts) : c ∈ t.children := by
  unfold shape at h
  repeat' split at h
  all_goals simp only [Shape.parts, List.mem_cons, List.not_mem_nil, or_false] at h
  all_goals
    first
      | (subst h; exact mem_children_of_operand? ‹_›)
      | (subst h; exact mem_children_of_child? ‹_›)
      | (rcases h with rfl | rfl <;> exact mem_children_of_child? ‹_›)

theorem sizeOf_shape {t c : Tree} {s : Shape} (hs : t.shape = s) (h : c ∈ s.parts) :
    sizeOf c < sizeOf t :=
  sizeOf_lt_of_mem (mem_children_of_mem_shape (hs ▸ h))

/-- The parts that a type shape names directly. -/
def TypeShape.parts : TypeShape → List Tree
  | .parentheses inner => [inner]
  | .generic base => [base]
  | _ => []

theorem mem_children_of_mem_typeShape {t c : Tree} (h : c ∈ t.typeShape.parts) :
    c ∈ t.children := by
  unfold typeShape at h
  repeat' split at h
  all_goals simp only [TypeShape.parts, List.mem_cons, List.not_mem_nil, or_false] at h
  all_goals
    first
      | (subst h; exact mem_children_of_operand? ‹_›)
      | (subst h; exact mem_children_of_child? ‹_›)

theorem sizeOf_typeShape {t c : Tree} {s : TypeShape} (hs : t.typeShape = s) (h : c ∈ s.parts) :
    sizeOf c < sizeOf t :=
  sizeOf_lt_of_mem (mem_children_of_mem_typeShape (hs ▸ h))

/-! ### Reading a node -/

/-- A node as a type name: dotted when it has two sides, otherwise its whole text. -/
def toTypeName (source : Bytes) (t : Tree) : TypeName :=
  match _h : t.dotted? with
  | some (left, right) =>
    .qualified (left.toTypeName source) (right.text source) right.span t.span
  | none => .simple (t.text source) t.span
  termination_by sizeOf t
  decreasing_by exact sizeOf_lt_of_mem (mem_children_of_dotted? _h).1

/-- A node as a type. -/
def toType (source : Bytes) (t : Tree) : TypeNode :=
  match _h : t.typeShape with
  | .parentheses inner => inner.toType source
  | .generic name =>
    .reference (name.toTypeName source)
      (t.typeArgumentTrees.attach.map fun ⟨c, _⟩ => c.toType source) t.span
  | .name => .reference (t.toTypeName source) [] t.span
  | .other => .other t.kind (t.text source) t.span
  termination_by sizeOf t
  decreasing_by
    · exact sizeOf_typeShape _h (by simp [TypeShape.parts])
    · exact sizeOf_typeArgumentTrees ‹_›

/-- A node as an expression. -/
def toExpression (source : Bytes) (t : Tree) : Expression :=
  match _h : t.shape with
  | .name => .identifier (t.text source) t.span
  | .privateName => .privateIdentifier (t.text source) t.span
  | .this => .this t.span
  | .parentheses inner => inner.toExpression source
  | .member object property optional =>
    .member (object.toExpression source) (property.toExpression source) false optional t.span
  | .subscript object index =>
    .member (object.toExpression source) (index.toExpression source) true false t.span
  | .call callee =>
    .call (callee.toExpression source)
      (t.argumentTrees.attach.map fun ⟨c, _⟩ => c.toExpression source)
      (t.typeArgumentTrees.map (toType source)) t.span
  | .construct callee =>
    .construct (callee.toExpression source)
      (t.argumentTrees.attach.map fun ⟨c, _⟩ => c.toExpression source)
      (t.typeArgumentTrees.map (toType source)) t.span
  | .other => .other t.kind (t.text source) t.span
  termination_by sizeOf t
  decreasing_by
    all_goals
      first
        | exact sizeOf_argumentTrees ‹_›
        | exact sizeOf_shape _h (by simp [Shape.parts])

/-- A type name is read by its two sides. -/
theorem toTypeName_eq (source : Bytes) (t : Tree) :
    t.toTypeName source =
      match t.dotted? with
      | some (left, right) =>
        .qualified (left.toTypeName source) (right.text source) right.span t.span
      | none => .simple (t.text source) t.span := by
  rw [toTypeName]
  split <;> rename_i hdotted <;> rw [hdotted]

/-- A type is read by its shape. -/
theorem toType_eq (source : Bytes) (t : Tree) :
    t.toType source =
      match t.typeShape with
      | .parentheses inner => inner.toType source
      | .generic name =>
        .reference (name.toTypeName source) (t.typeArgumentTrees.map (toType source)) t.span
      | .name => .reference (t.toTypeName source) [] t.span
      | .other => .other t.kind (t.text source) t.span := by
  rw [toType]
  split <;> rename_i hshape <;> rw [hshape]
  simp only [List.map_attach_eq_pmap, List.pmap_eq_map]

/-- A node is read by its shape. -/
theorem toExpression_eq (source : Bytes) (t : Tree) :
    t.toExpression source =
      match t.shape with
      | .name => .identifier (t.text source) t.span
      | .privateName => .privateIdentifier (t.text source) t.span
      | .this => .this t.span
      | .parentheses inner => inner.toExpression source
      | .member object property optional =>
        .member (object.toExpression source) (property.toExpression source) false optional t.span
      | .subscript object index =>
        .member (object.toExpression source) (index.toExpression source) true false t.span
      | .call callee =>
        .call (callee.toExpression source) (t.argumentTrees.map (toExpression source))
          (t.typeArgumentTrees.map (toType source)) t.span
      | .construct callee =>
        .construct (callee.toExpression source) (t.argumentTrees.map (toExpression source))
          (t.typeArgumentTrees.map (toType source)) t.span
      | .other => .other t.kind (t.text source) t.span := by
  rw [toExpression]
  split <;> rename_i hshape <;> rw [hshape]
  all_goals simp only [List.map_attach_eq_pmap, List.pmap_eq_map]

/-- The declared type that an annotation node holds; a node that is no annotation is the type. -/
def toDeclaredType (source : Bytes) (t : Tree) : Option TypeNode :=
  if t.kind == "type_annotation" then t.operand?.map (toType source)
  else some (t.toType source)

/-- The declared type under a field of a node. -/
def declaredTypeAt (source : Bytes) (t : Tree) (field : String) : Option TypeNode :=
  (t.child? field).bind (toDeclaredType source)

end Tree

end SignalLint
