import SignalLint.Code.Span

/-!
# Parse trees

A parse tree as a grammar hands it over: each node has the name of its grammar rule, a place in the
source, perhaps the field under which its parent holds it, and children in document order. Tokens
are unnamed leaves.

A `Visit` is a node together with the nodes above it. `Tree.walk` lists the visits of a tree with
an explicit stack, `Tree.preorder` by recursion on the tree.
-/

namespace SignalLint

/-- A parse tree. -/
inductive Tree where
  | node (kind : String) (named : Bool) (span : Span) (field : Option String)
      (children : List Tree)
  deriving Repr, Inhabited

namespace Tree

/-- The name of the grammar rule. -/
def kind : Tree → String
  | node k _ _ _ _ => k

/-- Whether the node is a rule of its own and not a bare token. -/
def named : Tree → Bool
  | node _ n _ _ _ => n

def span : Tree → Span
  | node _ _ s _ _ => s

/-- The field under which the parent holds the node. -/
def field : Tree → Option String
  | node _ _ _ f _ => f

def children : Tree → List Tree
  | node _ _ _ _ cs => cs

/-- The text that the node covers. -/
def text (t : Tree) (source : Bytes) : String := t.span.text source

/-- The first child held under a field. -/
def child? (t : Tree) (field : String) : Option Tree :=
  t.children.find? (·.field == some field)

/-- The children that stand for something: named, and not a comment. -/
def operands (t : Tree) : List Tree :=
  t.children.filter fun c => c.named && c.kind != "comment"

/-- The first child that stands for something. -/
def operand? (t : Tree) : Option Tree := t.operands.head?

theorem mem_children_of_child? {t c : Tree} {field : String} (h : t.child? field = some c) :
    c ∈ t.children :=
  List.mem_of_find?_eq_some h

theorem mem_children_of_mem_operands {t c : Tree} (h : c ∈ t.operands) : c ∈ t.children :=
  (List.mem_filter.1 h).1

theorem mem_children_of_operand? {t c : Tree} (h : t.operand? = some c) : c ∈ t.children :=
  mem_children_of_mem_operands (List.mem_of_head? h)

/-- A child is smaller than its parent. -/
theorem sizeOf_lt_of_mem {t c : Tree} (h : c ∈ t.children) : sizeOf c < sizeOf t := by
  obtain ⟨k, n, s, f, cs⟩ := t
  have := List.sizeOf_lt_of_mem (show c ∈ cs from h)
  simp only [node.sizeOf_spec]
  omega

/-- What holds of every tree whose children it holds of, holds of every tree. -/
theorem induction {P : Tree → Prop} (step : ∀ t, (∀ c ∈ t.children, P c) → P t) (t : Tree) : P t :=
  step t fun c _hc => induction step c
  termination_by sizeOf t
  decreasing_by exact sizeOf_lt_of_mem _hc

/-! ### Size -/

mutual

/-- The number of nodes of a tree. -/
def size : Tree → Nat
  | node _ _ _ _ cs => 1 + sizeAll cs

/-- The number of nodes of a list of trees. -/
def sizeAll : List Tree → Nat
  | [] => 0
  | c :: cs => size c + sizeAll cs

end

theorem sizeAll_append (cs ds : List Tree) : sizeAll (cs ++ ds) = sizeAll cs + sizeAll ds := by
  induction cs with
  | nil => simp only [List.nil_append, sizeAll, Nat.zero_add]
  | cons c cs ih => simp only [List.cons_append, sizeAll, ih, Nat.add_assoc]

theorem size_eq (t : Tree) : t.size = 1 + sizeAll t.children := by
  obtain ⟨k, n, s, f, cs⟩ := t
  simp only [size, children]

/-! ### Classes -/

/-- The grammar rules of classes. -/
def classKinds : List String := ["class_declaration", "abstract_class_declaration", "class"]

/-- Whether a node is a class (or, unnamed, the keyword of one). -/
def isClass (t : Tree) : Bool := classKinds.contains t.kind

end Tree

/-- A node of a tree with the nodes above it, nearest first. -/
structure Visit where
  tree : Tree
  ancestors : List Tree := []
  deriving Repr, Inhabited

namespace Visit

/-- The visits of the children, in document order. -/
def children (v : Visit) : List Visit :=
  v.tree.children.map fun c => ⟨c, v.tree :: v.ancestors⟩

/-- The nearest class above the node. -/
def enclosingClass? (v : Visit) : Option Tree := v.ancestors.find? Tree.isClass

/-- The node right above. -/
def parent? (v : Visit) : Option Tree := v.ancestors.head?

end Visit

namespace Tree

/-- The number of nodes that a stack of visits has still to show. -/
def pending (stack : List Visit) : Nat := sizeAll (stack.map (·.tree))

theorem pending_step (v : Visit) (stack : List Visit) :
    pending (v.children ++ stack) < pending (v :: stack) := by
  have h : v.children.map (·.tree) = v.tree.children := by
    simp only [Visit.children, List.map_map, Function.comp_def, List.map_id']
  simp only [pending, List.map_append, sizeAll_append, List.map_cons, sizeAll, h, size_eq v.tree]
  omega

/-- Visits in document order, from a stack of nodes still to visit. -/
def walkFrom : List Visit → List Visit
  | [] => []
  | v :: stack => v :: walkFrom (v.children ++ stack)
  termination_by stack => pending stack
  decreasing_by exact pending_step v stack

/-- All nodes of a tree with their ancestors, in document order. -/
def walk (t : Tree) : List Visit := walkFrom [⟨t, []⟩]

mutual

/-- The nodes of a tree with their ancestors, by recursion on the tree: the node, then what each
child has. -/
def preorder (ancestors : List Tree) : Tree → List Visit
  | node k n s f cs =>
    ⟨node k n s f cs, ancestors⟩ :: preorderAll (node k n s f cs :: ancestors) cs

/-- The nodes of a list of siblings with their ancestors. -/
def preorderAll (ancestors : List Tree) : List Tree → List Visit
  | [] => []
  | c :: cs => preorder ancestors c ++ preorderAll ancestors cs

end

end Tree

end SignalLint
