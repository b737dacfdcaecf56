import Mathlib.Order.Monotone.Basic
import SignalLint.Proofs.Code.Scope

/-!
# Moving the byte offsets of a unit

Inserting text into a source moves the byte offsets of all that stands behind it, and it does so in
an order-preserving way. `relocate φ` carries out such a move on every part of a unit: on the spans
of nodes, on the declarations of the index with their types and initializers, on the byte ranges of
classes and on the keys of members and methods. Lines, columns, names and texts stay as they are.

* What does not look at offsets does not notice a move: `Expression.name?_relocate`,
  `TypeNode.symbol?_relocate` and their siblings.
* `DeclarationIndex.enclosingClass?_relocate` — if `φ` is strictly increasing, the class found at a
  moved offset is the moved class. Both tests of the search compare offsets only with each other,
  so each turn of its loop commutes with the move (`ClassScope.pick_relocate`).
* `Table.get?_map` — a look-up under a moved key finds the moved value, since `φ` is injective.
  With this the look-ups of members, methods and functions commute with the move too.
-/

namespace SignalLint

/-! ### Moved nodes -/

def Span.relocate (φ : Nat → Nat) (s : Span) : Span :=
  { s with startByte := φ s.startByte, endByte := φ s.endByte }

@[simp] theorem Span.startByte_relocate (φ : Nat → Nat) (s : Span) :
    (s.relocate φ).startByte = φ s.startByte := rfl

def TypeName.relocate (φ : Nat → Nat) : TypeName → TypeName
  | simple name s => simple name (s.relocate φ)
  | qualified left right rightSpan s =>
    qualified (left.relocate φ) right (rightSpan.relocate φ) (s.relocate φ)

mutual

def TypeNode.relocate (φ : Nat → Nat) : TypeNode → TypeNode
  | .reference name arguments s =>
    .reference (name.relocate φ) (TypeNode.relocateAll φ arguments) (s.relocate φ)
  | .other grammar text s => .other grammar text (s.relocate φ)

def TypeNode.relocateAll (φ : Nat → Nat) : List TypeNode → List TypeNode
  | [] => []
  | t :: ts => t.relocate φ :: TypeNode.relocateAll φ ts

end

mutual

def Expression.relocate (φ : Nat → Nat) : Expression → Expression
  | .identifier name s => .identifier name (s.relocate φ)
  | .privateIdentifier name s => .privateIdentifier name (s.relocate φ)
  | .this s => .this (s.relocate φ)
  | .member object property computed optional s =>
    .member (object.relocate φ) (property.relocate φ) computed optional (s.relocate φ)
  | .call callee arguments typeArguments s =>
    .call (callee.relocate φ) (Expression.relocateAll φ arguments)
      (TypeNode.relocateAll φ typeArguments) (s.relocate φ)
  | .construct callee arguments typeArguments s =>
    .construct (callee.relocate φ) (Expression.relocateAll φ arguments)
      (TypeNode.relocateAll φ typeArguments) (s.relocate φ)
  | .other grammar text s => .other grammar text (s.relocate φ)

def Expression.relocateAll (φ : Nat → Nat) : List Expression → List Expression
  | [] => []
  | e :: es => e.relocate φ :: Expression.relocateAll φ es

end

def Decorator.relocate (φ : Nat → Nat) (d : Decorator) : Decorator :=
  ⟨d.expression.relocate φ, d.span.relocate φ⟩

def Field.relocate (φ : Nat → Nat) (f : Field) : Field :=
  { f with
    key := f.key.relocate φ
    declaredType := f.declaredType.map (·.relocate φ)
    value := f.value.map (·.relocate φ)
    decorators := f.decorators.map (·.relocate φ)
    span := f.span.relocate φ }

def Node.relocate (φ : Nat → Nat) : Node → Node
  | expression e => expression (e.relocate φ)
  | typeName n => typeName (n.relocate φ)
  | type t => type (t.relocate φ)
  | decorator d => decorator (d.relocate φ)
  | field f => field (f.relocate φ)

/-! ### Moved declarations -/

def Declaration.relocate (φ : Nat → Nat) (d : Declaration) : Declaration :=
  { d with
    declaredType := d.declaredType.map (·.relocate φ)
    value := d.value.map (·.relocate φ) }

def ClassScope.relocate (φ : Nat → Nat) (scope : ClassScope) : ClassScope :=
  ⟨scope.name, φ scope.startByte, φ scope.endByte⟩

def MemberKey.relocate (φ : Nat → Nat) (key : MemberKey) : MemberKey :=
  ⟨φ key.classStart, key.name⟩

/-- The table with every key and every value replaced. -/
def Table.map {κ κ' α β : Type} (f : κ → κ') (g : α → β) (t : Table κ α) : Table κ' β :=
  ⟨t.entries.map fun e => (f e.1, g e.2)⟩

def DeclarationIndex.relocate (φ : Nat → Nat) (index : DeclarationIndex) : DeclarationIndex where
  functions := index.functions.map id (·.map (·.relocate φ))
  bindings := index.bindings.map id (·.relocate φ)
  classes := index.classes.map (·.relocate φ)
  members := index.members.map (·.relocate φ) (·.relocate φ)
  methods := index.methods.map (·.relocate φ) (·.map (·.relocate φ))

/-- The unit with every byte offset moved. -/
def SourceUnit.relocate (φ : Nat → Nat) (unit : SourceUnit) : SourceUnit :=
  { unit with
    nodes := unit.nodes.map (·.relocate φ)
    declarations := unit.declarations.relocate φ }

/-! ### What does not notice a move -/

section Unmoved

variable (φ : Nat → Nat)

@[simp] theorem TypeName.last_relocate (n : TypeName) : (n.relocate φ).last = n.last := by
  cases n <;> rfl

@[simp] theorem TypeNode.symbol?_relocate (t : TypeNode) : (t.relocate φ).symbol? = t.symbol? := by
  cases t with
  | reference name arguments s =>
    simp only [TypeNode.relocate, TypeNode.symbol?, TypeName.last_relocate]
  | other grammar text s => simp only [TypeNode.relocate, TypeNode.symbol?]

@[simp] theorem TypeNode.isEmpty_relocateAll (ts : List TypeNode) :
    (TypeNode.relocateAll φ ts).isEmpty = ts.isEmpty := by
  cases ts <;> simp only [TypeNode.relocateAll, List.isEmpty_nil, List.isEmpty_cons]

@[simp] theorem Expression.name?_relocate (e : Expression) : (e.relocate φ).name? = e.name? := by
  cases e <;> simp only [Expression.relocate, Expression.name?]

@[simp] theorem Expression.span_relocate (e : Expression) :
    (e.relocate φ).span = e.span.relocate φ := by
  cases e <;> simp only [Expression.relocate, Expression.span]

@[simp] theorem TypeNode.bind_symbol?_relocate (t : Option TypeNode) :
    (t.map (·.relocate φ)).bind TypeNode.symbol? = t.bind TypeNode.symbol? := by
  cases t with
  | none => rfl
  | some t => exact t.symbol?_relocate φ

end Unmoved

/-! ### Look-ups -/

/-- A look-up under a replaced key finds the replaced value, if no two keys are made one. -/
theorem Table.get?_map {κ κ' α β : Type} [DecidableEq κ] [DecidableEq κ'] {f : κ → κ'}
    (hf : Function.Injective f) (g : α → β) (t : Table κ α) (k : κ) :
    (t.map f g).get? (f k) = (t.get? k).map g := by
  -- a moved entry answers to the moved key exactly if the entry answers to the key
  have hkey : ((fun e : κ' × β => decide (e.1 = f k)) ∘ fun e : κ × α => (f e.1, g e.2)) =
      fun e => decide (e.1 = k) :=
    funext fun e => decide_eq_decide.2 hf.eq_iff
  rw [Table.get?, Table.map, List.find?_map, hkey, Option.map_map, Table.get?, Option.map_map]
  rfl

theorem MemberKey.relocate_injective {φ : Nat → Nat} (hφ : Function.Injective φ) :
    Function.Injective (MemberKey.relocate φ) := by
  rintro ⟨start, name⟩ ⟨start', name'⟩ h
  simp only [MemberKey.relocate, MemberKey.mk.injEq] at h
  rw [hφ h.1, h.2]

namespace ClassScope

variable {φ : Nat → Nat} (hφ : StrictMono φ)

include hφ

theorem contains_relocate_iff (scope : ClassScope) (offset : Nat) :
    (scope.relocate φ).Contains (φ offset : Int) ↔ scope.Contains (offset : Int) := by
  simp only [Contains, relocate, Int.ofNat_le, Int.ofNat_lt, hφ.le_iff_le, hφ.lt_iff_lt]

/-- One turn of the search for the innermost class commutes with a move. -/
theorem pick_relocate (offset : Nat) (innermost : Option ClassScope) (scope : ClassScope) :
    pick (φ offset : Int) (innermost.map (·.relocate φ)) (scope.relocate φ) =
      (pick (offset : Int) innermost scope).map (·.relocate φ) := by
  have hin := contains_relocate_iff hφ scope offset
  cases innermost with
  | none =>
    simp only [pick, Option.map_none, hin, apply_ite (Option.map (ClassScope.relocate φ)),
      Option.map_some]
  | some best =>
    have hle : (best.relocate φ).startByte ≤ (scope.relocate φ).startByte ↔
        best.startByte ≤ scope.startByte := hφ.le_iff_le
    simp only [pick, Option.map_some, hin, hle, apply_ite (Option.map (ClassScope.relocate φ))]

end ClassScope

namespace DeclarationIndex

variable {φ : Nat → Nat} (hφ : StrictMono φ) (index : DeclarationIndex) (offset : Nat)

include hφ

/-- **Enclosing classes move along.** The class found at a moved offset is the moved class. -/
theorem enclosingClass?_relocate :
    (index.relocate φ).enclosingClass? (φ offset : Int) =
      (index.enclosingClass? (offset : Int)).map (·.relocate φ) := by
  -- the loop commutes with the move whatever it has found so far
  have hfold : ∀ (classes : List ClassScope) (innermost : Option ClassScope),
      (classes.map (·.relocate φ)).foldl (ClassScope.pick (φ offset : Int))
          (innermost.map (·.relocate φ)) =
        (classes.foldl (ClassScope.pick (offset : Int)) innermost).map (·.relocate φ) := by
    intro classes
    induction classes with
    | nil => exact fun innermost => rfl
    | cons scope classes ih =>
      intro innermost
      rw [List.map_cons, List.foldl_cons, List.foldl_cons, ClassScope.pick_relocate hφ, ih]
  rw [enclosingClass?_eq, enclosingClass?_eq]
  exact hfold index.classes none

theorem member?_relocate (name : String) :
    (index.relocate φ).member? (φ offset : Int) name =
      (index.member? (offset : Int) name).map (·.relocate φ) := by
  rw [member?, member?, enclosingClass?_relocate hφ, Option.bind_map, Option.map_bind]
  congr 1
  funext scope
  exact Table.get?_map (MemberKey.relocate_injective hφ.injective) _ index.members
    ⟨scope.startByte, name⟩

theorem methodType?_relocate (name : String) :
    (index.relocate φ).methodType? (φ offset : Int) name =
      (index.methodType? (offset : Int) name).map (·.relocate φ) := by
  rw [methodType?, methodType?, enclosingClass?_relocate hφ, Option.bind_map, Option.map_bind]
  congr 1
  funext scope
  exact (congrArg Option.join (Table.get?_map (MemberKey.relocate_injective hφ.injective) _
    index.methods ⟨scope.startByte, name⟩)).trans Option.join_map_eq_map_join

omit hφ

theorem functionType?_relocate (name : String) :
    (index.relocate φ).functionType? name = (index.functionType? name).map (·.relocate φ) :=
  (congrArg Option.join (Table.get?_map Function.injective_id _ index.functions name)).trans
    Option.join_map_eq_map_join

theorem bindings_get?_relocate (name : String) :
    (index.relocate φ).bindings.get? name = (index.bindings.get? name).map (·.relocate φ) :=
  Table.get?_map Function.injective_id _ index.bindings name

end DeclarationIndex

end SignalLint
