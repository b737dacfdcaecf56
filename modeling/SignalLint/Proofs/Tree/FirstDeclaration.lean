import SignalLint.Proofs.Code.FirstEntry
import SignalLint.Proofs.Tree.EnclosingClass

/-!
# First declarations of a tree

The declaration index of a unit has four tables, and one walk over the parse tree fills them all:
several kinds of nodes enter the same table, and one kind of node enters different tables. This
module says what each table holds without the walk. Four relations state what a single tree node
declares, read off its kind, its parts and its surroundings only; the main statement,
`firstWins_ofTree`, is that every table holds the first such declaration of each key in recursive
preorder, and lists its keys in the order of these declarations.

* `Visit.DeclaresFunction`, `Visit.DeclaresVariable`, `Visit.DeclaresMember`,
  `Visit.DeclaresMethod` — what a node declares.
* `Visit.bind_function?_eq_some_iff` and its siblings — the chain of tests that the walk goes
  through makes an entry of a table exactly for what the relation of that table says.
* `Table.firstWins_foldl_insertNew` — entering declarations one after the other leaves the first.
-/

namespace SignalLint

/-! ### What a contribution enters in the tables of names -/

namespace Contribution

/-- The function that an entry adds to the index. -/
def function? : Contribution → Option (String × Option TypeNode)
  | function name returnType => some (name, returnType)
  | _ => none

/-- The variable that an entry adds to the index. -/
def binding? : Contribution → Option (String × Declaration)
  | .variable name declaredType value => some (name, ⟨name, declaredType, value⟩)
  | _ => none

end Contribution

namespace DeclarationIndex

variable (contributions : List Contribution) (index : DeclarationIndex)

theorem functions_foldl_add :
    (contributions.foldl add index).functions =
      (contributions.filterMap Contribution.function?).foldl (fun t e => t.insertNew e.1 e.2)
        index.functions := by
  refine foldl_add_eq contributions index fun index c => ?_
  -- a field goes through a table of its own, so it is looked at apart
  cases c with
  | field f owner =>
    rw [add_field]
    cases (Contribution.field f owner).member? <;> rfl
  | _ => rfl

theorem bindings_foldl_add :
    (contributions.foldl add index).bindings =
      (contributions.filterMap Contribution.binding?).foldl (fun t e => t.insertNew e.1 e.2)
        index.bindings := by
  refine foldl_add_eq contributions index fun index c => ?_
  cases c with
  | field f owner =>
    rw [add_field]
    cases (Contribution.field f owner).member? <;> rfl
  | _ => rfl

end DeclarationIndex

namespace Visit

variable {v : Visit} {source : Bytes}

/-! ### What a node declares -/

/-- A node declares a function: by a function declaration with a name, or by a variable whose value
is a function. -/
inductive DeclaresFunction (source : Bytes) (v : Visit) : String → Option TypeNode → Prop where
  | declaration {name : Tree}
      (kind : v.tree.kind ∈
        ["function_declaration", "generator_function_declaration", "function_signature"])
      (named : v.tree.child? "name" = some name) :
      DeclaresFunction source v (name.text source) (v.tree.returnType source)
  | value {name value : Tree} (kind : v.tree.kind = "variable_declarator")
      (named : v.tree.child? "name" = some name) (plain : name.kind = "identifier")
      (valued : v.tree.child? "value" = some value)
      (isFunction : value.kind ∈ ["arrow_function", "function_expression", "function"]) :
      DeclaresFunction source v (name.text source) (value.returnType source)

/-- A node declares a variable: it has a plain name, and its value, if there is one, is no
function. -/
inductive DeclaresVariable (source : Bytes) (v : Visit) : String → Declaration → Prop where
  | declarator {name : Tree} (kind : v.tree.kind = "variable_declarator")
      (named : v.tree.child? "name" = some name) (plain : name.kind = "identifier")
      (noFunction : ∀ value, v.tree.child? "value" = some value →
        value.kind ∉ ["arrow_function", "function_expression", "function"]) :
      DeclaresVariable source v (name.text source)
        ⟨name.text source, v.tree.declaredTypeAt source "type",
          (v.tree.child? "value").map (·.toExpression source)⟩

/-- A node declares a member of the class that starts at a byte: a field of that class whose key is
a name, or a getter right in a class body. -/
inductive DeclaresMember (source : Bytes) (v : Visit) : MemberKey → Declaration → Prop where
  | field {owner : Tree} {name : String} {span : Span}
      (kind : v.tree.kind ∈ ["public_field_definition", "field_definition"])
      (owned : v.enclosingClass? = some owner)
      (keyed : v.tree.fieldKey source = .identifier name span ∨
        v.tree.fieldKey source = .privateIdentifier name span) :
      DeclaresMember source v ⟨owner.span.startByte, name⟩
        ⟨name, v.tree.declaredTypeAt source "type",
          (v.tree.child? "value").map (·.toExpression source)⟩
  | getter {name parent owner : Tree} (kind : v.tree.kind = "method_definition")
      (named : v.tree.child? "name" = some name) (below : v.parent? = some parent)
      (inBody : parent.kind = "class_body") (owned : v.enclosingClass? = some owner)
      (isGetter : ∃ c ∈ v.tree.children, c.kind = "get") :
      DeclaresMember source v ⟨owner.span.startByte, name.text source⟩
        ⟨name.text source, v.tree.returnType source, none⟩

/-- A node declares a method of the class that starts at a byte: right in a class body, and no
getter. -/
inductive DeclaresMethod (source : Bytes) (v : Visit) : MemberKey → Option TypeNode → Prop where
  | method {name parent owner : Tree} (kind : v.tree.kind = "method_definition")
      (named : v.tree.child? "name" = some name) (below : v.parent? = some parent)
      (inBody : parent.kind = "class_body") (owned : v.enclosingClass? = some owner)
      (noGetter : ∀ c ∈ v.tree.children, c.kind ≠ "get") :
      DeclaresMethod source v ⟨owner.span.startByte, name.text source⟩ (v.tree.returnType source)

/-! ### The chain of tests -/

/-- The kind of a node leads through the chain of tests to the one that asks for it. -/
theorem contribution?_of_mem_fieldKinds (h : v.tree.kind ∈ fieldKinds) :
    v.contribution? source =
      some (.field (v.toField source) (v.enclosingClass?.map (·.span.startByte))) := by
  simp only [fieldKinds, List.mem_cons, List.not_mem_nil, or_false] at h
  rcases h with hkind | hkind <;>
    simp [contribution?, hkind, Tree.isClass, Tree.classKinds, fieldKinds]

theorem contribution?_of_mem_functionKinds (h : v.tree.kind ∈ functionKinds) :
    v.contribution? source = (v.tree.child? "name").map fun name =>
      .function (name.text source) (v.tree.returnType source) := by
  simp only [functionKinds, List.mem_cons, List.not_mem_nil, or_false] at h
  rcases h with hkind | hkind | hkind <;>
    simp [contribution?, hkind, Tree.isClass, Tree.classKinds, fieldKinds, functionKinds]

theorem contribution?_of_variableDeclarator (h : v.tree.kind = "variable_declarator") :
    v.contribution? source = v.variableContribution? source := by
  simp [contribution?, h, Tree.isClass, Tree.classKinds, fieldKinds, functionKinds]

theorem contribution?_of_methodDefinition (h : v.tree.kind = "method_definition") :
    v.contribution? source = v.methodContribution? source := by
  simp [contribution?, h, Tree.isClass, Tree.classKinds, fieldKinds, functionKinds]

/-- A declarator with a plain name declares a function or a variable, by its value. -/
theorem variableContribution?_eq_some_iff {c : Contribution} :
    v.variableContribution? source = some c ↔
      ∃ name, v.tree.child? "name" = some name ∧ name.kind = "identifier" ∧
        ((∃ value, v.tree.child? "value" = some value ∧ value.kind ∈ functionValueKinds ∧
            c = .function (name.text source) (value.returnType source)) ∨
          (∀ value, v.tree.child? "value" = some value → value.kind ∉ functionValueKinds) ∧
            c = .variable (name.text source) (v.tree.declaredTypeAt source "type")
              ((v.tree.child? "value").map (·.toExpression source))) := by
  unfold variableContribution?
  -- the tests in the order in which they are made: name, plain name, value, kind of the value
  cases hname : v.tree.child? "name" with
  | none => simp
  | some name =>
    by_cases hkind : name.kind = "identifier"
    · cases hvalue : v.tree.child? "value" with
      | none => simp [hkind, eq_comm]
      | some value =>
        by_cases hfunction : value.kind ∈ functionValueKinds
        · simp [hkind, hfunction, eq_comm]
        · simp [hkind, hfunction, eq_comm]
    · simp [hkind]

/-- A named method right in a class body declares a getter or a method, by its tokens. -/
theorem methodContribution?_eq_some_iff {c : Contribution} :
    v.methodContribution? source = some c ↔
      ∃ name parent owner, v.tree.child? "name" = some name ∧ v.parent? = some parent ∧
        v.enclosingClass? = some owner ∧ parent.kind = "class_body" ∧
        ((∃ c ∈ v.tree.children, c.kind = "get") ∧
            c = .getter ⟨owner.span.startByte, name.text source⟩ (v.tree.returnType source) ∨
          (∀ c ∈ v.tree.children, c.kind ≠ "get") ∧
            c = .method ⟨owner.span.startByte, name.text source⟩ (v.tree.returnType source)) := by
  have hany : v.tree.children.any (·.kind == "get") = true ↔ ∃ c ∈ v.tree.children, c.kind = "get" := by
    rw [List.any_eq_true]
    exact exists_congr fun c => and_congr_right fun _ => beq_iff_eq
  -- the tests are nested in one direction and given at once in the other
  constructor
  · intro h
    unfold methodContribution? at h
    split at h
    · rename_i name parent owner named below owned
      split at h
      · cases h
      · rename_i inBody
        refine ⟨name, parent, owner, named, below, owned, by simpa using inBody, ?_⟩
        dsimp only at h
        split at h
        · rename_i isGetter
          exact Or.inl ⟨hany.1 isGetter, (Option.some.inj h).symm⟩
        · rename_i noGetter
          refine Or.inr ⟨fun d hd hkind => noGetter (hany.2 ⟨d, hd, hkind⟩), ?_⟩
          exact (Option.some.inj h).symm
    · cases h
  · rintro ⟨name, parent, owner, named, below, owned, inBody, ⟨isGetter, rfl⟩ | ⟨noGetter, rfl⟩⟩
    · simp only [methodContribution?, named, below, owned, inBody, bne_self_eq_false,
        Bool.false_eq_true, if_false, hany.2 isGetter, if_true]
    · have hnone : ¬ v.tree.children.any (·.kind == "get") = true := fun h =>
        (hany.1 h).elim fun d hd => noGetter d hd.1 hd.2
      simp only [methodContribution?, named, below, owned, inBody, bne_self_eq_false,
        Bool.false_eq_true, if_false, hnone]

/-! ### What the walk enters is what nodes declare -/

theorem bind_function?_eq_some_iff {name : String} {type : Option TypeNode} :
    (v.contribution? source).bind Contribution.function? = some (name, type) ↔
      v.DeclaresFunction source name type := by
  constructor
  · intro h
    obtain ⟨c, hc, hfunction⟩ := Option.bind_eq_some_iff.1 h
    -- the entry tells the kind of the node, and the kind leads to the test that made the entry
    have hkind : v.tree.kind ∈ functionKinds ∨ v.tree.kind = "variable_declarator" := by
      cases adds_of_contribution? hc with
      | function kind => exact Or.inl kind
      | functionVariable kind => exact Or.inr kind
      | _ => cases hfunction
    rcases hkind with kind | kind
    · rw [contribution?_of_mem_functionKinds kind] at hc
      obtain ⟨name, named, rfl⟩ := Option.map_eq_some_iff.1 hc
      cases hfunction
      exact .declaration kind named
    · rw [contribution?_of_variableDeclarator kind] at hc
      obtain ⟨name, named, plain, ⟨value, valued, isFunction, rfl⟩ | ⟨-, rfl⟩⟩ :=
        variableContribution?_eq_some_iff.1 hc
      · cases hfunction
        exact .value kind named plain valued isFunction
      · cases hfunction
  · rintro (⟨kind, named⟩ | ⟨kind, named, plain, valued, isFunction⟩)
    · rw [contribution?_of_mem_functionKinds kind, named]
      rfl
    · rw [contribution?_of_variableDeclarator kind, variableContribution?_eq_some_iff.2
        ⟨_, named, plain, Or.inl ⟨_, valued, isFunction, rfl⟩⟩]
      rfl

theorem bind_binding?_eq_some_iff {name : String} {d : Declaration} :
    (v.contribution? source).bind Contribution.binding? = some (name, d) ↔
      v.DeclaresVariable source name d := by
  constructor
  · intro h
    obtain ⟨c, hc, hbinding⟩ := Option.bind_eq_some_iff.1 h
    have kind : v.tree.kind = "variable_declarator" := by
      cases adds_of_contribution? hc with
      | «variable» kind => exact kind
      | _ => cases hbinding
    rw [contribution?_of_variableDeclarator kind] at hc
    obtain ⟨name, named, plain, ⟨value, -, -, rfl⟩ | ⟨noFunction, rfl⟩⟩ :=
      variableContribution?_eq_some_iff.1 hc
    · cases hbinding
    · cases hbinding
      exact .declarator kind named plain noFunction
  · rintro ⟨kind, named, plain, noFunction⟩
    rw [contribution?_of_variableDeclarator kind, variableContribution?_eq_some_iff.2
      ⟨_, named, plain, Or.inr ⟨noFunction, rfl⟩⟩]
    rfl

/-- A key is a name if it is an identifier, private or not. -/
theorem name?_eq_some_iff {e : Expression} {name : String} :
    e.name? = some name ↔ ∃ span, e = .identifier name span ∨ e = .privateIdentifier name span := by
  cases e <;> simp [Expression.name?]

/-- A field is a member if it stands in a class and its key is a name. -/
theorem member?_field_eq_some_iff {key : MemberKey} {d : Declaration} :
    (Contribution.field (v.toField source) (v.enclosingClass?.map (·.span.startByte))).member? =
        some (key, d) ↔
      ∃ owner name, v.enclosingClass? = some owner ∧ (v.tree.fieldKey source).name? = some name ∧
        key = ⟨owner.span.startByte, name⟩ ∧
        d = ⟨name, v.tree.declaredTypeAt source "type",
          (v.tree.child? "value").map (·.toExpression source)⟩ := by
  simp only [Contribution.member?, toField]
  -- a field outside of classes, and one whose key is no name, is no member
  cases v.enclosingClass? with
  | none => simp
  | some owner =>
    cases (v.tree.fieldKey source).name? with
    | none => simp
    | some name => simp [eq_comm]

theorem bind_member?_eq_some_iff {key : MemberKey} {d : Declaration} :
    (v.contribution? source).bind Contribution.member? = some (key, d) ↔
      v.DeclaresMember source key d := by
  constructor
  · intro h
    obtain ⟨c, hc, hmember⟩ := Option.bind_eq_some_iff.1 h
    -- fields and getters are entered as members, each by the test for its kind
    have hkind : v.tree.kind ∈ fieldKinds ∨ v.tree.kind = "method_definition" := by
      cases adds_of_contribution? hc with
      | field kind => exact Or.inl kind
      | getter kind => exact Or.inr kind
      | _ => cases hmember
    rcases hkind with kind | kind
    · rw [contribution?_of_mem_fieldKinds kind] at hc
      obtain rfl := Option.some.inj hc
      obtain ⟨owner, name, owned, hname, rfl, rfl⟩ := member?_field_eq_some_iff.1 hmember
      obtain ⟨span, keyed⟩ := name?_eq_some_iff.1 hname
      exact .field kind owned keyed
    · rw [contribution?_of_methodDefinition kind] at hc
      obtain ⟨name, parent, owner, named, below, owned, inBody, ⟨isGetter, rfl⟩ | ⟨-, rfl⟩⟩ :=
        methodContribution?_eq_some_iff.1 hc
      · cases hmember
        exact .getter kind named below inBody owned isGetter
      · cases hmember
  · rintro (⟨kind, owned, keyed⟩ | ⟨kind, named, below, inBody, owned, isGetter⟩)
    · rw [contribution?_of_mem_fieldKinds kind]
      exact member?_field_eq_some_iff.2
        ⟨_, _, owned, name?_eq_some_iff.2 ⟨_, keyed⟩, rfl, rfl⟩
    · rw [contribution?_of_methodDefinition kind, methodContribution?_eq_some_iff.2
        ⟨_, _, _, named, below, owned, inBody, Or.inl ⟨isGetter, rfl⟩⟩]
      rfl

theorem bind_method?_eq_some_iff {key : MemberKey} {type : Option TypeNode} :
    (v.contribution? source).bind Contribution.method? = some (key, type) ↔
      v.DeclaresMethod source key type := by
  constructor
  · intro h
    obtain ⟨c, hc, hmethod⟩ := Option.bind_eq_some_iff.1 h
    -- only a method is entered as one; a getter is told by its token
    have kind : v.tree.kind = "method_definition" := by
      cases adds_of_contribution? hc with
      | method kind => exact kind
      | _ => cases hmethod
    rw [contribution?_of_methodDefinition kind] at hc
    obtain ⟨name, parent, owner, named, below, owned, inBody, ⟨-, rfl⟩ | ⟨noGetter, rfl⟩⟩ :=
      methodContribution?_eq_some_iff.1 hc
    · cases hmethod
    · cases hmethod
      exact .method kind named below inBody owned noGetter
  · rintro ⟨kind, named, below, inBody, owned, noGetter⟩
    rw [contribution?_of_methodDefinition kind, methodContribution?_eq_some_iff.2
      ⟨_, _, _, named, below, owned, inBody, Or.inr ⟨noGetter, rfl⟩⟩]
    rfl

end Visit

section OfTree

variable {path language : String} {source : Bytes} {root : Tree} {hasErrors : Bool}

theorem declarations_ofTree :
    (SourceUnit.ofTree path language source root hasErrors).declarations =
      (root.contributions source).foldl DeclarationIndex.add {} := rfl

/-- A table that is filled with the entries of a tree holds its first declarations. -/
theorem Tree.firstWins_contributions {κ α : Type} [DecidableEq κ]
    {declared? : Contribution → Option (κ × α)} {Declares : Visit → κ → α → Prop}
    (hdeclared : ∀ v k a, (v.contribution? source).bind declared? = some (k, a) ↔ Declares v k a)
    (root : Tree) :
    Table.FirstWins (((root.contributions source).filterMap declared?).foldl
        (fun t e => t.insertNew e.1 e.2) Table.empty) (root.preorder []) Declares := by
  rw [Tree.contributions, Tree.walk_eq_preorder, List.filterMap_filterMap]
  exact Table.firstWins_foldl_insertNew hdeclared (root.preorder [])

/-- Each table of an index holds the first declarations of a tree, nodes being taken in the recursive
preorder. -/
structure DeclarationIndex.FirstWins (index : DeclarationIndex) (source : Bytes) (root : Tree) :
    Prop where
  functions : index.functions.FirstWins (root.preorder []) (Visit.DeclaresFunction source)
  bindings : index.bindings.FirstWins (root.preorder []) (Visit.DeclaresVariable source)
  members : index.members.FirstWins (root.preorder []) (Visit.DeclaresMember source)
  methods : index.methods.FirstWins (root.preorder []) (Visit.DeclaresMethod source)

/-- **The first declaration wins.** For every parse tree, each table of the declaration index holds
for a key what the first tree node that declares the key declares for it, has the keys that some
tree node declares, and lists them in the order of their first declarations. -/
theorem firstWins_ofTree :
    (SourceUnit.ofTree path language source root hasErrors).declarations.FirstWins source root where
  functions := by
    rw [declarations_ofTree, DeclarationIndex.functions_foldl_add]
    exact Tree.firstWins_contributions (fun _ _ _ => Visit.bind_function?_eq_some_iff) root
  bindings := by
    rw [declarations_ofTree, DeclarationIndex.bindings_foldl_add]
    exact Tree.firstWins_contributions (fun _ _ _ => Visit.bind_binding?_eq_some_iff) root
  members := by
    rw [declarations_ofTree, DeclarationIndex.members_foldl_add]
    exact Tree.firstWins_contributions (fun _ _ _ => Visit.bind_member?_eq_some_iff) root
  methods := by
    rw [declarations_ofTree, DeclarationIndex.methods_foldl_add]
    exact Tree.firstWins_contributions (fun _ _ _ => Visit.bind_method?_eq_some_iff) root

end OfTree

end SignalLint
