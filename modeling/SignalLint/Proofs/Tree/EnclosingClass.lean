import Mathlib.Data.List.Nodup
import SignalLint.Proofs.Code.Scope
import SignalLint.Proofs.Tree.Visits

/-!
# Two notions of enclosing class

A parse tree has a class around a node in two ways. Seen from the tree it is the nearest class
among the node's ancestors (`Visit.enclosingClass?`), and this is the class for which the index
stores the members of a class body. Seen from the index it is the class whose byte range contains
the node's first byte and that starts last (`DeclarationIndex.enclosingClass?`), and this is the
class in which `this.name` is looked up. The main statement, `enclosingClass?_startByte`, says that
in a properly nested tree the two are the same, so that a look-up finds the first declaration that
this very class has of the name, and never one of another class.

The proof has three parts.

* `classes_ofTree`, `members_ofTree` and `methods_ofTree` read the index off the walk: the classes
  are the class nodes in document order, and a key holds what was entered for it first
  (`Table.get?_foldl_insertNew`).
* `ClassesApart.exists_last` — among the classes that contain the first byte of a node, the nearest
  ancestor starts last. This rests on `ClassesApart.mem_ancestors`: a class that contains the byte
  stands above the node, since no class at or below the node starts where it starts.
* `ClassesApart.eq_of_startByte_eq` — a class is known by its first byte, so a member key belongs to
  one class only.
-/

namespace SignalLint

/-! ### What a table holds -/

/-- Of all values entered for a key, the one that was there before or else the first one stays. -/
theorem Table.get?_foldl_insertNew {κ α : Type} [DecidableEq κ] (entries : List (κ × α))
    (t : Table κ α) (k : κ) :
    (entries.foldl (fun t e => t.insertNew e.1 e.2) t).get? k =
      (t.get? k).or ((entries.find? (·.1 = k)).map (·.2)) := by
  induction entries generalizing t with
  | nil => rw [List.foldl_nil, List.find?_nil, Option.map_none, Option.or_none]
  | cons e entries ih =>
    rw [List.foldl_cons, ih, Table.get?_insertNew, List.find?_cons]
    by_cases h : e.1 = k
    · -- the first entry for the key; whatever comes later is not looked at
      subst h
      rw [if_pos rfl, decide_eq_true rfl, Option.or_assoc]
      rfl
    · rw [if_neg fun h' => h h'.symm, decide_eq_false h]

/-! ### What the index holds -/

namespace Contribution

/-- The class that an entry adds to the index. -/
def classScope? : Contribution → Option ClassScope
  | classScope scope => some scope
  | _ => none

/-- The field or getter that an entry adds to the index. -/
def member? : Contribution → Option (MemberKey × Declaration)
  | field f owner =>
    match owner, f.key.name? with
    | some start, some name => some (⟨start, name⟩, ⟨name, f.declaredType, f.value⟩)
    | _, _ => none
  | getter key returnType => some (key, ⟨key.name, returnType, none⟩)
  | _ => none

/-- The method that an entry adds to the index. -/
def method? : Contribution → Option (MemberKey × Option TypeNode)
  | method key returnType => some (key, returnType)
  | _ => none

end Contribution

namespace DeclarationIndex

/-- A field enters the members of its class, if it has a class and a name. -/
theorem add_field (index : DeclarationIndex) (f : Field) (owner : Option Nat) :
    index.add (.field f owner) =
      match (Contribution.field f owner).member? with
      | some e => { index with members := index.members.insertNew e.1 e.2 }
      | none => index := by
  simp only [add, Contribution.member?]
  cases owner with
  | none => rfl
  | some start => cases f.key.name? <;> rfl

variable (contributions : List Contribution) (index : DeclarationIndex)

theorem classes_foldl_add :
    (contributions.foldl add index).classes =
      index.classes ++ contributions.filterMap Contribution.classScope? := by
  induction contributions generalizing index with
  | nil => rw [List.foldl_nil, List.filterMap_nil, List.append_nil]
  | cons c contributions ih =>
    rw [List.foldl_cons, ih, List.filterMap_cons]
    -- a field enters the members, and no other contribution touches the classes
    cases c with
    | classScope scope => exact List.append_assoc ..
    | field f owner =>
      rw [add_field]
      cases (Contribution.field f owner).member? <;> rfl
    | _ => rfl

/-- A table that each entry leaves alone or adds one key to grows by these keys, in their order. -/
theorem foldl_add_eq {κ α : Type} [DecidableEq κ] {table : DeclarationIndex → Table κ α}
    {declared? : Contribution → Option (κ × α)}
    (hadd : ∀ index c, table (add index c) =
      (declared? c).elim (table index) fun e => (table index).insertNew e.1 e.2) :
    table (contributions.foldl add index) =
      (contributions.filterMap declared?).foldl (fun t e => t.insertNew e.1 e.2) (table index) := by
  induction contributions generalizing index with
  | nil => rfl
  | cons c contributions ih =>
    rw [List.foldl_cons, ih, List.filterMap_cons, hadd]
    cases declared? c <;> rfl

theorem members_foldl_add :
    (contributions.foldl add index).members =
      (contributions.filterMap Contribution.member?).foldl (fun t e => t.insertNew e.1 e.2)
        index.members := by
  refine foldl_add_eq contributions index fun index c => ?_
  cases c with
  | field f owner =>
    rw [add_field]
    cases (Contribution.field f owner).member? <;> rfl
  | _ => rfl

theorem methods_foldl_add :
    (contributions.foldl add index).methods =
      (contributions.filterMap Contribution.method?).foldl (fun t e => t.insertNew e.1 e.2)
        index.methods := by
  refine foldl_add_eq contributions index fun index c => ?_
  cases c with
  | field f owner =>
    rw [add_field]
    cases (Contribution.field f owner).member? <;> rfl
  | _ => rfl

end DeclarationIndex

namespace Tree

/-- The scope that the index keeps for a class node. -/
def classScope (t : Tree) (source : Bytes) : ClassScope :=
  ⟨t.className? source, t.span.startByte, t.span.endByte⟩

/-- The key under which the index keeps a member of a class node. -/
def memberKey (owner : Tree) (name : String) : MemberKey := ⟨owner.span.startByte, name⟩

/-- Whether a node is a class and not the bare keyword of one. -/
def isClassNode (t : Tree) : Bool := t.isClass && t.named

theorem not_newExpression_of_isClass {t : Tree} (h : t.isClass = true) :
    (t.kind == "new_expression") = false := by
  have hkind : t.kind ∈ classKinds := List.contains_iff_mem.1 h
  cases heq : t.kind == "new_expression" with
  | false => rfl
  | true =>
    rw [eq_of_beq heq] at hkind
    exact absurd hkind (by decide)

end Tree

namespace Visit

variable {v : Visit} {source : Bytes}

/-- **What a node adds**, one rule for each kind of contribution. A variable that holds a function
and a named function add the same. -/
inductive Adds (v : Visit) (source : Bytes) : Contribution → Prop where
  | construct (kind : v.tree.kind = "new_expression") :
      Adds v source (.construct (v.tree.toExpression source))
  | classScope (isClass : v.tree.isClassNode = true) :
      Adds v source (.classScope (v.tree.classScope source))
  | field (kind : v.tree.kind ∈ fieldKinds) :
      Adds v source (.field (v.toField source) (v.enclosingClass?.map (·.span.startByte)))
  | decorator (kind : v.tree.kind = "decorator") :
      Adds v source (.decorator (v.tree.toDecorator source))
  | function {name : Tree} (kind : v.tree.kind ∈ functionKinds)
      (named : v.tree.child? "name" = some name) :
      Adds v source (.function (name.text source) (v.tree.returnType source))
  | functionVariable {name value : Tree} (kind : v.tree.kind = "variable_declarator")
      (named : v.tree.child? "name" = some name) (valued : v.tree.child? "value" = some value)
      (isFunction : value.kind ∈ functionValueKinds) :
      Adds v source (.function (name.text source) (value.returnType source))
  | variable {name : Tree} (kind : v.tree.kind = "variable_declarator")
      (named : v.tree.child? "name" = some name) :
      Adds v source (.variable (name.text source) (v.tree.declaredTypeAt source "type")
        ((v.tree.child? "value").map (·.toExpression source)))
  | getter {name owner : Tree} (kind : v.tree.kind = "method_definition")
      (named : v.tree.child? "name" = some name) (owned : v.enclosingClass? = some owner) :
      Adds v source (.getter ⟨owner.span.startByte, name.text source⟩ (v.tree.returnType source))
  | method {name owner : Tree} (kind : v.tree.kind = "method_definition")
      (named : v.tree.child? "name" = some name) (owned : v.enclosingClass? = some owner) :
      Adds v source (.method ⟨owner.span.startByte, name.text source⟩ (v.tree.returnType source))

theorem adds_of_variableContribution? {c : Contribution}
    (kind : v.tree.kind = "variable_declarator") (h : v.variableContribution? source = some c) :
    v.Adds source c := by
  -- without a plain name nothing is added; a value that is a function decides what is
  unfold variableContribution? at h
  split at h
  · cases h
  · rename_i name hname
    split at h
    · cases h
    · split at h
      · rename_i hvalue
        cases h
        have hadds : v.Adds source _ := .variable kind hname
        rwa [hvalue] at hadds
      · rename_i value hvalue
        split at h
        · rename_i hfunction
          cases h
          exact .functionVariable kind hname hvalue (List.contains_iff_mem.1 hfunction)
        · cases h
          have hadds : v.Adds source _ := .variable kind hname
          rwa [hvalue] at hadds

theorem adds_of_methodContribution? {c : Contribution}
    (kind : v.tree.kind = "method_definition") (h : v.methodContribution? source = some c) :
    v.Adds source c := by
  unfold methodContribution? at h
  split at h
  · rename_i name parent owner hname hparent howner
    split at h
    · cases h
    · dsimp only at h
      split at h
      · cases h
        exact .getter kind hname howner
      · cases h
        exact .method kind hname howner
  · cases h

theorem adds_of_contribution? {c : Contribution} (h : v.contribution? source = some c) :
    v.Adds source c := by
  -- one test after the other, each for the kinds that its rule asks for
  unfold contribution? at h
  split at h
  · rename_i hkind
    cases h
    exact .construct (eq_of_beq hkind)
  split at h
  · rename_i hclass
    cases h
    exact .classScope hclass
  split at h
  · rename_i hkind
    cases h
    exact .field (List.contains_iff_mem.1 hkind)
  split at h
  · rename_i hkind
    cases h
    exact .decorator (eq_of_beq hkind)
  split at h
  · rename_i hkind
    obtain ⟨name, hname, rfl⟩ := Option.map_eq_some_iff.1 h
    exact .function (List.contains_iff_mem.1 hkind) hname
  split at h
  · rename_i hkind
    exact adds_of_variableContribution? (eq_of_beq hkind) h
  split at h
  · rename_i hkind
    exact adds_of_methodContribution? (eq_of_beq hkind) h
  · cases h

theorem contribution?_of_isClassNode (h : v.tree.isClassNode = true) :
    v.contribution? source = some (.classScope (v.tree.classScope source)) := by
  have hnew := Tree.not_newExpression_of_isClass (Bool.and_eq_true_iff.1 h).1
  have hclass : (v.tree.isClass && v.tree.named) = true := h
  rw [contribution?, hnew, hclass]
  rfl

/-- Class nodes, and no others, add a class. -/
theorem classScope?_contribution? (v : Visit) (source : Bytes) :
    (v.contribution? source).bind Contribution.classScope? =
      if v.tree.isClassNode then some (v.tree.classScope source) else none := by
  -- that class nodes add a class is one test; that no others do is the rules gone through
  cases hclass : v.tree.isClassNode with
  | true =>
    rw [contribution?_of_isClassNode hclass]
    rfl
  | false =>
    cases hc : v.contribution? source with
    | none => rfl
    | some c =>
      cases adds_of_contribution? hc with
      | classScope h => rw [hclass] at h; cases h
      | _ => rfl

/-- The field or getter that a node declares for a class, with the class that it is declared in. -/
def storedMember? (v : Visit) (source : Bytes) : Option (Tree × String × Declaration) :=
  match v.enclosingClass?, (v.contribution? source).bind Contribution.member? with
  | some owner, some (key, d) => some (owner, key.name, d)
  | _, _ => none

/-- The method that a node declares, with the class that it is declared in. -/
def storedMethod? (v : Visit) (source : Bytes) : Option (Tree × String × Option TypeNode) :=
  match v.enclosingClass?, (v.contribution? source).bind Contribution.method? with
  | some owner, some (key, returnType) => some (owner, key.name, returnType)
  | _, _ => none

/-- A member is entered under the first byte of the class that it is declared in. -/
theorem bind_member?_eq (v : Visit) (source : Bytes) :
    (v.contribution? source).bind Contribution.member? =
      (v.storedMember? source).map fun e => (e.1.memberKey e.2.1, e.2.2) := by
  unfold storedMember?
  cases hc : v.contribution? source with
  | none => cases v.enclosingClass? <;> rfl
  | some c =>
    -- only fields and getters are members; a field may stand outside of classes
    cases adds_of_contribution? hc with
    | field kind =>
      simp only [Option.bind_some, Contribution.member?]
      cases howner : v.enclosingClass? with
      | none => rfl
      | some owner => cases (v.toField source).key.name? <;> rfl
    | getter kind named owned => rw [owned]; rfl
    | _ => cases v.enclosingClass? <;> rfl

/-- A method is entered under the first byte of the class that it is declared in. -/
theorem bind_method?_eq (v : Visit) (source : Bytes) :
    (v.contribution? source).bind Contribution.method? =
      (v.storedMethod? source).map fun e => (e.1.memberKey e.2.1, e.2.2) := by
  unfold storedMethod?
  cases hc : v.contribution? source with
  | none => cases v.enclosingClass? <;> rfl
  | some c =>
    cases adds_of_contribution? hc with
    | method kind named owned => rw [owned]; rfl
    | _ => cases v.enclosingClass? <;> rfl

end Visit

/-! ### The index of a tree -/

namespace Tree

/-- `b` is the first thing that the class `owner` declares under `name`, in document order. -/
def DeclaresFirst {β : Type} (root : Tree) (stored : Visit → Option (Tree × String × β))
    (owner : Tree) (name : String) (b : β) : Prop :=
  ∃ before v after, root.walk = before ++ v :: after ∧ stored v = some (owner, name, b) ∧
    ∀ u ∈ before, ∀ b', stored u ≠ some (owner, name, b')

variable {β : Type} {root owner : Tree} {stored : Visit → Option (Tree × String × β)}
  {name : String} {b : β}

/-- The entries of a tree, each under the key of its class. -/
def entries (root : Tree) (stored : Visit → Option (Tree × String × β)) : List (MemberKey × β) :=
  root.walk.filterMap fun v => (stored v).map fun e => (e.1.memberKey e.2.1, e.2.2)

/-- If the key of a class is that of no other class, the first entry under the key is the first
declaration of the class. -/
theorem find?_entries_iff
    (hkey : ∀ v ∈ root.walk, ∀ o n b', stored v = some (o, n, b') →
      o.span.startByte = owner.span.startByte → o = owner) :
    (((root.entries stored).find? (·.1 = owner.memberKey name)).map (·.2)) = some b ↔
      root.DeclaresFirst stored owner name b := by
  -- a node answers to the key exactly if it declares the name for the class
  have hany : ∀ v ∈ root.walk,
      (((stored v).map fun e => (e.1.memberKey e.2.1, e.2.2)).any (·.1 = owner.memberKey name)) =
          true ↔ ∃ b', stored v = some (owner, name, b') := by
    intro v hv
    cases hs : stored v with
    | none => simp
    | some e =>
      obtain ⟨o, n, b'⟩ := e
      simp only [Option.map_some, Option.any_some, decide_eq_true_eq, memberKey,
        MemberKey.mk.injEq, Option.some.injEq, Prod.mk.injEq]
      constructor
      · rintro ⟨hstart, rfl⟩
        exact ⟨b', hkey v hv o n b' hs hstart, rfl, rfl⟩
      · rintro ⟨_, rfl, rfl, -⟩
        exact ⟨rfl, rfl⟩
  rw [entries, List.find?_filterMap, Option.map_bind, Option.bind_eq_some_iff]
  constructor
  · -- the first node that answers to the key declares the name, and none before it does
    rintro ⟨v, hfind, hv⟩
    obtain ⟨hmatch, before, after, hwalk, hbefore⟩ := List.find?_eq_some_iff_append.1 hfind
    have hmem : ∀ u ∈ before, u ∈ root.walk := fun u hu => by
      rw [hwalk]
      exact List.mem_append_left _ hu
    obtain ⟨b', hb'⟩ := (hany v (List.mem_of_find?_eq_some hfind)).1 hmatch
    have hb : b' = b := by simpa [hb'] using hv
    refine ⟨before, v, after, hwalk, hb ▸ hb', fun u hu b'' hb'' => ?_⟩
    have hno := hbefore u hu
    rw [(hany u (hmem u hu)).2 ⟨b'', hb''⟩] at hno
    cases hno
  · -- the first node that declares the name answers to the key, and none before it does
    rintro ⟨before, v, after, hwalk, hv, hbefore⟩
    have hmem : ∀ u, u ∈ before ∨ u = v → u ∈ root.walk := fun u hu => by
      rw [hwalk, List.mem_append, List.mem_cons]
      exact hu.imp_right Or.inl
    refine ⟨v, List.find?_eq_some_iff_append.2
      ⟨(hany v (hmem v (Or.inr rfl))).2 ⟨b, hv⟩, before, after, hwalk, fun u hu => ?_⟩, ?_⟩
    · rw [Bool.not_eq_true', ← Bool.not_eq_true, hany u (hmem u (Or.inl hu))]
      rintro ⟨b', hb'⟩
      exact hbefore u hu b' hb'
    · simp [hv]

end Tree

section OfTree

variable {path language : String} {source : Bytes} {root : Tree} {hasErrors : Bool}

/-- The classes of the index are the class nodes in document order. -/
theorem classes_ofTree :
    (SourceUnit.ofTree path language source root hasErrors).declarations.classes =
      (root.walk.filter (·.tree.isClassNode)).map (·.tree.classScope source) := by
  change (DeclarationIndex.ofContributions (root.contributions source)).classes = _
  rw [DeclarationIndex.ofContributions, DeclarationIndex.classes_foldl_add, Tree.contributions,
    List.filterMap_filterMap, ← List.filterMap_eq_map, List.filterMap_filter]
  exact List.filterMap_congr fun v _ => Visit.classScope?_contribution? v source

/-- A member key holds the first field or getter entered under it. -/
theorem members_ofTree (key : MemberKey) :
    (SourceUnit.ofTree path language source root hasErrors).declarations.members.get? key =
      ((root.entries (·.storedMember? source)).find? (·.1 = key)).map (·.2) := by
  -- the table keeps the first entry of each key, and the entries are those of the walk
  change (DeclarationIndex.ofContributions (root.contributions source)).members.get? key = _
  rw [DeclarationIndex.ofContributions, DeclarationIndex.members_foldl_add,
    Table.get?_foldl_insertNew, Table.get?_empty, Option.none_or, Tree.contributions,
    List.filterMap_filterMap]
  simp only [Visit.bind_member?_eq]
  rfl

/-- A method key holds the first method entered under it. -/
theorem methods_ofTree (key : MemberKey) :
    (SourceUnit.ofTree path language source root hasErrors).declarations.methods.get? key =
      ((root.entries (·.storedMethod? source)).find? (·.1 = key)).map (·.2) := by
  change (DeclarationIndex.ofContributions (root.contributions source)).methods.get? key = _
  rw [DeclarationIndex.ofContributions, DeclarationIndex.methods_foldl_add,
    Table.get?_foldl_insertNew, Table.get?_empty, Option.none_or, Tree.contributions,
    List.filterMap_filterMap]
  simp only [Visit.bind_method?_eq]
  rfl

end OfTree

/-! ### Agreement -/

/-- What is known of the classes of a parse tree: a class node that has children is no bare
keyword, and no two class nodes start at the same byte. -/
structure ClassesApart (root : Tree) : Prop where
  named : root.Everywhere fun t => t.isClass = true → t.children ≠ [] → t.named = true
  apart : ((root.walk.filter (·.tree.isClassNode)).map (·.tree.span.startByte)).Nodup

/-- A node starts at a byte of its own as far as classes are concerned: no class at it or below it
starts where it starts. -/
def Tree.StartsClear (t : Tree) : Prop :=
  ∀ u ∈ t.walk, u.tree.isClassNode = true → u.tree.span.startByte ≠ t.span.startByte

instance (t : Tree) : Decidable t.StartsClear :=
  inferInstanceAs (Decidable (∀ u ∈ t.walk, _ → _))

namespace ClassesApart

variable {root : Tree} {v : Visit}

/-- A class node is known by its first byte. -/
theorem eq_of_startByte_eq (h : ClassesApart root) {u w : Visit} (hu : u ∈ root.walk)
    (hw : w ∈ root.walk) (hclass : u.tree.isClassNode = true) (hclass' : w.tree.isClassNode = true)
    (heq : u.tree.span.startByte = w.tree.span.startByte) : u.tree = w.tree :=
  congrArg Visit.tree (List.inj_on_of_nodup_map h.apart
    (List.mem_filter.2 ⟨hu, hclass⟩) (List.mem_filter.2 ⟨hw, hclass'⟩) heq)

/-- An enclosing class is a class node of the tree. -/
theorem exists_visit_of_enclosingClass? (h : ClassesApart root) (hv : v ∈ root.walk) {c : Tree}
    (hc : v.enclosingClass? = some c) :
    ∃ u ∈ root.walk, u.tree = c ∧ c.isClassNode = true := by
  obtain ⟨hchildren, u, hu, rfl⟩ :=
    Tree.exists_visit_of_mem_ancestors hv (List.mem_of_find?_eq_some hc)
  have hclass : u.tree.isClass = true := List.find?_some hc
  exact ⟨u, hu, rfl, Bool.and_eq_true_iff.2 ⟨hclass, h.named u hu hclass hchildren⟩⟩

/-- Only ancestors contain the first byte: a class that contains the first byte of a node stands
above it. -/
theorem mem_ancestors (hn : root.ProperlyNested) (hv : v ∈ root.walk)
    (hne : v.tree.span.startByte < v.tree.span.endByte) (hclear : v.tree.StartsClear)
    {w : Visit} (hw : w ∈ root.walk) (hclass : w.tree.isClassNode = true)
    (hin : w.tree.span.startByte ≤ v.tree.span.startByte ∧
      v.tree.span.startByte < w.tree.span.endByte) : w.tree ∈ v.ancestors := by
  rw [Tree.walk_eq_preorder] at hv hw
  rcases hn.mem_ancestors_or_below hv hw hne hin.1 hin.2 with habove | ⟨u, hu, heq⟩
  · exact habove
  · -- a class at or below the node starts no earlier than the node, hence where it starts
    have hsub : v.tree.ProperlyNested := hn.of_mem_preorder hv
    have hinside := hsub.inside (Tree.walk_eq_preorder v.tree ▸ hu)
    refine absurd ?_ (hclear u hu (heq ▸ hclass))
    rw [heq] at hinside ⊢
    omega

/-- **The nearest class starts last.** Every class that contains the first byte of a node starts no
later than the nearest class above the node, and there is one. -/
theorem exists_last (hn : root.ProperlyNested) (hv : v ∈ root.walk)
    (hne : v.tree.span.startByte < v.tree.span.endByte) (hclear : v.tree.StartsClear)
    {w : Visit} (hw : w ∈ root.walk) (hclass : w.tree.isClassNode = true)
    (hin : w.tree.span.startByte ≤ v.tree.span.startByte ∧
      v.tree.span.startByte < w.tree.span.endByte) :
    ∃ c, v.enclosingClass? = some c ∧ w.tree.span.startByte ≤ c.span.startByte := by
  have hmem := mem_ancestors hn hv hne hclear hw hclass hin
  have hisClass : w.tree.isClass = true := (Bool.and_eq_true_iff.1 hclass).1
  rw [Tree.walk_eq_preorder] at hv
  have hsorted := (hn.ancestors_inside hv (fun a ha => absurd ha List.not_mem_nil) .nil).2
  cases hfind : v.enclosingClass? with
  | none => exact absurd hisClass (List.find?_eq_none.1 hfind _ hmem)
  | some c =>
    refine ⟨c, rfl, ?_⟩
    -- a class above the node is no nearer than the nearest one, hence starts no later
    obtain ⟨-, near, far, heq, hnear⟩ := List.find?_eq_some_iff_append.1 hfind
    rw [heq] at hmem hsorted
    rcases List.mem_append.1 hmem with hmem | hmem
    · have hno := hnear _ hmem
      rw [hisClass] at hno
      cases hno
    · rcases List.mem_cons.1 hmem with heq | hfar
      · exact Nat.le_of_eq (by rw [heq])
      · exact (List.pairwise_cons.1 (List.pairwise_append.1 hsorted).2.1).1 _ hfar

/-- The class that stores an entry for a node is the class in which a key is looked up, if the two
start at the same byte. -/
theorem eq_of_stored (h : ClassesApart root) {β : Type}
    {stored : Visit → Option (Tree × String × β)}
    (howner : ∀ u o n b, stored u = some (o, n, b) → u.enclosingClass? = some o)
    (hv : v ∈ root.walk) {c : Tree} (hc : v.enclosingClass? = some c) :
    ∀ u ∈ root.walk, ∀ o n b, stored u = some (o, n, b) →
      o.span.startByte = c.span.startByte → o = c := by
  intro u hu o n b hstored heq
  obtain ⟨w, hw, rfl, hclass⟩ := h.exists_visit_of_enclosingClass? hu (howner u o n b hstored)
  obtain ⟨w', hw', rfl, hclass'⟩ := h.exists_visit_of_enclosingClass? hv hc
  exact h.eq_of_startByte_eq hw hw' hclass hclass' heq

end ClassesApart

namespace Visit

variable {v : Visit} {source : Bytes} {owner : Tree} {name : String}

theorem enclosingClass?_of_storedMember? {d : Declaration}
    (h : v.storedMember? source = some (owner, name, d)) : v.enclosingClass? = some owner := by
  unfold storedMember? at h
  split at h
  · rename_i howner _
    cases h
    exact howner
  · cases h

theorem enclosingClass?_of_storedMethod? {returnType : Option TypeNode}
    (h : v.storedMethod? source = some (owner, name, returnType)) :
    v.enclosingClass? = some owner := by
  unfold storedMethod? at h
  split at h
  · rename_i howner _
    cases h
    exact howner
  · cases h

end Visit

section Agreement

variable {path language : String} {source : Bytes} {root : Tree} {hasErrors : Bool} {v : Visit}

/-- Seen from the index, the class around a node is the nearest class above it. -/
theorem enclosingClass?_ofTree (hn : root.ProperlyNested) (hc : ClassesApart root)
    (hv : v ∈ root.walk) (hne : v.tree.span.startByte < v.tree.span.endByte)
    (hclear : v.tree.StartsClear) :
    (SourceUnit.ofTree path language source root hasErrors).declarations.enclosingClass?
        (v.tree.span.startByte : Int) =
      v.enclosingClass?.map (·.classScope source) := by
  -- what a scope of the index that contains the first byte has to do with the nearest class
  have hlast : ∀ scope ∈ (SourceUnit.ofTree path language source root
        hasErrors).declarations.classes, scope.Contains (v.tree.span.startByte : Int) →
      ∃ w ∈ root.walk, w.tree.isClassNode = true ∧ scope = w.tree.classScope source ∧
        ∃ c, v.enclosingClass? = some c ∧ w.tree.span.startByte ≤ c.span.startByte := by
    intro scope hscope hin
    rw [classes_ofTree, List.mem_map] at hscope
    obtain ⟨w, hw, rfl⟩ := hscope
    obtain ⟨hw, hclass⟩ := List.mem_filter.1 hw
    have hin : (w.tree.span.startByte : Int) ≤ v.tree.span.startByte ∧
        (v.tree.span.startByte : Int) < w.tree.span.endByte := hin
    exact ⟨w, hw, hclass, rfl, ClassesApart.exists_last hn hv hne hclear hw hclass (by omega)⟩
  cases hfind : v.enclosingClass? with
  | none =>
    refine DeclarationIndex.enclosingClass?_eq_none_iff.2 fun scope hscope hin => ?_
    obtain ⟨-, -, -, -, c, hfind', -⟩ := hlast scope hscope hin
    rw [hfind] at hfind'
    cases hfind'
  | some c =>
    obtain ⟨u, hu, rfl, hclass⟩ := hc.exists_visit_of_enclosingClass? hv hfind
    -- the nearest class is in the index, it contains the byte, and all others start before it
    refine DeclarationIndex.enclosingClass?_eq_some_of_last ?_ ?_ ?_
    · rw [classes_ofTree]
      exact List.mem_map_of_mem (List.mem_filter.2 ⟨hu, hclass⟩)
    · have hinside := (hn.ancestors_inside (Tree.walk_eq_preorder root ▸ hv)
        (fun a ha => absurd ha List.not_mem_nil) .nil).1 _ (List.mem_of_find?_eq_some hfind)
      change (u.tree.span.startByte : Int) ≤ v.tree.span.startByte ∧
        (v.tree.span.startByte : Int) < u.tree.span.endByte
      omega
    · intro scope hscope hin hother
      obtain ⟨w, hw, hclass', rfl, c, hfind', hle⟩ := hlast scope hscope hin
      obtain rfl : u.tree = c := Option.some.inj (hfind.symm.trans hfind')
      -- two classes that start together are the same
      refine Nat.lt_of_le_of_ne hle fun heq => hother ?_
      rw [hc.eq_of_startByte_eq hw hu hclass' hclass heq]

/-- **The two notions of enclosing class agree.** In a properly nested tree whose classes start
apart, take a node that is not empty and at which no class starts. The class that the index finds
at the first byte of the node is the nearest class among the node's ancestors, and there is none
exactly if no ancestor is a class. A look-up of a name there finds the first declaration that this
class has of the name, so never one of another class. -/
theorem enclosingClass?_startByte (hn : root.ProperlyNested) (hc : ClassesApart root)
    (hv : v ∈ root.walk) (hne : v.tree.span.startByte < v.tree.span.endByte)
    (hclear : v.tree.StartsClear) :
    let index := (SourceUnit.ofTree path language source root hasErrors).declarations
    let offset : Int := v.tree.span.startByte
    index.enclosingClass? offset = v.enclosingClass?.map (·.classScope source) ∧
      (index.enclosingClass? offset = none ↔ ∀ a ∈ v.ancestors, a.isClass = false) ∧
      (v.enclosingClass? = none →
        ∀ name, index.member? offset name = none ∧ index.methodType? offset name = none) ∧
      ∀ c, v.enclosingClass? = some c → ∀ name,
        (∀ d, index.member? offset name = some d ↔
          root.DeclaresFirst (·.storedMember? source) c name d) ∧
        ∀ type, index.methodType? offset name = some type ↔
          root.DeclaresFirst (·.storedMethod? source) c name (some type) := by
  intro index offset
  have hagree : index.enclosingClass? offset = v.enclosingClass?.map (·.classScope source) :=
    enclosingClass?_ofTree hn hc hv hne hclear
  refine ⟨hagree, ?_, ?_, ?_⟩
  · rw [hagree, Option.map_eq_none_iff, Visit.enclosingClass?, List.find?_eq_none]
    simp only [Bool.not_eq_true]
  · intro hnone name
    rw [hnone] at hagree
    simp only [DeclarationIndex.member?, DeclarationIndex.methodType?, hagree, Option.map_none,
      Option.bind_none, and_self]
  · intro c hfind name
    rw [hfind] at hagree
    constructor
    · intro d
      rw [DeclarationIndex.member?, hagree]
      change index.members.get? (c.memberKey name) = some d ↔ _
      rw [members_ofTree]
      exact Tree.find?_entries_iff
        (hc.eq_of_stored (fun _ _ _ _ => Visit.enclosingClass?_of_storedMember?) hv hfind)
    · intro type
      rw [DeclarationIndex.methodType?, hagree]
      change (index.methods.get? (c.memberKey name)).join = some type ↔ _
      rw [Option.join_eq_some_iff, methods_ofTree]
      exact Tree.find?_entries_iff
        (hc.eq_of_stored (fun _ _ _ _ => Visit.enclosingClass?_of_storedMethod?) hv hfind)

end Agreement

/-- The tree of `class A { m = class { f; }; f; }`, a class in a member of another class. -/
def nestedClasses : Tree :=
  .node "program" true { endByte := 32 } none [
    .node "class_declaration" true { endByte := 32 } none [
      .node "class" false { endByte := 5 } none [],
      .node "type_identifier" true { startByte := 6, endByte := 7 } (some "name") [],
      .node "class_body" true { startByte := 8, endByte := 32 } (some "body") [
        .node "public_field_definition" true { startByte := 10, endByte := 26 } none [
          .node "property_identifier" true { startByte := 10, endByte := 11 } (some "name") [],
          .node "class" true { startByte := 14, endByte := 26 } (some "value") [
            .node "class" false { startByte := 14, endByte := 19 } none [],
            .node "class_body" true { startByte := 20, endByte := 26 } (some "body") [
              .node "public_field_definition" true { startByte := 22, endByte := 23 } none [
                .node "property_identifier" true { startByte := 22, endByte := 23 } (some "name")
                  []]]]],
        .node "public_field_definition" true { startByte := 28, endByte := 29 } none [
          .node "property_identifier" true { startByte := 28, endByte := 29 } (some "name") []]]]]

/-- At the first byte of the inner `f` the index finds the inner class, and its `f`. -/
theorem enclosingClass?_startByte_nestedClasses :
    let source := Utf8.encode "class A { m = class { f; }; f; }"
    let index := (SourceUnit.ofTree "a.ts" "typescript" source nestedClasses false).declarations
    index.enclosingClass? 22 = some ⟨none, 14, 26⟩ ∧
      ∀ d, index.member? 22 "f" = some d → ∃ owner : Tree, owner.span.startByte = 14 ∧
        nestedClasses.DeclaresFirst (·.storedMember? source) owner "f" d := by
  intro source index
  have hwalk : nestedClasses.walk = nestedClasses.preorder [] := Tree.walk_eq_preorder _
  have hn : nestedClasses.ProperlyNested := by
    rw [Tree.ProperlyNested, Tree.Everywhere, hwalk]
    decide
  have hc : ClassesApart nestedClasses := by
    constructor
    · rw [Tree.Everywhere, hwalk]
      decide
    · rw [hwalk]
      decide
  let v : Visit := (nestedClasses.preorder [])[10]
  have hv : v ∈ nestedClasses.walk := hwalk ▸ List.getElem_mem _
  have hclear : v.tree.StartsClear := by
    rw [Tree.StartsClear, Tree.walk_eq_preorder]
    decide
  have howner : v.enclosingClass? = some v.ancestors[1] := rfl
  obtain ⟨hclass, -, -, hfound⟩ := @enclosingClass?_startByte "a.ts" "typescript" source
    nestedClasses false v hn hc hv (by decide) hclear
  rw [show (v.tree.span.startByte : Int) = 22 from rfl] at hclass hfound
  refine ⟨?_, fun d hd => ⟨v.ancestors[1], rfl, ((hfound _ howner "f").1 d).1 hd⟩⟩
  rw [hclass, howner]
  rfl

end SignalLint
