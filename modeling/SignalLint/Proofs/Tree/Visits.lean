import Mathlib.Data.List.Basic
import SignalLint.Tree.Unit

/-!
# The visits of a tree

`Tree.walk` shows the nodes of a tree with an explicit stack and hands each its ancestors. This
module replaces the stack by the tree: `walk_eq_preorder` says that the walk is the recursive
preorder, and everything else is read off the recursion (`mem_preorder_iff`).

* `Tree.Everywhere P` — `P` holds of every node of a tree; `everywhere_iff` descends to the
  children.
* `exists_ancestors_eq` — the ancestors of a visited node are visited themselves, and each of them
  has children.
* `ProperlyNested` — what the positions of a parse tree are like: a node's range lies inside that
  of its parent, and siblings stand in order without overlap.
* `mem_ancestors_or_below` — ranges of a properly nested tree are laminar: a node whose range holds
  the first byte of another node, which is not empty, stands above it, or at it or below it.
-/

namespace SignalLint

namespace Tree

/-! ### The walk is the preorder -/

theorem preorderAll_eq (ancestors cs : List Tree) :
    preorderAll ancestors cs = cs.flatMap (preorder ancestors) := by
  induction cs with
  | nil => rfl
  | cons c cs ih => rw [preorderAll, ih, List.flatMap_cons]

theorem preorder_eq (ancestors : List Tree) (t : Tree) :
    preorder ancestors t = ⟨t, ancestors⟩ :: t.children.flatMap (preorder (t :: ancestors)) := by
  obtain ⟨k, n, s, f, cs⟩ := t
  rw [preorder, preorderAll_eq]
  rfl

/-- A stack shows the preorder of each of its nodes in turn. -/
theorem walkFrom_eq (stack : List Visit) :
    walkFrom stack = stack.flatMap fun v => preorder v.ancestors v.tree := by
  -- the recursion of the walk is the induction; the children take the place of their parent
  induction stack using walkFrom.induct with
  | case1 => rw [walkFrom, List.flatMap_nil]
  | case2 v stack ih =>
    have hchildren : (v.children.flatMap fun w => preorder w.ancestors w.tree) =
        v.tree.children.flatMap (preorder (v.tree :: v.ancestors)) := by
      rw [Visit.children, List.flatMap_map]
    rw [walkFrom, ih, List.flatMap_append, hchildren, List.flatMap_cons,
      preorder_eq v.ancestors v.tree, List.cons_append]

/-- **The walk is the recursive preorder.** -/
theorem walk_eq_preorder (t : Tree) : t.walk = t.preorder [] := by
  rw [walk, walkFrom_eq, List.flatMap_cons, List.flatMap_nil, List.append_nil]

theorem mem_preorder_iff {t : Tree} {ancestors : List Tree} {v : Visit} :
    v ∈ t.preorder ancestors ↔
      v = ⟨t, ancestors⟩ ∨ ∃ c ∈ t.children, v ∈ c.preorder (t :: ancestors) := by
  rw [preorder_eq, List.mem_cons, List.mem_flatMap]

theorem self_mem_preorder (t : Tree) (ancestors : List Tree) :
    (⟨t, ancestors⟩ : Visit) ∈ t.preorder ancestors :=
  mem_preorder_iff.2 (Or.inl rfl)

/-- The nodes of a tree are the same whatever stands above it. -/
theorem map_tree_preorder (t : Tree) (ancestors ancestors' : List Tree) :
    (t.preorder ancestors).map (·.tree) = (t.preorder ancestors').map (·.tree) := by
  induction t using Tree.induction generalizing ancestors ancestors' with
  | step t ih =>
    rw [preorder_eq, preorder_eq, List.map_cons, List.map_cons, List.map_flatMap,
      List.map_flatMap]
    -- the ancestors of the children differ too, so the hypothesis is for any two lists
    congr 1
    exact List.flatMap_congr fun c hc => ih c hc _ _

/-- A visited node is a node of the tree, whatever stands above it. -/
theorem exists_mem_walk_of_mem_preorder {t : Tree} {ancestors : List Tree} {v : Visit}
    (h : v ∈ t.preorder ancestors) : ∃ u ∈ t.walk, u.tree = v.tree := by
  have hmem : v.tree ∈ (t.preorder ancestors).map (·.tree) := List.mem_map_of_mem h
  rw [map_tree_preorder t ancestors [], ← walk_eq_preorder] at hmem
  exact List.mem_map.1 hmem

/-- What a field's key is read off is a child. -/
theorem mem_children_of_key? {t key : Tree}
    (h : (t.child? "name").or (t.child? "property") = some key) : key ∈ t.children := by
  rcases Option.or_eq_some_iff.1 h with h | ⟨-, h⟩
  · exact mem_children_of_child? h
  · exact mem_children_of_child? h

/-! ### What holds of every node -/

/-- `P` holds of every node of a tree. -/
def Everywhere (P : Tree → Prop) (t : Tree) : Prop := ∀ v ∈ t.walk, P v.tree

instance (P : Tree → Prop) [DecidablePred P] (t : Tree) : Decidable (t.Everywhere P) :=
  inferInstanceAs (Decidable (∀ v ∈ t.walk, P v.tree))

theorem Everywhere.of_mem_preorder {P : Tree → Prop} {t : Tree} {ancestors : List Tree}
    {v : Visit} (h : t.Everywhere P) (hv : v ∈ t.preorder ancestors) : P v.tree := by
  obtain ⟨u, hu, heq⟩ := exists_mem_walk_of_mem_preorder hv
  exact heq ▸ h u hu

theorem everywhere_iff {P : Tree → Prop} {t : Tree} :
    t.Everywhere P ↔ P t ∧ ∀ c ∈ t.children, c.Everywhere P := by
  constructor
  · intro h
    refine ⟨h ⟨t, []⟩ (walk_eq_preorder t ▸ self_mem_preorder t []), fun c hc v hv => ?_⟩
    -- a node that the walk of the child shows is shown below the parent with one more ancestor
    rw [walk_eq_preorder] at hv
    obtain ⟨u, hu, heq⟩ := exists_mem_walk_of_mem_preorder hv
    have hmem : u.tree ∈ (c.preorder [t]).map (·.tree) := by
      rw [map_tree_preorder c [t] [], ← walk_eq_preorder]
      exact List.mem_map_of_mem hu
    obtain ⟨w, hw, hwu⟩ := List.mem_map.1 hmem
    rw [← heq, ← hwu]
    exact h w (walk_eq_preorder t ▸ mem_preorder_iff.2 (Or.inr ⟨c, hc, hw⟩))
  · rintro ⟨hself, hchildren⟩ v hv
    rw [walk_eq_preorder] at hv
    rcases mem_preorder_iff.1 hv with rfl | ⟨c, hc, hvc⟩
    · exact hself
    · exact (hchildren c hc).of_mem_preorder hvc

theorem Everywhere.self {P : Tree → Prop} {t : Tree} (h : t.Everywhere P) : P t :=
  (everywhere_iff.1 h).1

theorem Everywhere.child {P : Tree → Prop} {t c : Tree} (h : t.Everywhere P)
    (hc : c ∈ t.children) : c.Everywhere P :=
  (everywhere_iff.1 h).2 c hc

/-- What holds of every node of a tree holds of every node below one of them. -/
theorem Everywhere.below {P : Tree → Prop} {t : Tree} {ancestors : List Tree} {v : Visit}
    (h : t.Everywhere P) (hv : v ∈ t.preorder ancestors) : v.tree.Everywhere P := by
  induction t using Tree.induction generalizing ancestors with
  | step t ih =>
    rcases mem_preorder_iff.1 hv with rfl | ⟨c, hc, hvc⟩
    · exact h
    · exact ih c hc (h.child hc) hvc

/-! ### Ancestors -/

/-- The ancestors of a visited node are those above the tree behind some nodes of the tree, each of
which is visited and has children. -/
theorem exists_ancestors_eq {t : Tree} {ancestors : List Tree} {v : Visit}
    (hv : v ∈ t.preorder ancestors) :
    ∃ inner, v.ancestors = inner ++ ancestors ∧
      ∀ a ∈ inner, a.children ≠ [] ∧ ∃ u ∈ t.preorder ancestors, u.tree = a := by
  induction t using Tree.induction generalizing ancestors with
  | step t ih =>
    rcases mem_preorder_iff.1 hv with rfl | ⟨c, hc, hvc⟩
    · exact ⟨[], rfl, fun a ha => absurd ha List.not_mem_nil⟩
    · -- behind the nodes below the child stands the parent itself
      obtain ⟨inner, heq, hinner⟩ := ih c hc hvc
      refine ⟨inner ++ [t], by rw [heq, List.append_assoc]; rfl, fun a ha => ?_⟩
      rcases List.mem_append.1 ha with ha | ha
      · obtain ⟨hne, u, hu, heq⟩ := hinner a ha
        exact ⟨hne, u, mem_preorder_iff.2 (Or.inr ⟨c, hc, hu⟩), heq⟩
      · obtain rfl := List.mem_singleton.1 ha
        exact ⟨List.ne_nil_of_mem hc, _, self_mem_preorder a ancestors, rfl⟩

/-- The tree itself stands above every node below it. -/
theorem mem_ancestors_of_mem_preorder_child {t c : Tree} {ancestors : List Tree} {v : Visit}
    (hv : v ∈ c.preorder (t :: ancestors)) : t ∈ v.ancestors := by
  obtain ⟨inner, heq, -⟩ := exists_ancestors_eq hv
  rw [heq]
  exact List.mem_append_right inner List.mem_cons_self

/-- An ancestor of a node of a parse tree is itself a node of it, and has children. -/
theorem exists_visit_of_mem_ancestors {root a : Tree} {v : Visit} (hv : v ∈ root.walk)
    (ha : a ∈ v.ancestors) : a.children ≠ [] ∧ ∃ u ∈ root.walk, u.tree = a := by
  rw [walk_eq_preorder] at hv ⊢
  obtain ⟨inner, heq, hinner⟩ := exists_ancestors_eq hv
  rw [heq, List.append_nil] at ha
  exact hinner a ha

/-! ### Positions -/

/-- The children of a node lie inside it, in order and without overlap. -/
structure WellPlaced (t : Tree) : Prop where
  inside : ∀ c ∈ t.children,
    t.span.startByte ≤ c.span.startByte ∧ c.span.endByte ≤ t.span.endByte
  apart : t.children.Pairwise fun a b => a.span.endByte ≤ b.span.startByte

instance (t : Tree) : Decidable t.WellPlaced :=
  decidable_of_iff
    ((∀ c ∈ t.children,
        t.span.startByte ≤ c.span.startByte ∧ c.span.endByte ≤ t.span.endByte) ∧
      t.children.Pairwise fun a b => a.span.endByte ≤ b.span.startByte)
    ⟨fun h => ⟨h.1, h.2⟩, fun h => ⟨h.inside, h.apart⟩⟩

/-- Two children are the same or do not overlap. -/
theorem WellPlaced.eq_or_apart {t c d : Tree} (h : t.WellPlaced) (hc : c ∈ t.children)
    (hd : d ∈ t.children) :
    c = d ∨ c.span.endByte ≤ d.span.startByte ∨ d.span.endByte ≤ c.span.startByte :=
  List.Pairwise.forall_of_forall_of_flip
    (R := fun a b : Tree =>
      a = b ∨ a.span.endByte ≤ b.span.startByte ∨ b.span.endByte ≤ a.span.startByte)
    (fun _ _ => Or.inl rfl)
    (h.apart.imp fun hab => Or.inr (Or.inl hab))
    (h.apart.imp fun hab => Or.inr (Or.inr hab)) hc hd

/-- **Properly nested positions**: every node's children lie inside it, in order and without
overlap. -/
def ProperlyNested (t : Tree) : Prop := t.Everywhere WellPlaced

namespace ProperlyNested

variable {t : Tree} {ancestors : List Tree} {v w : Visit}

theorem child {c : Tree} (h : t.ProperlyNested) (hc : c ∈ t.children) : c.ProperlyNested :=
  Everywhere.child h hc

theorem of_mem_preorder (h : t.ProperlyNested) (hv : v ∈ t.preorder ancestors) :
    v.tree.ProperlyNested :=
  Everywhere.below h hv

/-- Every node of a tree lies inside it. -/
theorem inside (h : t.ProperlyNested) (hv : v ∈ t.preorder ancestors) :
    t.span.startByte ≤ v.tree.span.startByte ∧ v.tree.span.endByte ≤ t.span.endByte := by
  induction t using Tree.induction generalizing ancestors with
  | step t ih =>
    rcases mem_preorder_iff.1 hv with rfl | ⟨c, hc, hvc⟩
    · exact ⟨Nat.le_refl _, Nat.le_refl _⟩
    · have hparent := (Everywhere.self h).inside c hc
      have hbelow := ih c hc (h.child hc) hvc
      exact ⟨Nat.le_trans hparent.1 hbelow.1, Nat.le_trans hbelow.2 hparent.2⟩

/-- A visited node lies inside each of its ancestors, and of two ancestors the nearer one starts no
earlier. -/
theorem ancestors_inside (h : t.ProperlyNested) (hv : v ∈ t.preorder ancestors)
    (habove : ∀ a ∈ ancestors,
      a.span.startByte ≤ t.span.startByte ∧ t.span.endByte ≤ a.span.endByte)
    (hsorted : ancestors.Pairwise fun a b => b.span.startByte ≤ a.span.startByte) :
    (∀ a ∈ v.ancestors, a.span.startByte ≤ v.tree.span.startByte ∧
        v.tree.span.endByte ≤ a.span.endByte) ∧
      v.ancestors.Pairwise fun a b => b.span.startByte ≤ a.span.startByte := by
  induction t using Tree.induction generalizing ancestors with
  | step t ih =>
    rcases mem_preorder_iff.1 hv with rfl | ⟨c, hc, hvc⟩
    · exact ⟨habove, hsorted⟩
    · -- the two facts about the ancestors hold for the child, with the parent in front
      have hparent := (Everywhere.self h).inside c hc
      refine ih c hc (h.child hc) hvc ?_ ?_
      · refine List.forall_mem_cons.2 ⟨hparent, fun a ha => ?_⟩
        have habove := habove a ha
        exact ⟨Nat.le_trans habove.1 hparent.1, Nat.le_trans hparent.2 habove.2⟩
      · exact List.pairwise_cons.2 ⟨fun a ha => (habove a ha).1, hsorted⟩

/-- **Ranges are laminar.** A node that holds the first byte of another, non-empty node stands above
it, or is one of the nodes at and below it. -/
theorem mem_ancestors_or_below (h : t.ProperlyNested) (hv : v ∈ t.preorder ancestors)
    (hw : w ∈ t.preorder ancestors)
    (hne : v.tree.span.startByte < v.tree.span.endByte)
    (hstart : w.tree.span.startByte ≤ v.tree.span.startByte)
    (hend : v.tree.span.startByte < w.tree.span.endByte) :
    w.tree ∈ v.ancestors ∨ ∃ u ∈ v.tree.walk, u.tree = w.tree := by
  induction t using Tree.induction generalizing ancestors with
  | step t ih =>
    rcases mem_preorder_iff.1 hv with rfl | ⟨c, hc, hvc⟩
    · -- the node is the tree itself, so the other one is at or below it
      exact Or.inr (exists_mem_walk_of_mem_preorder hw)
    · rcases mem_preorder_iff.1 hw with rfl | ⟨d, hd, hwd⟩
      · exact Or.inl (mem_ancestors_of_mem_preorder_child hvc)
      · have hcv := (h.child hc).inside hvc
        have hdw := (h.child hd).inside hwd
        rcases (Everywhere.self h).eq_or_apart hc hd with rfl | hbefore | hafter
        -- both stand below one child
        · exact ih c hc (h.child hc) hvc hwd
        -- two siblings cannot both hold the byte
        · omega
        · omega

end ProperlyNested

end Tree

end SignalLint
