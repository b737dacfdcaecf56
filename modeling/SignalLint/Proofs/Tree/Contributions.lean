import SignalLint.Proofs.Tree.Replacement
import SignalLint.Proofs.Tree.Visits

/-!
# What a changed node changes in the unit

A unit is made of what the nodes of a tree add to it, and a node adds what it is read as, what it
holds under some fields, and the nearest class above it. If a node is replaced by one that is read
the same, then all nodes above it, beside it and elsewhere add what they added, and only what the
node itself and the nodes below it add can differ.

* `SameUse` — two trees that a unit uses alike when they stand below some node.
* `SameParts` — two nodes that add the same below the same ancestors; a node whose child is replaced
  by one of the same use has the same parts (`SameParts.of_replacesChild`).
* `SameAbove` — two lists of ancestors below which a node adds the same.
* `contributionsUnder` — what a tree adds below some ancestors; by recursion on the tree.
* `differIn_contributionsUnder_of_within` — the main statement: a change at one place of a tree is a
  change at one place of the list of what it adds.
-/

namespace SignalLint

namespace Tree

/-! ### What a parent uses -/

/-- Two trees that a unit uses alike when they stand below some node. A function that is declared as
a variable is asked for its return type by the node above it. -/
structure SameUse (source : Bytes) (t t' : Tree) : Prop extends SameReading source t t' where
  typeName : t'.toTypeName source = t.toTypeName source
  returnType : t'.returnType source = t.returnType source

/-- What a node reads of a child that it holds under a field. -/
structure Held where
  kind : String
  text : String
  expression : Expression
  declaredType : Option TypeNode
  returnType : Option TypeNode

def held (source : Bytes) (t : Tree) : Held :=
  ⟨t.kind, t.text source, t.toExpression source, t.toDeclaredType source, t.returnType source⟩

section Use

variable {source : Bytes} {c c' t t' : Tree}

theorem SameUse.held (h : SameUse source c c') : c'.held source = c.held source := by
  simp only [Tree.held, h.kind, h.toSameReading.text, h.expression, h.toSameReading.toDeclaredType,
    h.returnType]

/-- A declared type is read off what is held under its field. -/
theorem declaredTypeAt_eq_held (t : Tree) (f : String) :
    t.declaredTypeAt source f =
      ((t.child? f).map (Tree.held source)).bind Held.declaredType := by
  rw [declaredTypeAt, Option.bind_map]
  rfl

theorem declaredTypeAt_of_replacesChild (h : ReplacesChild c c' t t') (hfield : c'.field = c.field)
    {f : String} (hheld : c.field = some f → c'.held source = c.held source) :
    t'.declaredTypeAt source f = t.declaredTypeAt source f := by
  rw [declaredTypeAt_eq_held, declaredTypeAt_eq_held, h.map_child? hfield hheld]

theorem SameUse.of_replacesChild (h : ReplacesChild c c' t t') (hc : SameUse source c c') :
    SameUse source t t' where
  toSameReading := SameReading.of_replacesChild h hc.toSameReading fun _ => hc.typeName
  typeName := toTypeName_of_replacesChild h hc.named hc.kind hc.span hc.field hc.typeName
  returnType := declaredTypeAt_of_replacesChild h hc.field fun _ => hc.held

/-- The use of a whole tree is decided at the place of a step. -/
theorem SameUse.of_within {enters step : Tree → Tree → Prop}
    (hstep : ∀ t t', step t t' → SameUse source t t') (h : Within enters step t t') :
    SameUse source t t' := by
  -- from the place of the change outwards
  induction h with
  | here taken => exact hstep _ _ taken
  | inside _ replaced _ ih => exact SameUse.of_replacesChild replaced ih

end Use

/-! ### What a node adds -/

/-- Two nodes that add the same to a unit below the same ancestors: they are read the same, hold the
same under every field, and have children of the same kinds. -/
structure SameParts (source : Bytes) (t t' : Tree) : Prop where
  kind : t'.kind = t.kind
  named : t'.named = t.named
  span : t'.span = t.span
  expression : t'.toExpression source = t.toExpression source
  decorator : t'.toDecorator source = t.toDecorator source
  decorators : (t'.children.filter (·.kind == "decorator")).map (toDecorator source) =
    (t.children.filter (·.kind == "decorator")).map (toDecorator source)
  kinds : t'.children.map Tree.kind = t.children.map Tree.kind
  holds : ∀ f, (t'.child? f).map (held source) = (t.child? f).map (held source)

theorem toDecorator_eq_read (source : Bytes) (t : Tree) :
    t.toDecorator source =
      ⟨(t.operand?.map (toExpression source)).getD (.other "missing" "" t.span), t.span⟩ := by
  rw [toDecorator]
  cases t.operand? <;> rfl

theorem fieldKey_eq_held (source : Bytes) (t : Tree) :
    t.fieldKey source =
      ((((t.child? "name").map (held source)).or ((t.child? "property").map (held source))).map
        Held.expression).getD (.other "missing" "" t.span) := by
  rw [fieldKey, ← Option.map_or]
  cases (t.child? "name").or (t.child? "property") <;> rfl

theorem fieldKind_eq_kinds (t : Tree) :
    t.fieldKind = (t.children.map kind).foldl (fun found kind =>
      if kind == "abstract" then .abstract
      else if kind == "accessor" then .accessor
      else found) .plain := by
  rw [fieldKind, List.foldl_map]

theorem any_kind_eq_kinds (t : Tree) (k : String) :
    (t.children.any fun c => c.kind == k) = (t.children.map kind).any (· == k) := by
  rw [List.any_map]
  rfl

namespace SameParts

variable {source : Bytes} {c c' t t' : Tree}

theorem refl (source : Bytes) (t : Tree) : SameParts source t t :=
  ⟨rfl, rfl, rfl, rfl, rfl, rfl, rfl, fun _ => rfl⟩

/-- A node one of whose children is replaced by one of the same use. -/
theorem of_replacesChild (h : ReplacesChild c c' t t') (hc : SameUse source c c') :
    SameParts source t t' := by
  have ht : SameUse source t t' := SameUse.of_replacesChild h hc
  have hdecorator : c'.toDecorator source = c.toDecorator source := by
    rw [toDecorator_eq_read, toDecorator_eq_read, hc.toSameReading.operand?, hc.span]
  refine ⟨h.kind, h.named, h.span, ht.expression, ?_, ?_, ?_, fun f => ?_⟩
  · rw [toDecorator_eq_read, toDecorator_eq_read, ht.toSameReading.operand?, h.span]
  · exact h.map_filter_children (by rw [hc.kind]) fun _ => hdecorator
  · obtain ⟨before, after, heq, heq'⟩ := h.children
    rw [heq, heq', List.map_append, List.map_append, List.map_cons, List.map_cons, hc.kind]
  · exact h.map_child? hc.field fun _ => hc.held

/-- The field of a node is none of its parts. -/
theorem withField (source : Bytes) (t : Tree) (field : Option String) :
    SameParts source t (t.withField field) := by
  have hoperand : (t.withField field).operand? = t.operand? := by
    rw [Tree.operand?, operands, children_withField, Tree.operand?, operands]
  refine ⟨kind_withField t field, named_withField t field, span_withField t field,
    toExpression_withField t field, ?_, ?_, ?_, fun f => ?_⟩
  · rw [toDecorator_eq_read, toDecorator_eq_read, hoperand, span_withField]
  · rw [children_withField]
  · rw [children_withField]
  · rw [child?, children_withField, child?]

theorem declaredTypeAt (h : SameParts source t t') (f : String) :
    t'.declaredTypeAt source f = t.declaredTypeAt source f := by
  rw [declaredTypeAt_eq_held, declaredTypeAt_eq_held, h.holds]

/-- Whatever is read of a child under a field is the same. -/
theorem map_child? {α : Type} (h : SameParts source t t') (g : Held → α) (f : String) :
    (t'.child? f).map (fun d => g (d.held source)) =
      (t.child? f).map fun d => g (d.held source) := by
  have hread := congrArg (Option.map g) (h.holds f)
  rwa [Option.map_map, Option.map_map] at hread

theorem className? (h : SameParts source t t') : t'.className? source = t.className? source :=
  h.map_child? Held.text "name"

theorem any_kind (h : SameParts source t t') (k : String) :
    (t'.children.any fun d => d.kind == k) = t.children.any fun d => d.kind == k := by
  rw [any_kind_eq_kinds, any_kind_eq_kinds, h.kinds]

end SameParts

/-! ### What stands above a node -/

/-- Two lists of ancestors below which a node adds the same: both begin right in a class body or
neither does, and the nearest classes have the same name and start at the same byte. -/
structure SameAbove (source : Bytes) (as bs : List Tree) : Prop where
  inBody : (bs.head?.any fun p => p.kind == "class_body") =
    as.head?.any fun p => p.kind == "class_body"
  owner : (bs.find? isClass).map (fun c => (c.span.startByte, c.className? source)) =
    (as.find? isClass).map fun c => (c.span.startByte, c.className? source)

namespace SameAbove

variable {source : Bytes} {as bs : List Tree} {t t' : Tree}

theorem refl (source : Bytes) (as : List Tree) : SameAbove source as as := ⟨rfl, rfl⟩

theorem cons (h : SameAbove source as bs) (hkind : t'.kind = t.kind) (hspan : t'.span = t.span)
    (hname : t'.className? source = t.className? source) :
    SameAbove source (t :: as) (t' :: bs) := by
  have hclass : t'.isClass = t.isClass := congrArg classKinds.contains hkind
  refine ⟨congrArg (· == "class_body") hkind, ?_⟩
  rw [List.find?_cons, List.find?_cons, hclass]
  cases t.isClass with
  | true => simp only [Option.map_some, hspan, hname]
  | false => exact h.owner

/-- A node between a node and its children is not seen below it if neither of the two is a class or
the body of one. -/
theorem insert (h : SameAbove source (t :: as) bs) (hbody : t.kind ≠ "class_body")
    (hbody' : t'.kind ≠ "class_body") (hclass : t'.isClass = false) :
    SameAbove source (t :: as) (t' :: bs) := by
  refine ⟨?_, ?_⟩
  · exact (beq_eq_false_iff_ne.2 hbody').trans (beq_eq_false_iff_ne.2 hbody).symm
  · rw [List.find?_cons, hclass]
    exact h.owner

end SameAbove

end Tree

namespace Visit

variable {source : Bytes} {t t' : Tree} {as bs : List Tree}

theorem variableContribution?_eq_held (v : Visit) (source : Bytes) :
    v.variableContribution? source =
      match (v.tree.child? "name").map (Tree.held source) with
      | none => none
      | some name =>
        if name.kind != "identifier" then none
        else
          match (v.tree.child? "value").map (Tree.held source) with
          | none => some (.variable name.text (v.tree.declaredTypeAt source "type") none)
          | some value =>
            if functionValueKinds.contains value.kind then
              some (.function name.text value.returnType)
            else
              some (.variable name.text (v.tree.declaredTypeAt source "type")
                (some value.expression)) := by
  rw [variableContribution?]
  cases v.tree.child? "name" with
  | none => rfl
  | some name => cases v.tree.child? "value" <;> rfl

theorem methodContribution?_eq_held (v : Visit) (source : Bytes) :
    v.methodContribution? source =
      match (v.tree.child? "name").map (Tree.held source),
        v.enclosingClass?.map (fun c => (c.span.startByte, c.className? source)) with
      | some name, some owner =>
        if v.parent?.any (fun p => p.kind == "class_body") then
          if v.tree.children.any (·.kind == "get") then
            some (.getter ⟨owner.1, name.text⟩ (v.tree.returnType source))
          else some (.method ⟨owner.1, name.text⟩ (v.tree.returnType source))
        else none
      | _, _ => none := by
  rw [methodContribution?]
  -- name, parent and owner are looked at one after the other; where one is missing, both sides have
  -- nothing to add
  cases v.tree.child? "name" with
  | none => rfl
  | some name =>
    cases v.parent? with
    | none => cases v.enclosingClass? <;> rfl
    | some parent =>
      cases v.enclosingClass? with
      | none => rfl
      | some owner =>
        simp only [Option.map_some, Option.any_some, bne_iff_ne, ne_eq, ite_not, beq_iff_eq]
        rfl

theorem toField_congr (h : Tree.SameParts source t t') (habove : Tree.SameAbove source as bs) :
    toField ⟨t', bs⟩ source = toField ⟨t, as⟩ source := by
  have hkey : t'.fieldKey source = t.fieldKey source := by
    rw [Tree.fieldKey_eq_held, Tree.fieldKey_eq_held, h.holds, h.holds, h.span]
  have hkind : t'.fieldKind = t.fieldKind := by
    rw [Tree.fieldKind_eq_kinds, Tree.fieldKind_eq_kinds, h.kinds]
  have hvalue : (t'.child? "value").map (·.toExpression source) =
      (t.child? "value").map (·.toExpression source) :=
    h.map_child? Tree.Held.expression "value"
  -- the name of the owner is a part of what the ancestors are known by
  have hclassName : ((bs.find? Tree.isClass).bind (·.className? source)) =
      (as.find? Tree.isClass).bind (·.className? source) := by
    have howner := congrArg (Option.bind · Prod.snd) habove.owner
    rwa [Option.bind_map, Option.bind_map] at howner
  simp only [toField, enclosingClass?, hkey, hkind, hvalue, hclassName, h.declaredTypeAt,
    h.any_kind, h.decorators, h.span]

/-- **A node with the same parts adds the same** below ancestors that are the same to it. -/
theorem contribution?_congr (h : Tree.SameParts source t t')
    (habove : Tree.SameAbove source as bs) :
    contribution? ⟨t', bs⟩ source = contribution? ⟨t, as⟩ source := by
  have hclass : t'.isClass = t.isClass := congrArg Tree.classKinds.contains h.kind
  have hstart : (bs.find? Tree.isClass).map (·.span.startByte) =
      (as.find? Tree.isClass).map (·.span.startByte) := by
    have howner := congrArg (Option.map Prod.fst) habove.owner
    rwa [Option.map_map, Option.map_map] at howner
  have hreturn : t'.returnType source = t.returnType source := h.declaredTypeAt "return_type"
  have hfunction : (t'.child? "name").map (fun name =>
        Contribution.function (name.text source) (t.returnType source)) =
      (t.child? "name").map fun name =>
        Contribution.function (name.text source) (t.returnType source) :=
    h.map_child? (fun name => Contribution.function name.text (t.returnType source)) "name"
  have hvariable : variableContribution? ⟨t', bs⟩ source = variableContribution? ⟨t, as⟩ source := by
    rw [variableContribution?_eq_held, variableContribution?_eq_held]
    simp only [h.holds, h.declaredTypeAt]
  have hmethod : methodContribution? ⟨t', bs⟩ source = methodContribution? ⟨t, as⟩ source := by
    rw [methodContribution?_eq_held, methodContribution?_eq_held]
    simp only [enclosingClass?, parent?, h.holds, habove.owner, habove.inBody, h.any_kind, hreturn]
  -- each kind of node adds what one of these says
  unfold contribution?
  simp only [h.kind, h.named, h.span, h.expression, h.decorator, h.className?, hclass,
    toField_congr h habove, enclosingClass?, hstart, hreturn, hfunction, hvariable, hmethod]

end Visit

/-! ### What a tree adds -/

namespace Tree

/-- What a tree adds to a unit below some ancestors, in document order. -/
def contributionsUnder (source : Bytes) (ancestors : List Tree) (t : Tree) : List Contribution :=
  (t.preorder ancestors).filterMap (·.contribution? source)

section Under

variable {source : Bytes} {as bs : List Tree} {c c' t t' : Tree}

theorem contributions_eq_contributionsUnder (t : Tree) (source : Bytes) :
    t.contributions source = t.contributionsUnder source [] := by
  rw [contributions, walk_eq_preorder, contributionsUnder]

/-- A tree adds what its root adds and then what each child adds. -/
theorem contributionsUnder_eq (source : Bytes) (ancestors : List Tree) (t : Tree) :
    t.contributionsUnder source ancestors =
      (Visit.contribution? ⟨t, ancestors⟩ source).toList ++
        t.children.flatMap (contributionsUnder source (t :: ancestors)) := by
  rw [contributionsUnder, preorder_eq, List.filterMap_cons, List.filterMap_flatMap]
  cases Visit.contribution? ⟨t, ancestors⟩ source <;> rfl

/-- A tree adds the same below ancestors that are the same to it. -/
theorem contributionsUnder_congr (habove : SameAbove source as bs) (t : Tree) :
    t.contributionsUnder source bs = t.contributionsUnder source as := by
  -- every node below gets one more ancestor, the same one in both lists
  induction t using Tree.induction generalizing as bs with
  | step t ih =>
    rw [contributionsUnder_eq, contributionsUnder_eq source as,
      Visit.contribution?_congr (SameParts.refl source t) habove]
    exact congrArg _ (List.flatMap_congr fun c hc => ih c hc (habove.cons rfl rfl rfl))

/-- Nor do the children of a node add anything else below ancestors that are the same to them. -/
theorem flatMap_contributionsUnder_congr (habove : SameAbove source as bs) (ts : List Tree) :
    ts.flatMap (contributionsUnder source bs) = ts.flatMap (contributionsUnder source as) :=
  List.flatMap_congr fun t _ => contributionsUnder_congr habove t

/-- The field of a tree does not matter for what it adds. -/
theorem contributionsUnder_withField (habove : SameAbove source as bs) (t : Tree)
    (field : Option String) :
    (t.withField field).contributionsUnder source bs = t.contributionsUnder source as := by
  have hparts : SameParts source t (t.withField field) := SameParts.withField source t field
  rw [contributionsUnder_eq, contributionsUnder_eq source as t,
    Visit.contribution?_congr hparts habove, children_withField]
  exact congrArg _ (flatMap_contributionsUnder_congr
    (habove.cons hparts.kind hparts.span hparts.className?) t.children)

/-- The lists of what two trees add are the same up to one stretch. -/
def DifferIn (own own' contributions contributions' : List Contribution) : Prop :=
  ∃ before after, contributions = before ++ own ++ after ∧ contributions' = before ++ own' ++ after

theorem DifferIn.append {own own' cs cs' : List Contribution} (h : DifferIn own own' cs cs')
    (front back : List Contribution) :
    DifferIn own own' (front ++ cs ++ back) (front ++ cs' ++ back) := by
  obtain ⟨before, after, rfl, rfl⟩ := h
  exact ⟨front ++ before, after ++ back, by simp only [List.append_assoc],
    by simp only [List.append_assoc]⟩

/-- What is filtered out of both stretches alike is the same for the whole lists. -/
theorem DifferIn.filterMap_eq {α : Type} {own own' cs cs' : List Contribution}
    (h : DifferIn own own' cs cs') {f : Contribution → Option α}
    (hf : own'.filterMap f = own.filterMap f) : cs'.filterMap f = cs.filterMap f := by
  obtain ⟨before, after, rfl, rfl⟩ := h
  simp only [List.filterMap_append, hf]

/-- **One changed place.** A step is taken at one place of a tree, and to what stands above it the
node there is of the same use as before. If what the node adds differs in one stretch, below
whatever ancestors, then so does what the whole tree adds. -/
theorem differIn_contributionsUnder_of_within {enters step : Tree → Tree → Prop}
    {own own' : List Contribution} (huse : ∀ t t', step t t' → SameUse source t t')
    (hown : ∀ t t' as bs, step t t' → SameAbove source as bs →
      DifferIn own own' (t.contributionsUnder source as) (t'.contributionsUnder source bs))
    (h : Within enters step t t') (habove : SameAbove source as bs) :
    DifferIn own own' (t.contributionsUnder source as) (t'.contributionsUnder source bs) := by
  induction h generalizing as bs with
  | here taken => exact hown _ _ _ _ taken habove
  | @inside c c' t t' _ replaced taken ih =>
    have hparts : SameParts source t t' :=
      SameParts.of_replacesChild replaced (SameUse.of_within huse taken)
    have hbelow : SameAbove source (t :: as) (t' :: bs) :=
      habove.cons hparts.kind hparts.span hparts.className?
    obtain ⟨before, after, heq, heq'⟩ := replaced.children
    -- the node itself and its other children add what they added
    have hsplit : DifferIn own own' _ _ := (ih hbelow).append
      ((Visit.contribution? ⟨t, as⟩ source).toList ++
        before.flatMap (contributionsUnder source (t :: as)))
      (after.flatMap (contributionsUnder source (t :: as)))
    rw [contributionsUnder_eq, contributionsUnder_eq source bs,
      Visit.contribution?_congr hparts habove, heq, heq', List.flatMap_append, List.flatMap_cons,
      List.flatMap_append, List.flatMap_cons, flatMap_contributionsUnder_congr hbelow before,
      flatMap_contributionsUnder_congr hbelow after]
    simpa only [List.append_assoc] using hsplit

end Under

end Tree

end SignalLint
