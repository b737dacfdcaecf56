import SignalLint.Proofs.Rule.Resolution

/-!
# What a class keeps to itself

A chain of aliases may go through the variables of a file and the members of several classes, and
at each member of `this` it asks anew in which class the expression stands. This module compares two
indexes that differ in the members and methods of one class, in whatever way. An expression that
never looks into this class has the same symbol in both.

* `DeclarationIndex.AgreeOutside` — the two indexes, and the class that they may differ in.
* `DeclarationIndex.Avoids` — no look-up through `this` at an expression goes into the class, and
  `DeclarationIndex.Seals` says the same of all initializers outside of it.
* `AgreeOutside.step` — the two indexes take the same step at an expression that avoids the class.
* `Seals.avoids_of_hop` — a hop leads from an expression that avoids the class to another one.

Step and hop together carry two resolutions side by side, `AgreeOutside.resolve`, up to the main
statement, `symbol?_eq_of_agreeOutside`.
-/

namespace SignalLint

/-- Where a step looks for a member of `this`: at the expression itself and, if it is a call, at
what it calls. -/
def Expression.lookUps : Expression → List Expression
  | .call callee arguments typeArguments span =>
    [.call callee arguments typeArguments span, callee]
  | e => [e]

theorem Expression.self_mem_lookUps (e : Expression) : e ∈ e.lookUps := by
  cases e <;> exact List.mem_cons_self

namespace DeclarationIndex

/-- **Agreement outside of one class**, the one that starts at `k`: two indexes have the same
functions, variables and classes, and the same members and methods of all other classes. -/
structure AgreeOutside (k : Nat) (index other : DeclarationIndex) : Prop where
  functions : ∀ name, other.functions.get? name = index.functions.get? name
  bindings : ∀ name, other.bindings.get? name = index.bindings.get? name
  classes : other.classes = index.classes
  members : ∀ key, key.classStart ≠ k → other.members.get? key = index.members.get? key
  methods : ∀ key, key.classStart ≠ k → other.methods.get? key = index.methods.get? key

/-- Wherever a step at an expression looks for a member of `this`, it stands in no class that starts
at `k`. -/
def Avoids (index : DeclarationIndex) (k : Nat) (e : Expression) : Prop :=
  ∀ m ∈ e.lookUps, (thisMember? m).isSome →
    ∀ scope, index.enclosingClass? m.span.startByte = some scope → scope.startByte ≠ k

/-- The initializers of the variables, and of the members of all classes but the one that starts at
`k`, avoid this class. -/
structure Seals (index : DeclarationIndex) (k : Nat) : Prop where
  bindings : ∀ name d value, index.bindings.get? name = some d → d.value = some value →
    index.Avoids k value
  members : ∀ key d value, key.classStart ≠ k → index.members.get? key = some d →
    d.value = some value → index.Avoids k value

variable {k : Nat} {index other : DeclarationIndex} {e : Expression}

/-! ### One step -/

namespace AgreeOutside

/-- The class in which an offset stands is the same. -/
theorem enclosingClass? (h : index.AgreeOutside k other) (offset : Int) :
    other.enclosingClass? offset = index.enclosingClass? offset := by
  rw [DeclarationIndex.enclosingClass?, DeclarationIndex.enclosingClass?, h.classes]

variable {offset : Int}

theorem member? (h : index.AgreeOutside k other)
    (houtside : ∀ scope, index.enclosingClass? offset = some scope → scope.startByte ≠ k)
    (name : String) : other.member? offset name = index.member? offset name := by
  rw [DeclarationIndex.member?, DeclarationIndex.member?, h.enclosingClass?]
  refine Option.bind_congr fun scope hscope => ?_
  exact h.members ⟨scope.startByte, name⟩ (houtside scope hscope)

theorem methodType? (h : index.AgreeOutside k other)
    (houtside : ∀ scope, index.enclosingClass? offset = some scope → scope.startByte ≠ k)
    (name : String) : other.methodType? offset name = index.methodType? offset name := by
  rw [DeclarationIndex.methodType?, DeclarationIndex.methodType?, h.enclosingClass?]
  refine Option.bind_congr fun scope hscope => ?_
  rw [h.methods ⟨scope.startByte, name⟩ (houtside scope hscope)]

/-- The same declaration is looked up at an expression that avoids the class. -/
theorem declaration? (h : index.AgreeOutside k other) (he : index.Avoids k e) :
    other.declaration? e = index.declaration? e := by
  unfold DeclarationIndex.declaration?
  split
  · exact h.bindings _
  · refine Option.bind_congr fun name hname => ?_
    refine h.member? (he e e.self_mem_lookUps ?_) name
    rw [hname]
    rfl

/-- The same return type is looked up for what a call that avoids the class calls. -/
theorem returnType? {callee : Expression} {arguments : List Expression}
    {typeArguments : List TypeNode} {span : Span} (h : index.AgreeOutside k other)
    (he : index.Avoids k (.call callee arguments typeArguments span)) :
    other.returnType? callee = index.returnType? callee := by
  have hcallee : callee ∈ (Expression.call callee arguments typeArguments span).lookUps :=
    List.mem_cons_of_mem _ List.mem_cons_self
  unfold DeclarationIndex.returnType?
  split
  · rw [functionType?, functionType?, h.functions]
  · refine Option.bind_congr fun name hname => ?_
    refine h.methodType? (he callee hcallee ?_) name
    rw [hname]
    rfl

/-- **One step** at an expression that avoids the class comes to the same. -/
theorem step (h : index.AgreeOutside k other) (he : index.Avoids k e) :
    other.step e = index.step e := by
  rw [step_eq, step_eq]
  -- a call looks for what it calls, a new object for nothing, and all else for itself
  cases e with
  | call callee arguments typeArguments span => simp only [h.returnType? he]
  | construct callee arguments typeArguments span => cases callee <;> rfl
  | _ => simp only [h.declaration? he]

end AgreeOutside

/-- A hop from an expression that avoids the class leads to one that avoids it. -/
theorem Seals.avoids_of_hop {value : Expression} (h : index.Seals k) (he : index.Avoids k e)
    (hop : index.Hop e value) : index.Avoids k value := by
  obtain ⟨declared, -, initialized⟩ := hop
  cases declared with
  | binding entry => exact h.bindings _ _ value entry initialized
  | member named inside entry =>
    -- the member belongs to the class in which the expression stands, which is another one
    have houtside := he _ (Expression.self_mem_lookUps _) (Option.isSome_of_mem named) _ inside
    exact h.members _ _ value houtside entry initialized

/-! ### A resolution -/

/-- **Two resolutions side by side.** They take the same steps, as long as each step goes on to an
expression that avoids the class. -/
theorem AgreeOutside.resolve (h : index.AgreeOutside k other) (hseals : index.Seals k)
    (he : index.Avoids k e) (hops : Nat) : other.resolve hops e = index.resolve hops e := by
  -- on the hops; that the expression avoids the class is the invariant
  induction hops generalizing e with
  | zero => rw [DeclarationIndex.resolve, DeclarationIndex.resolve, h.step he]
  | succ hops ih =>
    rw [DeclarationIndex.resolve, DeclarationIndex.resolve, h.step he]
    cases hstep : index.step e with
    | done symbol => rfl
    | follow value => exact ih (hseals.avoids_of_hop he (step_eq_follow_iff.1 hstep))

end DeclarationIndex

/-! ### Type services -/

/-- **What a class keeps to itself.** Let two indexes agree but for members and methods of the class
that starts at `k`, and let no initializer of a variable or of a member of another class look into
this class through `this`. Then the type services of both find the same symbol for every expression
that does not look into it either. -/
theorem TypeServices.symbol?_eq_of_agreeOutside {k : Nat} {index other : DeclarationIndex}
    (hagree : index.AgreeOutside k other) (hseals : index.Seals k) {e : Expression}
    (he : index.Avoids k e) :
    (TypeServices.ofDeclarations other).symbol? e = (TypeServices.ofDeclarations index).symbol? e :=
  hagree.resolve hseals he maxHops

/-- Two classes, the first with the given members. The variable `x` is `this.y` in the second, where
`y` is a new `Store`. -/
def sampleNeighbours (own : List (MemberKey × Declaration)) : DeclarationIndex where
  classes := [⟨some "First", 0, 100⟩, ⟨some "Second", 100, 200⟩]
  bindings := ⟨[("x", { name := "x", value := some (aliasMember "y" 150) })]⟩
  members := ⟨own ++ [(⟨100, "y"⟩,
    { name := "y", value := some (.construct (.identifier "Store" {}) [] [] {}) })]⟩

open DeclarationIndex in
/-- A member `y` that is added to the first class does not change what `x` is. -/
theorem TypeServices.symbol?_eq_of_agreeOutside_sampleNeighbours :
    let index := sampleNeighbours []
    let other := sampleNeighbours [(⟨0, "y"⟩, { name := "y", value := some (aliasName "x" 50) })]
    index.AgreeOutside 0 other ∧ index.Seals 0 ∧ index.Avoids 0 (aliasName "x" 210) ∧
      (TypeServices.ofDeclarations other).symbol? (aliasName "x" 210) = some "Store" := by
  intro index other
  have hagree : index.AgreeOutside 0 other := by
    refine ⟨fun _ => rfl, fun _ => rfl, rfl, fun key hkey => ?_, fun _ _ => rfl⟩
    have hne : (⟨0, "y"⟩ : MemberKey) ≠ key := fun heq => hkey (heq ▸ rfl)
    simp [index, other, sampleNeighbours, Table.get?, hne]
  -- names and new objects are nowhere looked up in a class
  have hname : ∀ name offset, index.Avoids 0 (aliasName name offset) := by
    intro name offset m hm hthis
    rw [List.mem_singleton.1 hm] at hthis
    cases hthis
  have hmember : index.Avoids 0 (aliasMember "y" 150) := by
    intro m hm _ scope hscope
    rw [List.mem_singleton.1 hm] at hscope
    cases hscope
    decide
  have hnew : index.Avoids 0 (.construct (.identifier "Store" {}) [] [] {}) := by
    intro m hm hthis
    rw [List.mem_singleton.1 hm] at hthis
    cases hthis
  have hseals : index.Seals 0 := by
    constructor
    · intro name d value hd hvalue
      by_cases hx : "x" = name
      · obtain rfl := hx
        cases hd
        cases hvalue
        exact hmember
      · simp [index, sampleNeighbours, Table.get?, hx] at hd
    · intro key d value _ hd hvalue
      by_cases hy : ⟨100, "y"⟩ = key
      · obtain rfl := hy
        cases hd
        cases hvalue
        exact hnew
      · simp [index, sampleNeighbours, Table.get?, hy] at hd
  refine ⟨hagree, hseals, hname "x" 210, ?_⟩
  rw [TypeServices.symbol?_eq_of_agreeOutside hagree hseals (hname "x" 210)]
  rfl

end SignalLint
