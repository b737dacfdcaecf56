import SignalLint.Proofs.Rule.History
import SignalLint.Proofs.Rule.Resolution

/-!
# Calls through a member

Two parts of the rule look at an initializer such as `this.make()`, and each has a test of its own.
The call shape (`callShape`) goes by the name behind the last dot, whatever stands in front of it: a
public name settles the field, unless it is `required`, and a private name does not. The type
services (`DeclarationIndex.step`) go by `this` in front of the dot and take every name. This module
says what is left for the second test where the first one says nothing.

* `Expression.LeavesOpen` — the properties that do not settle a call: private names, the public name
  `required`, and whatever is no name.
* `calleeShape_this` and `calleeShape_publicName` — the first test, on a member of `this` and on a
  public name.
* `DeclarationIndex.symbol?_thisCall` — the second test.
* `RunM.exec_isCandidate_of_consults` and `RunM.exec_isCandidate_of_not_consults` — what a run does
  about a field in the two cases.

The main statement is `isCandidate_memberCall`. A call of a private method of `this` is what the type
services are there for, but they are also asked about `this.required()`: a call of `required` is
looked into for the sake of `input.required()`, and `this` is not among the functions that create
signals.
-/

namespace SignalLint

/-! ### The two tests -/

/-- A property that does not settle the call of a member. -/
inductive Expression.LeavesOpen : Expression → Prop where
  | privateName {name : String} {span : Span} : LeavesOpen (.privateIdentifier name span)
  | required {span : Span} : LeavesOpen (.identifier requiredMember span)
  | nameless {property : Expression} (noName : property.name? = none) : LeavesOpen property

section Shapes

variable {functions : List String} {property object : Expression} {computed optional : Bool}
  {thisSpan memberSpan nameSpan : Span} {name : String}

/-- A call through a public name other than `required` is settled, whatever the name is taken of and
however. -/
theorem calleeShape_publicName (hname : name ≠ requiredMember) :
    calleeShape functions (.member object (.identifier name nameSpan) computed optional memberSpan) =
      .unsupportedMember := by
  rw [calleeShape, if_pos hname]

/-- `this` creates no signals, and no member of it is a function that does. -/
theorem calleeShape_this_ne :
    calleeShape functions (.member (.this thisSpan) property computed optional memberSpan) ≠
      .signalFactory := by
  cases property with
  | identifier name span =>
    rw [calleeShape]
    split_ifs <;> exact nofun
  | _ => exact nofun

/-- So all depends on the property. -/
theorem calleeShape_this :
    calleeShape functions (.member (.this thisSpan) property computed optional memberSpan) =
        .inconclusive ↔ property.LeavesOpen := by
  constructor
  · intro h
    -- of the properties only a public name can settle the call
    cases property with
    | identifier name span =>
      by_cases hname : name = requiredMember
      · rw [hname]
        exact .required
      · rw [calleeShape_publicName hname] at h
        cases h
    | privateIdentifier name span => exact .privateName
    | _ => exact .nameless rfl
  · intro h
    cases h with
    | privateName => rfl
    | required =>
      rw [calleeShape, if_neg (not_not_intro rfl)]
      rfl
    | nameless noName =>
      cases property with
      | identifier name span => cases noName
      | _ => rfl

end Shapes

/-- What a call of a member of `this` resolves to: the declared return type of the method of this
name, private or not, in the class in which the member expression starts. -/
theorem DeclarationIndex.symbol?_thisCall (index : DeclarationIndex) (property : Expression)
    (optional : Bool) (thisSpan memberSpan span : Span) (arguments : List Expression)
    (typeArguments : List TypeNode) :
    index.symbol? (.call (.member (.this thisSpan) property false optional memberSpan) arguments
        typeArguments span) =
      (property.name?.bind (index.methodType? memberSpan.startByte)).bind TypeNode.symbol? := by
  have hreturn : index.returnType? (.member (.this thisSpan) property false optional memberSpan) =
      property.name?.bind (index.methodType? memberSpan.startByte) := rfl
  rw [symbol?, maxHops, resolve, step_eq]
  exact congrArg (Option.bind · TypeNode.symbol?) hreturn

/-! ### What is asked -/

namespace RunM

variable {o : RuleOptions} {context : RunContext} {f : Field} {s : RunState} {value : Expression}

/-- A field about which type services are consulted is answered by what they say of its
initializer, if there are any. -/
theorem exec_isCandidate_of_consults (h : o.Consults f) (hvalue : f.value = some value)
    (hs : s.Sound context) :
    ((isCandidate o f).exec context s).1 =
      match context.types.services? context.unit with
      | some services => .ok (checkerEvidence services value)
      | none => .error (.noTypeInformation context.unit.path context.ruleName) := by
  obtain ⟨undeclared, usesTypes, value', hvalue', inconclusive⟩ := h
  obtain rfl : value' = value := Option.some.inj (hvalue'.symm.trans hvalue)
  -- the syntax leaves the field to the types, so they are asked
  have hjudge : o.judge f = .needsTypes value' := by
    simp only [RuleOptions.judge, undeclared, hvalue, inconclusive, usesTypes, if_true]
  obtain ⟨s', hrun, -⟩ := exec_isCandidate_eq (o := o) (f := f) hs
  rw [hrun]
  cases hservices : context.types.services? context.unit with
  | some services => simp only [RuleOptions.answer, hjudge, hservices]
  | none => simp only [RuleOptions.answer, hjudge, hservices]

/-- Any other field, unless its initializer creates a signal, is answered from its declared type, and
the run does not notice. -/
theorem exec_isCandidate_of_not_consults (h : ¬ o.Consults f) (hvalue : f.value = some value)
    (hshape : callShape o.creationFunctions value ≠ .signalFactory) :
    (isCandidate o f).exec context s = (.ok (f.declaredType.any declaredTypeEvidence), s) := by
  refine exec_isCandidate_of_settled ?_
  rw [RuleOptions.judge, hvalue]
  cases hdeclared : f.declaredType with
  | some type => rfl
  | none =>
    cases hcall : callShape o.creationFunctions value with
    | signalFactory => exact absurd hcall hshape
    | unsupportedMember => simp only [hcall, Option.any_none]
    | inconclusive =>
      -- only the options can have kept the services from being consulted
      have hoff : ¬ o.useTypeChecking = true := fun hon =>
        h ⟨hdeclared, hon, value, hvalue, hcall⟩
      simp only [hcall, if_neg hoff, Option.any_none]

end RunM

/-! ### Calls through a member -/

/-- **Calls through a member.** Take a field whose initializer calls a member.

If it is a member of `this`, not computed, then the type services are consulted exactly if the field
has no declared type, types may be used, and the property is a private name, the public name
`required`, or no name. What they are asked about is the call, and what they say of it is the
declared return type of the method of this name, in the class where the member expression starts. If
they are not consulted, the declared type decides.

A call through any other public name, of whatever object, is settled before: the run answers from
the declared type, or with no if there is none, and is left as it was. -/
theorem isCandidate_memberCall (o : RuleOptions) (f : Field) {object property : Expression}
    {computed optional : Bool} {memberSpan span : Span} {arguments : List Expression}
    {typeArguments : List TypeNode} {value : Expression} (hvalue : f.value = some value)
    (hcall : value = .call (.member object property computed optional memberSpan) arguments
      typeArguments span) :
    (∀ thisSpan, object = .this thisSpan → computed = false →
      (o.Consults f ↔
        f.declaredType = none ∧ o.useTypeChecking = true ∧ property.LeavesOpen) ∧
      (o.Consults f → ∀ context s, s.Sound context →
        ((RunM.isCandidate o f).exec context s).1 =
          match context.types.services? context.unit with
          | some services => .ok (checkerEvidence services value)
          | none => .error (.noTypeInformation context.unit.path context.ruleName)) ∧
      (¬ o.Consults f → ∀ context s, (RunM.isCandidate o f).exec context s =
        (.ok (f.declaredType.any declaredTypeEvidence), s)) ∧
      ∀ index, (TypeServices.ofDeclarations index).symbol? value =
        (property.name?.bind (index.methodType? memberSpan.startByte)).bind TypeNode.symbol?) ∧
    ∀ name nameSpan, property = .identifier name nameSpan → name ≠ requiredMember →
      ¬ o.Consults f ∧ ∀ context s, (RunM.isCandidate o f).exec context s =
        (.ok (f.declaredType.any declaredTypeEvidence), s) := by
  subst hcall
  constructor
  · rintro thisSpan rfl rfl
    refine ⟨⟨?_, ?_⟩, fun h context s hs => RunM.exec_isCandidate_of_consults h hvalue hs,
      fun h context s => RunM.exec_isCandidate_of_not_consults h hvalue calleeShape_this_ne,
      fun index => index.symbol?_thisCall ..⟩
    · rintro ⟨undeclared, usesTypes, value, hvalue', inconclusive⟩
      obtain rfl := Option.some.inj (hvalue.symm.trans hvalue')
      exact ⟨undeclared, usesTypes, calleeShape_this.1 inconclusive⟩
    · rintro ⟨undeclared, usesTypes, hopen⟩
      exact ⟨undeclared, usesTypes, _, hvalue, calleeShape_this.2 hopen⟩
  · -- the name alone settles the call, and no object is looked at
    rintro name nameSpan rfl hname
    have hshape : callShape o.creationFunctions (.call (.member object (.identifier name nameSpan)
        computed optional memberSpan) arguments typeArguments span) = .unsupportedMember := by
      rw [callShape, calleeShape_publicName hname]
    have hnot : ¬ o.Consults f := by
      rintro ⟨-, -, value, hvalue', inconclusive⟩
      obtain rfl := Option.some.inj (hvalue.symm.trans hvalue')
      rw [hshape] at inconclusive
      cases inconclusive
    refine ⟨hnot, fun context s => RunM.exec_isCandidate_of_not_consults hnot hvalue ?_⟩
    rw [hshape]
    exact nofun

/-- A field `x = this.property()` without a declared type. -/
def thisCallField (property : Expression) : Field :=
  ⟨.plain, .identifier "x" {}, none,
    some (.call (.member (.this {}) property false false { startByte := 50 }) [] [] {}), false,
    false, [], some "Panel", {}⟩

/-- One class with three methods, of which the private one returns a signal. -/
def sampleMethods : SourceUnit where
  path := "panel.ts"
  declarations := {
    classes := [⟨some "Panel", 0, 100⟩]
    methods := ⟨[(⟨0, "#make"⟩, some (.reference (.simple "Signal" {}) [] {})),
      (⟨0, "required"⟩, none), (⟨0, "make"⟩, some (.reference (.simple "Signal" {}) [] {}))]⟩ }

/-- `this.#make()` is asked about and is a signal, `this.required()` is asked about, and `this.make()`
is no signal whatever the types are. -/
theorem isCandidate_memberCall_sampleMethods :
    let ask := fun property types =>
      ((RunM.isCandidate .default (thisCallField property)).exec (ruleContext sampleMethods types)
        {}).1
    ask (.privateIdentifier "#make" {}) .declarations = .ok true ∧
      ask (.identifier "required" {}) .none =
        .error (.noTypeInformation "panel.ts" "prefer-signals") ∧
      ask (.identifier "make" {}) .declarations = .ok false := by
  intro ask
  have hsound : ∀ types, RunState.Sound (ruleContext sampleMethods types) {} :=
    fun _ => Or.inl rfl
  obtain ⟨hprivate, -⟩ := isCandidate_memberCall .default
    (thisCallField (.privateIdentifier "#make" {})) rfl rfl
  obtain ⟨hconsults, hanswer, -⟩ := hprivate {} rfl rfl
  obtain ⟨hrequired, -⟩ := isCandidate_memberCall .default
    (thisCallField (.identifier "required" {})) rfl rfl
  obtain ⟨hconsults', hanswer', -⟩ := hrequired {} rfl rfl
  obtain ⟨-, hpublic⟩ :=
    isCandidate_memberCall .default (thisCallField (.identifier "make" {})) rfl rfl
  refine ⟨?_, ?_, ?_⟩
  · exact (hanswer (hconsults.2 ⟨rfl, rfl, .privateName⟩) _ _ (hsound _)).trans rfl
  · exact (hanswer' (hconsults'.2 ⟨rfl, rfl, .required⟩) _ _ (hsound _)).trans rfl
  · exact congrArg Prod.fst ((hpublic "make" {} rfl (by decide)).2 _ _)

theorem consults_thisCallField {property : Expression} (h : property.LeavesOpen) :
    RuleOptions.default.Consults (thisCallField property) := by
  refine ⟨rfl, rfl, _, rfl, ?_⟩
  rw [callShape]
  exact calleeShape_this.2 h

/-- Not only private names are asked about: the type services are consulted on `this.required()`, and
on a member of `this` that has no name. -/
theorem consults_thisCallField_required :
    ((∀ name span, Expression.identifier "required" {} ≠ .privateIdentifier name span) ∧
      RuleOptions.default.Consults (thisCallField (.identifier "required" {})) ∧
      (RunM.isCandidate .default (thisCallField (.identifier "required" {}))).exec
          (ruleContext sampleMethods .none) {} =
        (.error (.noTypeInformation "panel.ts" "prefer-signals"), {})) ∧
    (∀ name span, Expression.other "string" "'make'" {} ≠ .privateIdentifier name span) ∧
      RuleOptions.default.Consults (thisCallField (.other "string" "'make'" {})) :=
  ⟨⟨nofun, consults_thisCallField .required, rfl⟩, nofun,
    consults_thisCallField (.nameless rfl)⟩

end SignalLint
