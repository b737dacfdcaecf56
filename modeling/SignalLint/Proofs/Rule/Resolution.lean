import Mathlib.Data.List.Chain
import Mathlib.Logic.Relation
import SignalLint.Rule.TypeServices

/-!
# What an expression resolves to

The type services of a file look at an expression one step at a time: a step ends with a symbol or
without one, or goes on to an initializer, at most `maxHops` times. This module says without steps
what comes of it.

* `TypeNode.StandsFor` — the symbol that a declared type stands for.
* `DeclarationIndex.DeclaredBy` and `DeclarationIndex.Returns` — what a file says of a name or of a
  member of `this`: its declaration, or the return type of what is called.
* `DeclarationIndex.Hop` — an expression leads to the initializer of its declaration, if that has no
  declared type. `Hop.unique` says that there is one way on at most.
* `DeclarationIndex.Derives` — the symbol of an expression at the end of so many hops.
* `step_eq_follow_iff` and `step_eq_done_some_iff` are about one step, `resolve_eq_some_iff` about a
  resolution with any bound.

The main statement, `symbol?_eq_some_iff_derives`, adds what this comes to for chains of aliases. One
that runs into a circle never ends, so it derives nothing, with or without a bound
(`not_derives_of_circle`). One that ends soon enough is followed to its end.
-/

namespace SignalLint

/-! ### Declared types -/

/-- **The symbol that a declared type stands for.** A named type stands for its name, of which only
what is behind the last dot counts, whatever its arguments are. No other type stands for a symbol. -/
inductive TypeNode.StandsFor : TypeNode → String → Prop where
  /-- `Signal<T>` -/
  | simple {name : String} {nameSpan span : Span} {arguments : List TypeNode} :
      StandsFor (.reference (.simple name nameSpan) arguments span) name
  /-- `core.Signal<T>` -/
  | qualified {left : TypeName} {right : String} {rightSpan nameSpan span : Span}
      {arguments : List TypeNode} :
      StandsFor (.reference (.qualified left right rightSpan nameSpan) arguments span) right

theorem TypeNode.standsFor_iff {type : TypeNode} {symbol : String} :
    type.StandsFor symbol ↔ type.symbol? = some symbol := by
  constructor
  · rintro (_ | _) <;> rfl
  · intro h
    cases type with
    | reference name arguments span =>
      obtain rfl : name.last = symbol := Option.some.inj h
      cases name with
      | simple name nameSpan => exact .simple
      | qualified left right rightSpan nameSpan => exact .qualified
    | other grammar text span => cases h

namespace DeclarationIndex

variable (index : DeclarationIndex)

/-! ### What a file says of an expression -/

/-- The declaration that an expression stands for. -/
inductive DeclaredBy : Expression → Declaration → Prop where
  /-- A name stands for the variable of this name. -/
  | binding {name : String} {span : Span} {d : Declaration}
      (entry : index.bindings.get? name = some d) : DeclaredBy (.identifier name span) d
  /-- A member of `this`, if it is not computed, stands for the member of this name of the class
  in which the expression starts. -/
  | member {property : Expression} {name : String} {optional : Bool} {thisSpan span : Span}
      {scope : ClassScope} {d : Declaration} (named : property.name? = some name)
      (inside : index.enclosingClass? span.startByte = some scope)
      (entry : index.members.get? ⟨scope.startByte, name⟩ = some d) :
      DeclaredBy (.member (.this thisSpan) property false optional span) d

/-- The declared type of what a call of an expression returns. -/
inductive Returns : Expression → TypeNode → Prop where
  /-- A name calls the function of this name. -/
  | function {name : String} {span : Span} {type : TypeNode}
      (entry : index.functions.get? name = some (some type)) : Returns (.identifier name span) type
  /-- A member of `this`, if it is not computed, calls the method of this name of the class in which
  the member expression starts. -/
  | method {property : Expression} {name : String} {optional : Bool} {thisSpan span : Span}
      {scope : ClassScope} {type : TypeNode} (named : property.name? = some name)
      (inside : index.enclosingClass? span.startByte = some scope)
      (entry : index.methods.get? ⟨scope.startByte, name⟩ = some (some type)) :
      Returns (.member (.this thisSpan) property false optional span) type

/-- An expression leads to the initializer of its declaration if no type is declared there. -/
inductive Hop : Expression → Expression → Prop where
  | initializer {e value : Expression} {d : Declaration} (declared : index.DeclaredBy e d)
      (untyped : d.declaredType = none) (initialized : d.value = some value) : Hop e value

/-- **The symbol of an expression**, at the end of so many hops. -/
inductive Derives : Expression → Nat → String → Prop where
  /-- What `new` makes of a named constructor has its name. -/
  | construct {name : String} {nameSpan span : Span} {arguments : List Expression}
      {typeArguments : List TypeNode} :
      Derives (.construct (.identifier name nameSpan) arguments typeArguments span) 0 name
  /-- A call has the declared return type of what it calls. -/
  | call {callee : Expression} {arguments : List Expression} {typeArguments : List TypeNode}
      {span : Span} {type : TypeNode} {symbol : String} (returns : index.Returns callee type)
      (named : type.StandsFor symbol) :
      Derives (.call callee arguments typeArguments span) 0 symbol
  /-- What has a declared type has that. -/
  | typed {e : Expression} {d : Declaration} {type : TypeNode} {symbol : String}
      (declared : index.DeclaredBy e d) (typed : d.declaredType = some type)
      (named : type.StandsFor symbol) : Derives e 0 symbol
  /-- What has none has what its initializer derives, one hop later. -/
  | hop {e value : Expression} {hops : Nat} {symbol : String} (hop : index.Hop e value)
      (rest : Derives value hops symbol) : Derives e (hops + 1) symbol

variable {index}

/-! ### The look-ups of a step -/

/-- The declaration that a step looks up. -/
def declaration? (index : DeclarationIndex) : Expression → Option Declaration
  | .identifier name _ => index.bindings.get? name
  | e => (thisMember? e).bind (index.member? e.span.startByte)

/-- The declared return type that a step looks up for a callee. -/
def returnType? (index : DeclarationIndex) : Expression → Option TypeNode
  | .identifier name _ => index.functionType? name
  | callee => (thisMember? callee).bind (index.methodType? callee.span.startByte)

/-- Something is looked up by the name behind `this` only. -/
theorem bind_thisMember?_eq_some_iff {α : Type} {e : Expression} {find : String → Option α}
    {a : α} :
    (thisMember? e).bind find = some a ↔
      ∃ thisSpan property optional span name,
        e = .member (.this thisSpan) property false optional span ∧
          property.name? = some name ∧ find name = some a := by
  constructor
  · intro h
    obtain ⟨name, hname, hfind⟩ := Option.bind_eq_some_iff.1 h
    unfold thisMember? at hname
    split at hname
    · exact ⟨_, _, _, _, name, rfl, hname, hfind⟩
    · cases hname
  · rintro ⟨thisSpan, property, optional, span, name, rfl, hname, hfind⟩
    exact Option.bind_eq_some_iff.2 ⟨name, hname, hfind⟩

theorem declaredBy_iff {e : Expression} {d : Declaration} :
    index.DeclaredBy e d ↔ index.declaration? e = some d := by
  constructor
  · -- a name looks in one table, a member of `this` in that of the class around it
    rintro (entry | ⟨named, inside, entry⟩)
    · exact entry
    · refine bind_thisMember?_eq_some_iff.2 ⟨_, _, _, _, _, rfl, named, ?_⟩
      exact Option.bind_eq_some_iff.2 ⟨_, inside, entry⟩
  · intro h
    unfold declaration? at h
    split at h
    · exact .binding h
    · obtain ⟨_, _, _, _, name, rfl, named, hmember⟩ := bind_thisMember?_eq_some_iff.1 h
      obtain ⟨scope, inside, entry⟩ := Option.bind_eq_some_iff.1 hmember
      exact .member named inside entry

theorem returns_iff {callee : Expression} {type : TypeNode} :
    index.Returns callee type ↔ index.returnType? callee = some type := by
  constructor
  · rintro (entry | ⟨named, inside, entry⟩)
    · exact Option.join_eq_some_iff.2 entry
    · refine bind_thisMember?_eq_some_iff.2 ⟨_, _, _, _, _, rfl, named, ?_⟩
      exact Option.bind_eq_some_iff.2 ⟨_, inside, Option.join_eq_some_iff.2 entry⟩
  · intro h
    unfold returnType? at h
    split at h
    · exact .function (Option.join_eq_some_iff.1 h)
    · obtain ⟨_, _, _, _, name, rfl, named, hmethod⟩ := bind_thisMember?_eq_some_iff.1 h
      obtain ⟨scope, inside, entry⟩ := Option.bind_eq_some_iff.1 hmethod
      exact .method named inside (Option.join_eq_some_iff.1 entry)

/-! ### One step -/

theorem resolveDeclaration_eq_follow_iff {d : Option Declaration} {value : Expression} :
    resolveDeclaration d = .follow value ↔
      ∃ d', d = some d' ∧ d'.declaredType = none ∧ d'.value = some value := by
  rcases d with _ | ⟨name, _ | type, _ | v⟩ <;> simp [resolveDeclaration]

theorem resolveDeclaration_eq_done_some_iff {d : Option Declaration} {symbol : String} :
    resolveDeclaration d = .done (some symbol) ↔
      ∃ d' type, d = some d' ∧ d'.declaredType = some type ∧ type.StandsFor symbol := by
  rcases d with _ | ⟨name, _ | type, _ | v⟩ <;> simp [resolveDeclaration, TypeNode.standsFor_iff]

/-- **What a step does**: a call ends with a declared return type, `new` with the name of its
constructor, and anything else goes by its declaration. -/
theorem step_eq (index : DeclarationIndex) (e : Expression) :
    index.step e =
      match e with
      | .call callee _ _ _ => .done ((index.returnType? callee).bind TypeNode.symbol?)
      | .construct (.identifier name _) _ _ _ => .done (some name)
      | .construct .. => .done none
      | e => resolveDeclaration (index.declaration? e) := by
  -- only calls and members ask whether they hang on `this`; the rest computes
  cases e with
  | call callee arguments typeArguments span =>
    cases callee with
    | member object property computed optional memberSpan =>
      simp only [step, returnType?]
      cases thisMember? (.member object property computed optional memberSpan) <;> rfl
    | _ => rfl
  | construct callee arguments typeArguments span => cases callee <;> rfl
  | member object property computed optional span =>
    simp only [step, declaration?]
    cases thisMember? (.member object property computed optional span) <;> rfl
  | _ => rfl

theorem hop_iff {e value : Expression} :
    index.Hop e value ↔ resolveDeclaration (index.declaration? e) = .follow value := by
  rw [resolveDeclaration_eq_follow_iff]
  constructor
  · rintro ⟨declared, untyped, initialized⟩
    exact ⟨_, declaredBy_iff.1 declared, untyped, initialized⟩
  · rintro ⟨d, declared, untyped, initialized⟩
    exact .initializer (declaredBy_iff.2 declared) untyped initialized

/-- **A step goes on** exactly where there is a hop. -/
theorem step_eq_follow_iff {e value : Expression} :
    index.step e = .follow value ↔ index.Hop e value := by
  rw [hop_iff, step_eq]
  cases e with
  | call callee arguments typeArguments span => exact ⟨nofun, nofun⟩
  | construct callee arguments typeArguments span => cases callee <;> exact ⟨nofun, nofun⟩
  | _ => exact Iff.rfl

/-- **A step ends with a symbol** exactly where one is derived without a hop. -/
theorem step_eq_done_some_iff {e : Expression} {symbol : String} :
    index.step e = .done (some symbol) ↔ index.Derives e 0 symbol := by
  -- what has a declaration ends with its type, whatever kind of declaration it is
  have htyped : resolveDeclaration (index.declaration? e) = .done (some symbol) ↔
      ∃ d type, index.DeclaredBy e d ∧ d.declaredType = some type ∧ type.StandsFor symbol := by
    simp only [resolveDeclaration_eq_done_some_iff, declaredBy_iff]
  rw [step_eq]
  constructor
  · intro h
    cases e with
    | call callee arguments typeArguments span =>
      obtain ⟨type, returns, named⟩ := Option.bind_eq_some_iff.1 (Resolution.done.inj h)
      exact .call (returns_iff.2 returns) (TypeNode.standsFor_iff.2 named)
    | construct callee arguments typeArguments span =>
      cases callee with
      | identifier name nameSpan =>
        obtain rfl : name = symbol := Option.some.inj (Resolution.done.inj h)
        exact .construct
      | _ => cases h
    | _ =>
      obtain ⟨d, type, declared, typed, named⟩ := htyped.1 h
      exact .typed declared typed named
  · intro h
    cases h with
    | construct => rfl
    | call returns named =>
      exact congrArg _ (Option.bind_eq_some_iff.2
        ⟨_, returns_iff.1 returns, TypeNode.standsFor_iff.1 named⟩)
    | typed declared typed named =>
      have hdone := htyped.2 ⟨_, _, declared, typed, named⟩
      cases declared <;> exact hdone

/-! ### A resolution -/

/-- There is one way on at most. -/
theorem Hop.unique {e v w : Expression} (hv : index.Hop e v) (hw : index.Hop e w) : v = w := by
  have h := (step_eq_follow_iff.2 hv).symm.trans (step_eq_follow_iff.2 hw)
  exact Resolution.follow.inj h

/-- What goes on derives what it goes on to derives, and nothing by itself. -/
theorem derives_iff_of_hop {e value : Expression} (h : index.Hop e value) {hops : Nat}
    {symbol : String} :
    index.Derives e hops symbol ↔ ∃ k, hops = k + 1 ∧ index.Derives value k symbol := by
  constructor
  · intro hd
    cases hops with
    | zero =>
      -- a step cannot both end and go on
      have hdone := (step_eq_done_some_iff.2 hd).symm.trans (step_eq_follow_iff.2 h)
      cases hdone
    | succ k =>
      cases hd with
      | hop hop rest =>
        obtain rfl := Hop.unique h hop
        exact ⟨k, rfl, rest⟩
  · rintro ⟨k, rfl, rest⟩
    exact .hop h rest

/-- What does not go on derives a symbol at once or never. -/
theorem derives_iff_of_not_hop {e : Expression} (h : ∀ value, ¬ index.Hop e value) {hops : Nat}
    {symbol : String} :
    index.Derives e hops symbol ↔ hops = 0 ∧ index.step e = .done (some symbol) := by
  constructor
  · intro hd
    -- a derivation that takes hops begins with one
    cases hops with
    | zero => exact ⟨rfl, step_eq_done_some_iff.2 hd⟩
    | succ k =>
      cases hd with
      | hop hop rest => exact absurd hop (h _)
  · rintro ⟨rfl, hdone⟩
    exact step_eq_done_some_iff.1 hdone

/-- Where a step ends, the symbol that it ends with is all that is derived. -/
theorem exists_derives_iff_of_done {e : Expression} {found : Option String}
    (h : index.step e = .done found) {bound : Nat} {symbol : String} :
    (∃ k ≤ bound, index.Derives e k symbol) ↔ found = some symbol := by
  have hend : ∀ value, ¬ index.Hop e value := fun value hop => by
    rw [step_eq_follow_iff.2 hop] at h
    cases h
  simp [derives_iff_of_not_hop hend, h]

/-- **A resolution finds what is derived** within its bound. -/
theorem resolve_eq_some_iff {bound : Nat} {e : Expression} {symbol : String} :
    index.resolve bound e = some symbol ↔ ∃ k ≤ bound, index.Derives e k symbol := by
  -- on the bound; the first step decides whether there is a hop to spend
  induction bound generalizing e with
  | zero =>
    rw [resolve]
    cases hstep : index.step e with
    | done found => exact (exists_derives_iff_of_done hstep).symm
    | follow value => simp [derives_iff_of_hop (step_eq_follow_iff.1 hstep)]
  | succ bound ih =>
    rw [resolve]
    cases hstep : index.step e with
    | done found => exact (exists_derives_iff_of_done hstep).symm
    | follow value =>
      have hhop := step_eq_follow_iff.1 hstep
      simp only [ih, derives_iff_of_hop hhop]
      constructor
      · rintro ⟨k, hk, hd⟩
        exact ⟨k + 1, Nat.succ_le_succ hk, k, rfl, hd⟩
      · rintro ⟨_, hk, k, rfl, hd⟩
        exact ⟨k, Nat.le_of_succ_le_succ hk, hd⟩

/-! ### Chains of aliases -/

/-- Along a chain, in which each expression leads to the next, the symbol comes from the last. -/
theorem derives_iff_of_chain {e last : Expression} {chain : List Expression}
    (hchain : (e :: chain).IsChain index.Hop) (hlast : (e :: chain).getLast? = some last)
    {hops : Nat} {symbol : String} :
    index.Derives e hops symbol ↔
      ∃ k, hops = k + chain.length ∧ index.Derives last k symbol := by
  -- the induction is on the chain, of which each expression uses up one hop
  induction chain generalizing e hops with
  | nil =>
    obtain rfl : e = last := Option.some.inj hlast
    simp
  | cons value chain ih =>
    obtain ⟨hop, hrest⟩ := List.isChain_cons_cons.1 hchain
    rw [List.getLast?_cons_cons] at hlast
    simp only [derives_iff_of_hop hop, ih hrest hlast]
    constructor
    · rintro ⟨_, rfl, k, rfl, hd⟩
      exact ⟨k, rfl, hd⟩
    · rintro ⟨k, rfl, hd⟩
      exact ⟨k + chain.length, rfl, k, rfl, hd⟩

/-- Each hop that is made is one less to the symbol. -/
theorem exists_derives_of_transGen {e e' : Expression} (h : Relation.TransGen index.Hop e e')
    {hops : Nat} {symbol : String} (hd : index.Derives e hops symbol) :
    ∃ k < hops, index.Derives e' k symbol := by
  -- on the hops that are made, the last of them at the end
  induction h with
  | single hop =>
    obtain ⟨k, rfl, hd'⟩ := (derives_iff_of_hop hop).1 hd
    exact ⟨k, Nat.lt_succ_self k, hd'⟩
  | tail _ hop ih =>
    obtain ⟨j, hj, hd'⟩ := ih
    obtain ⟨k, rfl, hd''⟩ := (derives_iff_of_hop hop).1 hd'
    exact ⟨k, Nat.lt_of_succ_lt hj, hd''⟩

/-- **A circle derives nothing**, since a turn would make the way to the symbol shorter. -/
theorem not_derives_of_circle {e : Expression} (h : Relation.TransGen index.Hop e e) {hops : Nat}
    {symbol : String} : ¬ index.Derives e hops symbol := by
  -- on the hops of a derivation: once around the circle there is one with fewer
  induction hops using Nat.strong_induction_on with
  | h hops ih =>
    intro hd
    obtain ⟨k, hk, hd'⟩ := exists_derives_of_transGen h hd
    exact ih k hk hd'

theorem not_derives_of_reaches_circle {e e' : Expression}
    (hreach : Relation.ReflTransGen index.Hop e e') (h : Relation.TransGen index.Hop e' e')
    {hops : Nat} {symbol : String} : ¬ index.Derives e hops symbol := by
  intro hd
  rcases Relation.reflTransGen_iff_eq_or_transGen.1 hreach with rfl | hreach
  · exact not_derives_of_circle h hd
  · obtain ⟨k, -, hd'⟩ := exists_derives_of_transGen hreach hd
    exact not_derives_of_circle h hd'

end DeclarationIndex

/-! ### Type services -/

open DeclarationIndex in
/-- **What the type services of a file find.** They find the symbol of an expression exactly if it is
derived within eight hops. So an expression whose chain of aliases runs into a circle, of whatever
length and through whatever variables and members, has no symbol. And an expression whose chain ends
within eight hops has exactly the symbol that it has with no bound on the hops. -/
theorem TypeServices.symbol?_eq_some_iff_derives (index : DeclarationIndex) (e : Expression) :
    let services := TypeServices.ofDeclarations index
    (∀ symbol, services.symbol? e = some symbol ↔ ∃ hops ≤ 8, index.Derives e hops symbol) ∧
      (∀ e', Relation.ReflTransGen index.Hop e e' → Relation.TransGen index.Hop e' e' →
        services.symbol? e = none) ∧
      ∀ chain last, (e :: chain).IsChain index.Hop → (e :: chain).getLast? = some last →
        (∀ value, ¬ index.Hop last value) → chain.length ≤ 8 →
          ∀ symbol, services.symbol? e = some symbol ↔ ∃ hops, index.Derives e hops symbol := by
  intro services
  have hbound : ∀ symbol, services.symbol? e = some symbol ↔
      ∃ hops ≤ 8, index.Derives e hops symbol := fun symbol => resolve_eq_some_iff
  refine ⟨hbound, ?_, ?_⟩
  · intro e' hreach hcircle
    refine Option.eq_none_iff_forall_ne_some.2 fun symbol hsymbol => ?_
    obtain ⟨hops, -, hd⟩ := (hbound symbol).1 hsymbol
    exact not_derives_of_reaches_circle hreach hcircle hd
  · intro chain last hchain hlast hend hlength symbol
    rw [hbound]
    refine exists_congr fun hops => and_iff_right_of_imp fun hd => ?_
    -- the last expression derives its symbol at once, so the hops are those of the chain
    obtain ⟨k, rfl, hd'⟩ := (derives_iff_of_chain hchain hlast).1 hd
    obtain ⟨rfl, -⟩ := (derives_iff_of_not_hop hend).1 hd'
    rwa [Nat.zero_add]

/-- The name `name`, written at an offset. -/
def aliasName (name : String) (offset : Nat) : Expression :=
  .identifier name { startByte := offset }

/-- The member `this.name`, written at an offset. -/
def aliasMember (name : String) (offset : Nat) : Expression :=
  .member (.this {}) (.identifier name {}) false false { startByte := offset }

/-- The call `callee()`. -/
def aliasCall (callee : Expression) : Expression := .call callee [] [] {}

/-- A class with a circle and three chains to a symbol: `a = this.b` and `b = a` go round, `x = this.y`
leads to `y = new Store()`, `z = this.w` to the declared type `core.Signal` of `w`, and `v` to what
`this.build()` returns. The function `make` returns a `Signal`, and `raw` returns no named type. -/
def sampleAliases : DeclarationIndex where
  classes := [⟨none, 0, 100⟩]
  bindings := ⟨[("a", { name := "a", value := some (aliasMember "b" 10) }),
    ("x", { name := "x", value := some (aliasMember "y" 50) }),
    ("z", { name := "z", value := some (aliasMember "w" 60) }),
    ("v", { name := "v", value := some (aliasCall (aliasMember "build" 70)) })]⟩
  members := ⟨[(⟨0, "b"⟩, { name := "b", value := some (aliasName "a" 20) }),
    (⟨0, "y"⟩, { name := "y", value := some (.construct (.identifier "Store" {}) [] [] {}) }),
    (⟨0, "w"⟩, {
      name := "w"
      declaredType := some (.reference (.qualified (.simple "core" {}) "Signal" {} {}) [] {})
      value := some (aliasName "a" 30) })]⟩
  functions := ⟨[("make", some (.reference (.simple "Signal" {}) [] {})),
    ("raw", some (.other "union_type" "number | null" {}))]⟩
  methods := ⟨[(⟨0, "build"⟩, some (.reference (.simple "WritableSignal" {}) [] {}))]⟩

open DeclarationIndex in
theorem TypeServices.symbol?_eq_some_iff_derives_sampleAliases :
    let services := TypeServices.ofDeclarations sampleAliases
    services.symbol? (aliasName "a" 5) = none ∧
      services.symbol? (aliasName "x" 40) = some "Store" ∧
      services.symbol? (aliasName "z" 40) = some "Signal" ∧
      services.symbol? (aliasCall (aliasName "make" 40)) = some "Signal" ∧
      services.symbol? (aliasCall (aliasName "raw" 40)) = none ∧
      services.symbol? (aliasName "v" 40) = some "WritableSignal" := by
  intro services
  have hderived : ∀ e symbol hops, sampleAliases.Derives e hops symbol → hops ≤ 8 →
      services.symbol? e = some symbol := fun e symbol hops hd hbound =>
    ((TypeServices.symbol?_eq_some_iff_derives sampleAliases e).1 symbol).2 ⟨hops, hbound, hd⟩
  have hmember : sampleAliases.Hop (aliasMember "b" 10) (aliasName "a" 20) := hop_iff.2 rfl
  have hname : ∀ offset, sampleAliases.Hop (aliasName "a" offset) (aliasMember "b" 10) :=
    fun _ => hop_iff.2 rfl
  refine ⟨?_, ?_, ?_, ?_, ?_, ?_⟩
  · obtain ⟨-, hcircle, -⟩ :=
      TypeServices.symbol?_eq_some_iff_derives sampleAliases (aliasName "a" 5)
    exact hcircle (aliasMember "b" 10) (.single (hname 5)) (.tail (.single hmember) (hname 20))
  · obtain ⟨-, -, hchain⟩ :=
      TypeServices.symbol?_eq_some_iff_derives sampleAliases (aliasName "x" 40)
    have hx : sampleAliases.Hop (aliasName "x" 40) (aliasMember "y" 50) := hop_iff.2 rfl
    have hy : sampleAliases.Hop (aliasMember "y" 50)
      (.construct (.identifier "Store" {}) [] [] {}) := hop_iff.2 rfl
    refine (hchain [aliasMember "y" 50, _] _ (.cons_cons hx (.cons_cons hy (.singleton _))) rfl
      (fun value hop => ?_) (by decide) "Store").2 ⟨2, .hop hx (.hop hy .construct)⟩
    cases hop_iff.1 hop
  · -- the declared type of `w` counts, although `w` has an initializer, too
    have hz : sampleAliases.Hop (aliasName "z" 40) (aliasMember "w" 60) := hop_iff.2 rfl
    exact hderived _ _ 1 (.hop hz (.typed (declaredBy_iff.2 rfl) rfl .qualified)) (by decide)
  · exact hderived _ _ 0 (.call (.function rfl) .simple) (by decide)
  · refine Option.eq_none_iff_forall_ne_some.2 fun symbol hsymbol => ?_
    obtain ⟨hops, -, hd⟩ :=
      ((TypeServices.symbol?_eq_some_iff_derives sampleAliases _).1 symbol).1 hsymbol
    cases hd with
    | call returns named =>
      cases returns with
      | function entry =>
        obtain rfl := Option.some.inj (Option.some.inj entry)
        cases named
    | typed declared => cases declared
    | hop hop => cases hop_iff.1 hop
  · have hv : sampleAliases.Hop (aliasName "v" 40) (aliasCall (aliasMember "build" 70)) :=
      hop_iff.2 rfl
    exact hderived _ _ 1 (.hop hv (.call (.method rfl rfl rfl) .simple)) (by decide)

end SignalLint
