import SignalLint.Rule.PreferSignals

/-!
# The steps of a run

A run of the rule is made of a few steps: to read what the run is given, to report, to ask for type
services, and to hand a node to a check. This module says of each what it does to the state of a
run, so that later modules never unfold one.

* `RunM.exec_bind_ok`, `RunM.exec_bind_error` — one step after another.
* `RunM.exec_services` and `exec_services_refused` — a request for type services builds them at most
  once and changes nothing else (`RunState.Served`), or fails and changes nothing at all.
* `RunM.exec_isCandidate` — asking for a candidate does no more than such a request.
* `RunM.exec_offer_construction` and its siblings — what each check does with a node that it is
  offered, as a function of the node (`Check.constructionFinding` and its siblings). A check looks
  at a node through a selector before it looks again for itself; what it finds takes both into
  account.
-/

namespace SignalLint

/-! ### Steps of a run -/

namespace RunM

variable {α β : Type} {context : RunContext} {s s' : RunState}

@[simp] theorem exec_pure (a : α) : (pure a : RunM α).exec context s = (.ok a, s) := rfl

@[simp] theorem exec_read : (read : RunM RunContext).exec context s = (.ok context, s) := rfl

@[simp] theorem exec_get : (get : RunM RunState).exec context s = (.ok s, s) := rfl

/-- One step after another: a failure skips the second and keeps the state. -/
theorem exec_bind (x : RunM α) (f : α → RunM β) :
    (x >>= f).exec context s =
      match x.exec context s with
      | (.ok a, s') => (f a).exec context s'
      | (.error e, s') => (.error e, s') := by
  simp only [exec, ReaderT.run_bind, ExceptT.run_bind, StateT.run_bind]
  obtain ⟨r, s'⟩ := StateT.run (ReaderT.run x context).run s
  cases r <;> rfl

theorem exec_bind_ok {x : RunM α} {f : α → RunM β} {a : α}
    (h : x.exec context s = (.ok a, s')) :
    (x >>= f).exec context s = (f a).exec context s' := by
  rw [exec_bind, h]

theorem exec_bind_error {x : RunM α} {f : α → RunM β} {e : RunError}
    (h : x.exec context s = (.error e, s')) :
    (x >>= f).exec context s = (.error e, s') := by
  rw [exec_bind, h]

theorem exec_discard {x : RunM α} {a : α} (h : x.exec context s = (.ok a, s')) :
    (discard x).exec context s = (.ok (), s') := by
  change (x >>= fun _ => pure ()).exec context s = _
  rw [exec_bind_ok h, exec_pure]

/-- A report under a known message appends one diagnostic and does nothing else. -/
theorem exec_report {span : Span} {id template : String} {data : List (String × Value)}
    {suggestions : List Suggestion} (h : context.messages.template? id = some template) :
    (report span id data suggestions).exec context s =
      let d : Diagnostic := {
        rule := context.ruleName
        messageId := id
        message := formatMessage template data
        path := context.unit.path
        span := span
        data := data
        suggestions := suggestions.map (Suggestion.render context.messages) }
      (.ok d, { s with diagnostics := s.diagnostics ++ [d] }) := by
  unfold report
  rw [exec_bind_ok exec_read, h]
  rfl

end RunM

/-! ### Type services -/

/-- The services that a state holds are those that the run would build. -/
def RunState.Sound (context : RunContext) (s : RunState) : Prop :=
  s.services = none ∨ s.services = context.types.services? context.unit

/-- How a state changes when a step asks for the services of the run: they are there afterwards,
they were built if they were not there before, and nothing was reported. -/
structure RunState.Served (services : TypeServices) (s s' : RunState) : Prop where
  diagnostics : s'.diagnostics = s.diagnostics
  services : s'.services = some services
  acquired : s'.acquired = if s.services.isNone then s.acquired + 1 else s.acquired

namespace RunM

variable {context : RunContext} {s : RunState} {services : TypeServices}

theorem exec_buildServices (h : context.types.services? context.unit = some services) :
    buildServices.exec context s = (.ok services,
      { s with
        acquired := s.acquired + 1
        log := s.log ++ [⟨.debug, .ruleContext,
          Log.about context.unit.path "acquiring type services"⟩] }) := by
  unfold buildServices
  rw [exec_bind_ok exec_read, h]
  rfl

/-- Services are to be had: they are handed out, whether they were there already or not. -/
theorem exec_services (hs : s.Sound context)
    (h : context.types.services? context.unit = some services) :
    ∃ s', RunM.services.exec context s = (.ok services, s') ∧ s.Served services s' := by
  unfold RunM.services
  rw [exec_bind_ok exec_get]
  rcases hs with hs | hs
  · -- nothing was built before
    rw [hs]
    simp only
    rw [exec_bind_ok (exec_buildServices h)]
    exact ⟨_, rfl, rfl, rfl, by rw [hs]; rfl⟩
  · -- what was built before is what would be built now
    rw [hs, h]
    exact ⟨s, rfl, rfl, by rw [hs, h], by rw [hs, h]; rfl⟩

/-- No services are to be had: the request fails and leaves the state alone. -/
theorem exec_services_refused (hs : s.Sound context)
    (h : context.types.services? context.unit = none) :
    RunM.services.exec context s =
      (.error (.noTypeInformation context.unit.path context.ruleName), s) := by
  -- a run without services never came to hold any
  have hnone : s.services = none := by rcases hs with hs | hs <;> simp only [hs, h]
  have hbuild : buildServices.exec context s =
      (.error (.noTypeInformation context.unit.path context.ruleName), s) := by
    unfold buildServices
    rw [exec_bind_ok exec_read, h]
    rfl
  unfold RunM.services
  rw [exec_bind_ok exec_get, hnone]
  exact exec_bind_error hbuild

/-! ### Candidates -/

variable {o : RuleOptions} {f : Field}

theorem exec_isCandidate_of_settled {b : Bool} (h : o.judge f = .settled b) :
    (isCandidate o f).exec context s = (.ok b, s) := by
  unfold isCandidate
  rw [h]
  rfl

/-- A field whose syntax decides nothing is decided by the type of its initializer. -/
theorem exec_isCandidate {e : Expression} (hs : s.Sound context) (hj : o.judge f = .needsTypes e)
    (h : context.types.services? context.unit = some services) :
    ∃ s', (isCandidate o f).exec context s = (.ok (checkerEvidence services e), s') ∧
      s.Served services s' := by
  obtain ⟨s₁, hrun, hserved⟩ := exec_services hs h
  unfold isCandidate
  rw [hj]
  simp only
  rw [exec_bind_ok hrun]
  cases checkerEvidence services e with
  | false => exact ⟨s₁, rfl, hserved⟩
  -- a candidate is noted in the log, which is all that changes
  | true => exact ⟨_, rfl, hserved.diagnostics, hserved.services, hserved.acquired⟩

theorem exec_isCandidate_refused {e : Expression} (hs : s.Sound context)
    (hj : o.judge f = .needsTypes e) (h : context.types.services? context.unit = none) :
    (isCandidate o f).exec context s =
      (.error (.noTypeInformation context.unit.path context.ruleName), s) := by
  unfold isCandidate
  rw [hj]
  exact exec_bind_error (exec_services_refused hs h)

end RunM

/-! ### What each check finds -/

/-- What a run of the rule over a unit is given. -/
def ruleContext (unit : SourceUnit) (types : TypeSupply) : RunContext :=
  ⟨ruleName, ruleMessages, unit, types⟩

theorem runRule_eq (o : RuleOptions) (unit : SourceUnit) (types : TypeSupply) :
    runRule o unit types = (RunM.run o.checks unit.nodes).exec (ruleContext unit types) {} := rfl

/-- A diagnostic of the rule. -/
def ruleDiagnostic (path : String) (span : Span) (messageId : String)
    (data : List (String × Value)) (suggestions : List Suggestion) : Diagnostic where
  rule := ruleName
  messageId := messageId
  message := formatMessage ((ruleMessages.template? messageId).getD messageId) data
  path := path
  span := span
  data := data
  suggestions := suggestions.map (Suggestion.render ruleMessages)

/-- Whether a field is a signal, for given type services. -/
def RuleOptions.isSignal (o : RuleOptions) (services : Option TypeServices) (f : Field) : Bool :=
  match o.judge f with
  | .settled isSignal => isSignal
  | .needsTypes initializer => services.any (checkerEvidence · initializer)

/-- The state with one more diagnostic, if there is one. -/
def RunState.report (s : RunState) (d : Option Diagnostic) : RunState :=
  { s with diagnostics := s.diagnostics ++ d.toList }

@[simp] theorem RunState.report_none (s : RunState) : s.report none = s := by
  simp only [report, Option.toList_none, List.append_nil]

/-- A report of the rule appends the rule's diagnostic. -/
theorem exec_report_rule {unit : SourceUnit} {types : TypeSupply} {s : RunState} {span : Span}
    {id : String} {data : List (String × Value)} {suggestions : List Suggestion}
    (h : (ruleMessages.template? id).isSome) :
    (discard (RunM.report span id data suggestions)).exec (ruleContext unit types) s =
      (.ok (), s.report (some (ruleDiagnostic unit.path span id data suggestions))) := by
  obtain ⟨template, ht⟩ := Option.isSome_iff_exists.1 h
  have hmessage : (ruleContext unit types).messages.template? id = some template := ht
  rw [RunM.exec_discard (RunM.exec_report hmessage)]
  simp only [RunState.report, ruleDiagnostic, ht, Option.getD_some]
  rfl

/-- Whether a judgement waits for a type. -/
def Judgement.asks : Judgement → Bool
  | settled _ => false
  | needsTypes _ => true

namespace Check

/-- What the check of `new` expressions finds at a node. -/
def constructionFinding (path : String) (types : List String) : Node → Option Diagnostic
  | .expression (.construct (.identifier name span) _ _ _) =>
    if types.contains name then
      some (ruleDiagnostic path span "preferSignal" [("type", .text name)] [])
    else none
  | _ => none

/-- What the check of fields finds at a node, for given type services. -/
def fieldFinding (o : RuleOptions) (path : String) (services : Option TypeServices) :
    Node → Option Diagnostic
  | .field f =>
    if f.kind = .plain ∧ f.isReadonly = false ∧ o.isSignal services f = true then
      some (ruleDiagnostic path f.key.span "preferReadonly" [] [readonlySuggestion f.key])
    else none
  | _ => none

/-- Whether the check of fields asks for type services when it is offered a node. -/
def fieldAsks (o : RuleOptions) : Node → Bool
  | .field f => f.kind = .plain && !f.isReadonly && (o.judge f).asks
  | _ => false

/-- What the check of input decorators finds at a node. -/
def inputFinding (path : String) : Node → Option Diagnostic
  | .decorator d =>
    if Node.callee? d.expression = some "Input" then
      some (ruleDiagnostic path d.span "preferInputSignal" [] [])
    else none
  | _ => none

/-- What the check of query decorators finds at a node. -/
def queryFinding (path : String) : Node → Option Diagnostic
  | .decorator d =>
    match Node.callee? d.expression with
    | some name =>
      if queryPattern.finds name then
        some (ruleDiagnostic path d.span "preferQuerySignal"
          [("function", .text (signalFunction name)), ("decorator", .text name)] [])
      else none
    | none => none
  | _ => none

end Check

/-! ### Offering a node to a check -/

namespace Node

theorem exists_of_kind_newExpression {n : Node} (h : n.kind = .newExpression) :
    ∃ callee arguments typeArguments span,
      n = .expression (.construct callee arguments typeArguments span) := by
  unfold Node.kind at h
  split at h <;> first | exact ⟨_, _, _, _, rfl⟩ | cases h

theorem exists_of_kind_decorator {n : Node} (h : n.kind = .decorator) :
    ∃ d, n = .decorator d := by
  unfold Node.kind at h
  split at h <;> first | exact ⟨_, rfl⟩ | cases h

theorem exists_of_kind_field {n : Node} {k : FieldKind} (h : n.kind = .field k) :
    ∃ f, n = .field f ∧ f.kind = k := by
  unfold Node.kind at h
  split at h <;> first | exact ⟨_, rfl, NodeKind.field.inj h⟩ | cases h

end Node

theorem Selector.kind_of_admits {selector : Selector} {n : Node} (h : selector.admits n = true) :
    n.kind = selector.kind := by
  unfold Selector.admits at h
  rw [Bool.and_eq_true, Bool.and_eq_true] at h
  exact of_decide_eq_true h.1.1

theorem Selector.mutableField_admits_field (f : Field) :
    Selector.mutableField.admits (.field f) = true ↔ f.kind = .plain ∧ f.isReadonly = false := by
  rw [eq_comm (a := f.isReadonly)]
  simp [Selector.admits, Selector.mutableField, Node.kind, Node.isReadonly]

theorem isInputDecorator_iff (d : Decorator) :
    isInputDecorator (.decorator d) = true ↔ Node.callee? d.expression = some "Input" :=
  decide_eq_true_iff

namespace RunM

variable {unit : SourceUnit} {types : TypeSupply} {s : RunState}

/-- Hands a node to one check, if the check wants it. -/
def offer (c : Check) (n : Node) : RunM Unit :=
  if c.selector.admits n then c.visit n else pure ()

theorem visit_singleton (c : Check) (n : Node) {context : RunContext} :
    (visit [c] n).exec context s = (offer c n).exec context s := by
  change (offer c n >>= fun _ => pure ()).exec context s = _
  rw [exec_bind]
  obtain ⟨r, s'⟩ := (offer c n).exec context s
  cases r <;> rfl

theorem visit_append (cs ds : List Check) (n : Node) :
    visit (cs ++ ds) n = visit cs n >>= fun _ => visit ds n := List.forM_append

theorem offer_of_not_admits {c : Check} {n : Node} (h : c.selector.admits n = false) :
    offer c n = pure () := if_neg (by rw [h]; exact Bool.false_ne_true)

theorem offer_of_admits {c : Check} {n : Node} (h : c.selector.admits n = true) :
    offer c n = c.visit n := if_pos h

theorem exec_offer_construction (constructors : List String) (n : Node) :
    (offer (.construction constructors) n).exec (ruleContext unit types) s =
      (.ok (), s.report (Check.constructionFinding unit.path constructors n)) := by
  cases hadm : Selector.construction.admits n with
  | true =>
    obtain ⟨callee, arguments, typeArguments, span, rfl⟩ :=
      Node.exists_of_kind_newExpression (Selector.kind_of_admits hadm)
    rw [offer_of_admits hadm]
    -- the check looks again for a plain name, and for this name among the constructors
    cases callee with
    | identifier name nameSpan =>
      simp only [Check.construction, observableWrapper?, Check.constructionFinding]
      by_cases h : constructors.contains name = true
      · rw [if_pos h, if_pos h]
        exact exec_report_rule rfl
      · rw [if_neg h, if_neg h, RunState.report_none]
        rfl
    | _ => exact congrArg _ s.report_none.symm
  | false =>
    have hnone : Check.constructionFinding unit.path constructors n = none := by
      unfold Check.constructionFinding
      split
      · simp [Selector.admits, Selector.construction, Node.kind] at hadm
      · rfl
    rw [offer_of_not_admits hadm, hnone, RunState.report_none, exec_pure]

theorem exec_offer_inputDecorator (n : Node) :
    (offer .inputDecorator n).exec (ruleContext unit types) s =
      (.ok (), s.report (Check.inputFinding unit.path n)) := by
  cases hadm : Selector.inputDecorator.admits n with
  | true =>
    obtain ⟨d, rfl⟩ := Node.exists_of_kind_decorator (Selector.kind_of_admits hadm)
    rw [offer_of_admits hadm]
    simp only [Check.inputDecorator, isInputDecorator_iff, Check.inputFinding]
    by_cases h : Node.callee? d.expression = some "Input"
    · rw [if_pos h, if_pos h]
      exact exec_report_rule rfl
    · rw [if_neg h, if_neg h, RunState.report_none]
      rfl
  | false =>
    -- a decorator that the selector turns away does not invoke `Input`
    have hnone : Check.inputFinding unit.path n = none := by
      unfold Check.inputFinding
      split
      · rename_i d
        refine if_neg fun h => ?_
        simp [Selector.admits, Selector.inputDecorator, Node.kind, Node.invokedName?, h,
          Selector.admitsName] at hadm
      · rfl
    rw [offer_of_not_admits hadm, hnone, RunState.report_none, exec_pure]

theorem exec_offer_queryDecorator (n : Node) :
    (offer .queryDecorator n).exec (ruleContext unit types) s =
      (.ok (), s.report (Check.queryFinding unit.path n)) := by
  cases hadm : Selector.queryDecorator.admits n with
  | true =>
    obtain ⟨d, rfl⟩ := Node.exists_of_kind_decorator (Selector.kind_of_admits hadm)
    rw [offer_of_admits hadm]
    simp only [Check.queryDecorator, queryMatch?, Node.invokedName?, Check.queryFinding]
    cases Node.callee? d.expression with
    | none => exact congrArg _ s.report_none.symm
    | some name =>
      simp only
      by_cases h : queryPattern.finds name = true
      · rw [if_pos h, if_pos h]
        exact exec_report_rule rfl
      · rw [if_neg h, if_neg h, RunState.report_none]
        rfl
  | false =>
    -- the selector and the check have the same pattern, so the check finds nothing either
    have hnone : Check.queryFinding unit.path n = none := by
      unfold Check.queryFinding
      split
      · rename_i d
        split
        · rename_i name hname
          refine if_neg fun h => ?_
          simp [Selector.admits, Selector.queryDecorator, Node.kind, Node.invokedName?, hname,
            Selector.admitsName, h] at hadm
        · rfl
      · rfl
    rw [offer_of_not_admits hadm, hnone, RunState.report_none, exec_pure]

/-- A field that the syntax settles is reported by what the syntax says. -/
theorem exec_offer_mutableField {o : RuleOptions} {n : Node} (h : Check.fieldAsks o n = false)
    (services : Option TypeServices) :
    (offer (.mutableField o) n).exec (ruleContext unit types) s =
      (.ok (), s.report (Check.fieldFinding o unit.path services n)) := by
  cases hadm : Selector.mutableField.admits n with
  | true =>
    obtain ⟨f, rfl, hplain⟩ := Node.exists_of_kind_field (Selector.kind_of_admits hadm)
    have hmut := (Selector.mutableField_admits_field f).1 hadm
    rw [offer_of_admits hadm]
    cases hj : o.judge f with
    | needsTypes e => simp [Check.fieldAsks, hmut.1, hmut.2, hj, Judgement.asks] at h
    | settled isSignal =>
      simp only [Check.mutableField, Check.fieldFinding, RuleOptions.isSignal, hj, hmut.1, hmut.2,
        true_and]
      rw [exec_bind_ok (exec_isCandidate_of_settled hj)]
      cases isSignal with
      | true => exact exec_report_rule rfl
      | false => exact congrArg _ s.report_none.symm
  | false =>
    have hnone : Check.fieldFinding o unit.path services n = none := by
      unfold Check.fieldFinding
      split
      · rename_i f
        refine if_neg fun hf => ?_
        rw [(Selector.mutableField_admits_field f).2 ⟨hf.1, hf.2.1⟩] at hadm
        cases hadm
      · rfl
    rw [offer_of_not_admits hadm, hnone, RunState.report_none, exec_pure]

/-- What a field is like whose check asks for types. -/
theorem exists_of_fieldAsks {o : RuleOptions} {n : Node} (h : Check.fieldAsks o n = true) :
    ∃ f e, n = .field f ∧ f.kind = .plain ∧ f.isReadonly = false ∧ o.judge f = .needsTypes e := by
  unfold Check.fieldAsks at h
  split at h
  · rename_i f
    rw [Bool.and_eq_true, Bool.and_eq_true, decide_eq_true_eq, Bool.not_eq_true'] at h
    cases hj : o.judge f with
    | settled b => rw [hj] at h; cases h.2
    | needsTypes e => exact ⟨f, e, rfl, h.1.1, h.1.2, hj⟩
  · cases h

/-- A field that needs types is reported by what the services say. -/
theorem exec_offer_mutableField_asking {o : RuleOptions} {n : Node} {services : TypeServices}
    (h : Check.fieldAsks o n = true) (hs : s.Sound (ruleContext unit types))
    (hsup : types.services? unit = some services) :
    ∃ s', (offer (.mutableField o) n).exec (ruleContext unit types) s =
        (.ok (), s'.report (Check.fieldFinding o unit.path (some services) n)) ∧
      s.Served services s' := by
  obtain ⟨f, e, rfl, hplain, hmut, hj⟩ := exists_of_fieldAsks h
  have hadm := (Selector.mutableField_admits_field f).2 ⟨hplain, hmut⟩
  obtain ⟨s₁, hrun, hserved⟩ := exec_isCandidate (f := f) hs hj hsup
  refine ⟨s₁, ?_, hserved⟩
  rw [offer_of_admits hadm]
  simp only [Check.mutableField, Check.fieldFinding, RuleOptions.isSignal, hj, hplain, hmut,
    true_and, Option.any_some]
  rw [exec_bind_ok hrun]
  cases checkerEvidence services e with
  | true => exact exec_report_rule rfl
  | false => exact congrArg _ s₁.report_none.symm

theorem exec_offer_mutableField_refused {o : RuleOptions} {n : Node}
    (h : Check.fieldAsks o n = true) (hs : s.Sound (ruleContext unit types))
    (hsup : types.services? unit = none) :
    (offer (.mutableField o) n).exec (ruleContext unit types) s =
      (.error (.noTypeInformation unit.path ruleName), s) := by
  obtain ⟨f, e, rfl, hplain, hmut, hj⟩ := exists_of_fieldAsks h
  rw [offer_of_admits ((Selector.mutableField_admits_field f).2 ⟨hplain, hmut⟩)]
  exact exec_bind_error (exec_isCandidate_refused hs hj hsup)

end RunM

end SignalLint
