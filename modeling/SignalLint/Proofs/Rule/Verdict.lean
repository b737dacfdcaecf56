import Mathlib.Data.List.Basic
import SignalLint.Proofs.Rule.Steps

/-!
# A run is the map of a verdict

`runRule` threads one state through all nodes of a unit: the diagnostics reported so far, the type
services once a field has needed them, and a log. Each node is offered to every check that the
options switch on, and each check looks at the node through a selector before it looks again for
itself. The main statement of this module, `runRule_eq_verdicts`, says that none of this can be
seen from outside: a run that succeeds reports, node by node, what `RuleOptions.verdict` says of
the node alone.

What each step of a run does to the state is said in `SignalLint.Proofs.Rule.Steps`. From there the
argument goes through the following layers.

* `RuleOptions.findings_eq_verdict` — the findings of the four checks never meet at one node, so
  that together they are the verdict.
* `Progress` — the invariant of a run, with `Progress.step`, `Progress.run` and
  `Progress.run_refused`: after some nodes the diagnostics are the verdicts of these nodes, and
  services have been built once if one of them asked for types and never otherwise.
* `exists_refusal` — how a run without services ends, and with it `runRule_ok_iff`, when one succeeds.
* `filter_preferReadonly` — the diagnostics that ask for the modifier are those of the fields that
  `RuleOptions.reports` singles out.

`Warrants` says without any state which diagnostic a node gives rise to. Its rule for fields asks a
classifier that has seen nothing yet (`freshCandidate`), so the history of the classifier that a
run shares among its fields makes no difference.
-/

namespace SignalLint

/-! ### One node -/

/-- The diagnostic that a node alone gives rise to. -/
def RuleOptions.verdict (o : RuleOptions) (path : String) (services : Option TypeServices) :
    Node → Option Diagnostic
  | .expression (.construct (.identifier name span) _ _ _) =>
    if o.typesToReplace.contains name then
      some (ruleDiagnostic path span "preferSignal" [("type", .text name)] [])
    else none
  | .field f =>
    if o.preferReadonly && f.kind = .plain && !f.isReadonly && o.isSignal services f then
      some (ruleDiagnostic path f.key.span "preferReadonly" [] [readonlySuggestion f.key])
    else none
  | .decorator d =>
    match Node.callee? d.expression with
    | none => none
    | some name =>
      if o.preferInputSignal && name = "Input" then
        some (ruleDiagnostic path d.span "preferInputSignal" [] [])
      else if o.preferQuerySignal && queryPattern.finds name then
        some (ruleDiagnostic path d.span "preferQuerySignal"
          [("function", .text (signalFunction name)), ("decorator", .text name)] [])
      else none
  | _ => none

namespace RuleOptions

variable {o : RuleOptions}

/-- Whether a run with these options asks for type services at a node. -/
def asksTypes (o : RuleOptions) (n : Node) : Bool := o.preferReadonly && Check.fieldAsks o n

/-- What the checks that are switched on find at a node, in their order. -/
def findings (o : RuleOptions) (path : String) (services : Option TypeServices) (n : Node) :
    List Diagnostic :=
  (Check.constructionFinding path o.typesToReplace n).toList ++
    (if o.preferReadonly then Check.fieldFinding o path services n else none).toList ++
    (if o.preferInputSignal then Check.inputFinding path n else none).toList ++
    (if o.preferQuerySignal then Check.queryFinding path n else none).toList

/-- The name of the input decorator is not among those of the query decorators. -/
theorem queryPattern_finds_input : queryPattern.finds "Input" = false := by decide

/-- No two checks find something at one node: `new` expressions, fields and decorators are told
apart by their kind, and no query decorator has the name of the input decorator. -/
theorem findings_eq_verdict (path : String) (services : Option TypeServices) (n : Node) :
    o.findings path services n = (o.verdict path services n).toList := by
  cases n with
  | expression e =>
    cases e with
    | construct callee arguments typeArguments span =>
      cases callee <;> simp [findings, verdict, Check.constructionFinding, Check.fieldFinding,
        Check.inputFinding, Check.queryFinding]
    | _ =>
      simp [findings, verdict, Check.constructionFinding, Check.fieldFinding, Check.inputFinding,
        Check.queryFinding]
  | field f =>
    cases hon : o.preferReadonly <;>
      simp [findings, verdict, Check.constructionFinding, Check.fieldFinding, Check.inputFinding,
        Check.queryFinding, hon, and_assoc]
  | decorator d =>
    have hinput := queryPattern_finds_input
    cases hname : Node.callee? d.expression with
    | none =>
      simp [findings, verdict, Check.constructionFinding, Check.fieldFinding, Check.inputFinding,
        Check.queryFinding, hname]
    | some name =>
      by_cases h : name = "Input"
      · -- the pattern for queries does not find this name
        subst h
        cases hon : o.preferInputSignal <;>
          simp [findings, verdict, Check.constructionFinding, Check.fieldFinding,
            Check.inputFinding, Check.queryFinding, hname, hon, hinput]
      · cases hon : o.preferQuerySignal <;>
          simp [findings, verdict, Check.constructionFinding, Check.fieldFinding,
            Check.inputFinding, Check.queryFinding, hname, hon, h]
  | _ =>
    simp [findings, verdict, Check.constructionFinding, Check.fieldFinding, Check.inputFinding,
      Check.queryFinding]

end RuleOptions

namespace RunM

variable {o : RuleOptions} {unit : SourceUnit} {types : TypeSupply} {s : RunState} {n : Node}

/-- A check that can be switched off reports what it finds if it is on. -/
theorem exec_visit_switched {c : Check} {d : Option Diagnostic} (on : Bool)
    (h : (offer c n).exec (ruleContext unit types) s = (.ok (), s.report d)) :
    (visit (if on then [c] else []) n).exec (ruleContext unit types) s =
      (.ok (), s.report (if on then d else none)) := by
  cases on with
  | true =>
    rw [if_pos rfl, if_pos rfl, visit_singleton]
    exact h
  | false => exact congrArg _ s.report_none.symm

theorem exec_visit_construction :
    (visit (if o.typesToReplace.isEmpty then [] else [.construction o.typesToReplace]) n).exec
        (ruleContext unit types) s =
      (.ok (), s.report (Check.constructionFinding unit.path o.typesToReplace n)) := by
  by_cases h : o.typesToReplace.isEmpty = true
  · -- nothing is found among no constructors
    have hnone : Check.constructionFinding unit.path o.typesToReplace n = none := by
      unfold Check.constructionFinding
      split
      · rw [List.isEmpty_iff.1 h]
        rfl
      · rfl
    rw [if_pos h, hnone, RunState.report_none]
    rfl
  · rw [if_neg h, visit_singleton]
    exact exec_offer_construction _ n

end RunM

/-- How a state changes when a node is handed to all checks. -/
structure RunState.Visited (o : RuleOptions) (unit : SourceUnit) (types : TypeSupply) (n : Node)
    (s s' : RunState) : Prop where
  diagnostics : s'.diagnostics =
    s.diagnostics ++ (o.verdict unit.path (types.services? unit) n).toList
  services : s'.services = if o.asksTypes n then types.services? unit else s.services
  acquired : s'.acquired =
    if o.asksTypes n && s.services.isNone then s.acquired + 1 else s.acquired

namespace RunM

variable {o : RuleOptions} {unit : SourceUnit} {types : TypeSupply} {s : RunState} {n : Node}

/-- The check of fields among the others: apart from its report it only asks for services. -/
theorem exec_visit_mutableField (hs : s.Sound (ruleContext unit types))
    (hsup : o.asksTypes n = true → (types.services? unit).isSome = true) :
    ∃ s' : RunState, (visit (if o.preferReadonly then [.mutableField o] else []) n).exec
          (ruleContext unit types) s =
        (.ok (), s'.report (if o.preferReadonly then
          Check.fieldFinding o unit.path (types.services? unit) n else none)) ∧
      s'.diagnostics = s.diagnostics ∧
      s'.services = (if o.asksTypes n then types.services? unit else s.services) ∧
      s'.acquired =
        if o.asksTypes n && s.services.isNone then s.acquired + 1 else s.acquired := by
  cases hask : o.asksTypes n with
  | true =>
    obtain ⟨hon, hfield⟩ := Bool.and_eq_true_iff.1 hask
    obtain ⟨services, hsv⟩ := Option.isSome_iff_exists.1 (hsup hask)
    obtain ⟨s₁, hrun, hserved⟩ := exec_offer_mutableField_asking hfield hs hsv
    refine ⟨s₁, ?_, hserved.diagnostics, ?_, ?_⟩
    · rw [hon, if_pos rfl, if_pos rfl, visit_singleton, hsv]
      exact hrun
    · rw [hserved.services, hsv, if_pos rfl]
    · rw [hserved.acquired, Bool.true_and]
  | false =>
    refine ⟨s, ?_, rfl, rfl, by rw [Bool.false_and]; rfl⟩
    cases hon : o.preferReadonly with
    | false => exact congrArg _ s.report_none.symm
    | true =>
      have hfield : Check.fieldAsks o n = false := by
        rwa [RuleOptions.asksTypes, hon, Bool.true_and] at hask
      exact exec_visit_switched true (exec_offer_mutableField hfield (types.services? unit))

/-- **One node.** If there are services wherever one is asked for, every check runs through. -/
theorem exec_visit (hs : s.Sound (ruleContext unit types))
    (hsup : o.asksTypes n = true → (types.services? unit).isSome = true) :
    ∃ s', (visit o.checks n).exec (ruleContext unit types) s = (.ok (), s') ∧
      s.Visited o unit types n s' := by
  have hfirst : (visit (if o.typesToReplace.isEmpty then [] else
      [.construction o.typesToReplace]) n).exec (ruleContext unit types) s = _ :=
    exec_visit_construction
  obtain ⟨s₁, hsecond, hdiag, hserv, hacq⟩ := exec_visit_mutableField (n := n)
    (s := s.report (Check.constructionFinding unit.path o.typesToReplace n)) hs hsup
  have hthird : ∀ s, (visit (if o.preferInputSignal then [.inputDecorator] else []) n).exec
      (ruleContext unit types) s = _ :=
    fun s => exec_visit_switched o.preferInputSignal (exec_offer_inputDecorator n)
  have hfourth : ∀ s, (visit (if o.preferQuerySignal then [.queryDecorator] else []) n).exec
      (ruleContext unit types) s = _ :=
    fun s => exec_visit_switched o.preferQuerySignal (exec_offer_queryDecorator n)
  refine ⟨((s₁.report
      (if o.preferReadonly then Check.fieldFinding o unit.path (types.services? unit) n
        else none)).report
      (if o.preferInputSignal then Check.inputFinding unit.path n else none)).report
      (if o.preferQuerySignal then Check.queryFinding unit.path n else none),
    ?_, ?_, hserv, hacq⟩
  · -- the four checks are run one after the other, each from the state that the last one left
    unfold RuleOptions.checks
    rw [visit_append, visit_append, visit_append, exec_bind, exec_bind, exec_bind, hfirst]
    simp only [hsecond, hthird]
    exact hfourth _
  · -- four reports of at most one diagnostic each are the findings, and these are the verdict
    rw [← RuleOptions.findings_eq_verdict]
    simp only [RunState.report, hdiag, RuleOptions.findings, List.append_assoc]

/-- A node that asks for types in vain ends the run before anything is reported of it. -/
theorem exec_visit_refused (hs : s.Sound (ruleContext unit types)) (hask : o.asksTypes n = true)
    (hsup : types.services? unit = none) :
    (visit o.checks n).exec (ruleContext unit types) s =
      (.error (.noTypeInformation unit.path ruleName), s) := by
  obtain ⟨hon, hfield⟩ := Bool.and_eq_true_iff.1 hask
  have hfirst : (visit (if o.typesToReplace.isEmpty then [] else
      [.construction o.typesToReplace]) n).exec (ruleContext unit types) s = _ :=
    exec_visit_construction
  -- the check before has nothing to say of a field
  have hnone : Check.constructionFinding unit.path o.typesToReplace n = none := by
    obtain ⟨f, e, rfl, -⟩ := exists_of_fieldAsks hfield
    rfl
  rw [hnone, RunState.report_none] at hfirst
  have hsecond : (visit (if o.preferReadonly then [.mutableField o] else []) n).exec
      (ruleContext unit types) s = (.error (.noTypeInformation unit.path ruleName), s) := by
    rw [if_pos hon, visit_singleton]
    exact exec_offer_mutableField_refused hfield hs hsup
  unfold RuleOptions.checks
  rw [visit_append, visit_append, visit_append, exec_bind, exec_bind, exec_bind, hfirst]
  simp only [hsecond]

end RunM

/-! ### A run -/

/-- **The invariant of a run.** After some nodes the diagnostics are the verdicts of these nodes,
and type services were built, once, exactly if one of them asked for types. -/
structure Progress (o : RuleOptions) (unit : SourceUnit) (types : TypeSupply) (done : List Node)
    (s : RunState) : Prop where
  diagnostics : s.diagnostics = done.filterMap (o.verdict unit.path (types.services? unit))
  services : s.services = if done.any o.asksTypes then types.services? unit else none
  acquired : s.acquired = if done.any o.asksTypes then 1 else 0

namespace Progress

variable {o : RuleOptions} {unit : SourceUnit} {types : TypeSupply} {done : List Node}
  {s : RunState} {n : Node}

theorem initial (o : RuleOptions) (unit : SourceUnit) (types : TypeSupply) :
    Progress o unit types [] {} := ⟨rfl, rfl, rfl⟩

theorem sound (h : Progress o unit types done s) : s.Sound (ruleContext unit types) := by
  cases hany : done.any o.asksTypes with
  | true => exact Or.inr (by rw [h.services, hany]; rfl)
  | false => exact Or.inl (by rw [h.services, hany]; rfl)

/-- The invariant is kept by every node that is visited to the end. -/
theorem step {s' : RunState} (h : Progress o unit types done s)
    (hsup : o.asksTypes n = true → (types.services? unit).isSome = true)
    (hs : s.Visited o unit types n s') : Progress o unit types (done ++ [n]) s' where
  diagnostics := by
    rw [hs.diagnostics, h.diagnostics, List.filterMap_append, List.filterMap_cons,
      List.filterMap_nil]
    cases o.verdict unit.path (types.services? unit) n <;> rfl
  services := by
    rw [hs.services, h.services, List.any_append, List.any_cons, List.any_nil, Bool.or_false]
    cases o.asksTypes n <;> cases done.any o.asksTypes <;> rfl
  acquired := by
    rw [hs.acquired, h.acquired, h.services, List.any_append, List.any_cons, List.any_nil,
      Bool.or_false]
    cases hask : o.asksTypes n with
    | false => rw [Bool.or_false, Bool.false_and]; rfl
    | true =>
      -- services that were there before need not be built again
      obtain ⟨services, hsv⟩ := Option.isSome_iff_exists.1 (hsup hask)
      cases done.any o.asksTypes <;> simp [hsv]

/-- **A run that is never refused services** visits all its nodes. -/
theorem run (h : Progress o unit types done s) (nodes : List Node)
    (hsup : ∀ n ∈ nodes, o.asksTypes n = true → (types.services? unit).isSome = true) :
    ∃ s', (RunM.run o.checks nodes).exec (ruleContext unit types) s = (.ok (), s') ∧
      Progress o unit types (done ++ nodes) s' := by
  -- on the nodes that are left; the invariant speaks of those that are done
  induction nodes generalizing done s with
  | nil => exact ⟨s, rfl, by rwa [List.append_nil]⟩
  | cons n nodes ih =>
    obtain ⟨s₁, hrun, hvisited⟩ := RunM.exec_visit (n := n) h.sound (hsup n List.mem_cons_self)
    have hnext := h.step (hsup n List.mem_cons_self) hvisited
    obtain ⟨s₂, hrest, hdone⟩ := ih hnext fun m hm => hsup m (List.mem_cons_of_mem n hm)
    refine ⟨s₂, ?_, by rwa [List.append_assoc] at hdone⟩
    change (RunM.visit o.checks n >>= fun _ => RunM.run o.checks nodes).exec _ s = _
    rw [RunM.exec_bind_ok hrun]
    exact hrest

/-- **A run that is refused services** ends at the first node that asks, with the verdicts of the
nodes before it. -/
theorem run_refused (h : Progress o unit types done s) (before rest : List Node)
    (hsup : types.services? unit = none) (hbefore : ∀ m ∈ before, o.asksTypes m = false)
    (hask : o.asksTypes n = true) :
    ∃ s', (RunM.run o.checks (before ++ n :: rest)).exec (ruleContext unit types) s =
        (.error (.noTypeInformation unit.path ruleName), s') ∧
      Progress o unit types (done ++ before) s' := by
  obtain ⟨s₁, hrun, hdone⟩ := h.run before fun m hm hm' => by
    rw [hbefore m hm] at hm'
    cases hm'
  refine ⟨s₁, ?_, hdone⟩
  -- the nodes before ask for nothing, so they are visited to the end
  have hsplit : RunM.run o.checks (before ++ n :: rest) =
      RunM.run o.checks before >>= fun _ => RunM.run o.checks (n :: rest) := List.forM_append
  rw [hsplit, RunM.exec_bind_ok hrun]
  change (RunM.visit o.checks n >>= fun _ => RunM.run o.checks rest).exec _ s₁ = _
  exact RunM.exec_bind_error (RunM.exec_visit_refused hdone.sound hask hsup)

end Progress

section RunRule

variable {o : RuleOptions} {unit : SourceUnit} {types : TypeSupply}

theorem progress_runRule
    (hsup : ∀ n ∈ unit.nodes, o.asksTypes n = true → (types.services? unit).isSome = true) :
    (runRule o unit types).1 = .ok () ∧
      Progress o unit types unit.nodes (runRule o unit types).2 := by
  obtain ⟨s, hrun, hdone⟩ := (Progress.initial o unit types).run unit.nodes hsup
  rw [runRule_eq, hrun]
  exact ⟨rfl, hdone⟩

/-- A run that asks for services in vain ends at the first node that asks, with the verdicts of the
nodes before it. -/
theorem exists_refusal (hsup : types.services? unit = none)
    (hask : ∃ n ∈ unit.nodes, o.asksTypes n = true) :
    ∃ before n rest s, unit.nodes = before ++ n :: rest ∧
      (∀ m ∈ before, o.asksTypes m = false) ∧ o.asksTypes n = true ∧
      runRule o unit types = (.error (.noTypeInformation unit.path ruleName), s) ∧
      Progress o unit types before s := by
  obtain ⟨m, hm, hask⟩ := hask
  obtain ⟨n, hfind⟩ : ∃ n, unit.nodes.find? o.asksTypes = some n := by
    cases hfind : unit.nodes.find? o.asksTypes with
    | some n => exact ⟨n, rfl⟩
    | none => exact absurd hask (List.find?_eq_none.1 hfind m hm)
  obtain ⟨hn, before, rest, hnodes, hbefore⟩ := List.find?_eq_some_iff_append.1 hfind
  have hquiet : ∀ a ∈ before, o.asksTypes a = false := fun a ha => by simpa using hbefore a ha
  obtain ⟨s, hrun, hdone⟩ :=
    (Progress.initial o unit types).run_refused before rest hsup hquiet hn
  refine ⟨before, n, rest, s, hnodes, hquiet, hn, ?_, hdone⟩
  rw [runRule_eq, hnodes, hrun]

/-- A run succeeds exactly if it has services wherever a node asks for them. -/
theorem runRule_ok_iff :
    (runRule o unit types).1 = .ok () ↔
      ∀ n ∈ unit.nodes, o.asksTypes n = true → (types.services? unit).isSome = true := by
  refine ⟨fun h n hn hask => ?_, fun h => (progress_runRule h).1⟩
  cases hsup : types.services? unit with
  | some services => rfl
  | none =>
    obtain ⟨-, -, -, s, -, -, -, hrun, -⟩ := exists_refusal hsup ⟨n, hn, hask⟩
    rw [hrun] at h
    cases h

theorem Progress.of_ok (h : (runRule o unit types).1 = .ok ()) :
    Progress o unit types unit.nodes (runRule o unit types).2 :=
  (progress_runRule (runRule_ok_iff.1 h)).2

/-! ### Reported fields -/

/-- Whether a field is reported as one that should be readonly. -/
def RuleOptions.reports (o : RuleOptions) (services : Option TypeServices) (f : Field) : Bool :=
  o.preferReadonly && f.kind = .plain && !f.isReadonly && o.isSignal services f

/-- The fields of a unit that are reported, in the order of the nodes. -/
def reportedFields (o : RuleOptions) (unit : SourceUnit) (types : TypeSupply) : List Field :=
  unit.nodes.filterMap fun
    | .field f => if o.reports (types.services? unit) f then some f else none
    | _ => none

theorem mem_reportedFields {f : Field} :
    f ∈ reportedFields o unit types ↔
      Node.field f ∈ unit.nodes ∧ o.reports (types.services? unit) f = true := by
  rw [reportedFields, List.mem_filterMap]
  constructor
  · rintro ⟨n, hn, hf⟩
    cases n with
    | field g =>
      by_cases hreports : o.reports (types.services? unit) g = true
      · obtain rfl : g = f := Option.some.inj ((if_pos hreports).symm.trans hf)
        exact ⟨hn, hreports⟩
      · cases (if_neg hreports).symm.trans hf
    | _ => cases hf
  · rintro ⟨hn, hreports⟩
    exact ⟨.field f, hn, if_pos hreports⟩

/-- The diagnostic of a reported field. -/
def fieldDiagnostic (path : String) (f : Field) : Diagnostic :=
  ruleDiagnostic path f.key.span "preferReadonly" [] [readonlySuggestion f.key]

theorem RuleOptions.verdict_field (o : RuleOptions) (path : String)
    (services : Option TypeServices) (f : Field) :
    o.verdict path services (.field f) =
      if o.reports services f then some (fieldDiagnostic path f) else none := rfl

/-- What is said of a node that is no field has another message and suggests nothing. -/
theorem RuleOptions.of_verdict_eq_some {o : RuleOptions} {path : String}
    {services : Option TypeServices} {n : Node} {d : Diagnostic}
    (h : o.verdict path services n = some d) :
    (∃ f, n = .field f ∧ o.reports services f = true ∧ d = fieldDiagnostic path f) ∨
      (∀ f, n ≠ .field f) ∧ d.messageId ≠ "preferReadonly" ∧ d.suggestions = [] := by
  unfold RuleOptions.verdict at h
  split at h
  · split at h
    · cases h
      exact Or.inr ⟨nofun, ne_of_beq_false rfl, rfl⟩
    · cases h
  · rename_i f
    split at h
    · rename_i hreports
      exact Or.inl ⟨f, rfl, hreports, (Option.some.inj h).symm⟩
    · cases h
  · split at h
    · cases h
    · split at h
      · cases h
        exact Or.inr ⟨nofun, ne_of_beq_false rfl, rfl⟩
      · split at h
        · cases h
          exact Or.inr ⟨nofun, ne_of_beq_false rfl, rfl⟩
        · cases h
  · cases h

/-- **Reported fields are those of the run.** The diagnostics that ask for the modifier are those
of the reported fields, in the same order. -/
theorem filter_preferReadonly (h : (runRule o unit types).1 = .ok ()) :
    (runRule o unit types).2.diagnostics.filter (·.messageId = "preferReadonly") =
      (reportedFields o unit types).map (fieldDiagnostic unit.path) := by
  rw [(Progress.of_ok h).diagnostics, List.filter_filterMap, reportedFields, List.map_filterMap]
  refine List.filterMap_congr fun n _ => ?_
  -- node by node: a verdict with this message is that of a reported field
  cases hverdict : o.verdict unit.path (types.services? unit) n with
  | none =>
    cases n with
    | field f =>
      rw [RuleOptions.verdict_field] at hverdict
      by_cases hreports : o.reports (types.services? unit) f = true
      · rw [if_pos hreports] at hverdict
        cases hverdict
      · simp only [if_neg hreports, Option.filter_none, Option.map_none]
    | _ => rfl
  | some d =>
    rcases RuleOptions.of_verdict_eq_some hverdict with ⟨f, rfl, hreports, rfl⟩ | ⟨hn, hid, -⟩
    · simp only [hreports, if_true, Option.map_some]
      rfl
    · rw [Option.filter_some, decide_eq_false hid]
      cases n with
      | field f => exact absurd rfl (hn f)
      | _ => rfl

/-! ### The verdict without state -/

/-- What a classifier that has seen no field yet says of a field. -/
def freshCandidate (o : RuleOptions) (unit : SourceUnit) (types : TypeSupply) (f : Field) :
    Except RunError Bool :=
  ((RunM.isCandidate o f).exec (ruleContext unit types) {}).1

theorem freshCandidate_eq_true_iff (f : Field) :
    freshCandidate o unit types f = .ok true ↔ o.isSignal (types.services? unit) f = true := by
  have hsound : RunState.Sound (ruleContext unit types) {} := Or.inl rfl
  unfold freshCandidate RuleOptions.isSignal
  cases hj : o.judge f with
  | settled b =>
    rw [RunM.exec_isCandidate_of_settled hj]
    exact ⟨fun h => Except.ok.inj h, congrArg _⟩
  | needsTypes e =>
    cases hsv : types.services? unit with
    | none =>
      rw [RunM.exec_isCandidate_refused hsound hj hsv]
      exact ⟨fun h => (nomatch h), fun h => (nomatch h)⟩
    | some services =>
      obtain ⟨s, hrun, -⟩ := RunM.exec_isCandidate (f := f) hsound hj hsv
      rw [hrun]
      exact ⟨fun h => Except.ok.inj h, congrArg _⟩

end RunRule

/-- **What a node alone gives rise to.** There is one rule for each message; the rule for fields
asks a classifier without history. -/
inductive Warrants (o : RuleOptions) (unit : SourceUnit) (types : TypeSupply) :
    Node → Diagnostic → Prop where
  /-- A `new` expression of one of the given constructors, at the constructor. -/
  | construction {name : String} {span whole : Span} {arguments : List Expression}
      {typeArguments : List TypeNode} (listed : name ∈ o.typesToReplace) :
      Warrants o unit types
        (.expression (.construct (.identifier name span) arguments typeArguments whole))
        (ruleDiagnostic unit.path span "preferSignal" [("type", .text name)] [])
  /-- A plain field that is not readonly and holds a signal, at its key, with the one suggestion
  to insert the modifier there. -/
  | mutableField {f : Field} (on : o.preferReadonly = true) (plain : f.kind = .plain)
      (isMutable : f.isReadonly = false) (candidate : freshCandidate o unit types f = .ok true) :
      Warrants o unit types (.field f)
        { ruleDiagnostic unit.path f.key.span "preferReadonly" [] [] with
          suggestions := [{
            messageId := "suggestAddReadonlyModifier"
            edit := ⟨f.key.span.startByte, "readonly "⟩
            message := "Add `readonly` modifier" }] }
  /-- An input decorator. -/
  | inputDecorator {d : Decorator} (on : o.preferInputSignal = true)
      (invoked : (Node.decorator d).invokedName? = some "Input") :
      Warrants o unit types (.decorator d)
        (ruleDiagnostic unit.path d.span "preferInputSignal" [] [])
  /-- A decorator that invokes one of the query functions; the pattern for their names also lets
  a line break at the end pass. -/
  | queryDecorator {d : Decorator} {name query : String} (on : o.preferQuerySignal = true)
      (invoked : (Node.decorator d).invokedName? = some name)
      (isQuery : query ∈ ["ContentChild", "ContentChildren", "ViewChild", "ViewChildren"])
      (found : name = query ∨ name = query ++ "\n") :
      Warrants o unit types (.decorator d)
        (ruleDiagnostic unit.path d.span "preferQuerySignal"
          [("function", .text (lowerFirst name)), ("decorator", .text name)] [])

/-- A word that is bound to both ends of a name is the name, up to one last line break. -/
theorem prefix_and_endsBefore_iff (word cs : List Char) :
    (word.isPrefixOf cs && NamePattern.endsBefore true (cs.drop word.length)) = true ↔
      cs = word ∨ cs = word ++ ['\n'] := by
  rw [Bool.and_eq_true, List.isPrefixOf_iff_prefix]
  simp only [NamePattern.endsBefore, Bool.not_true, Bool.false_or, Bool.or_eq_true,
    List.isEmpty_iff, decide_eq_true_eq]
  constructor
  · -- what is behind the word is nothing or one line break
    rintro ⟨⟨rest, rfl⟩, h⟩
    rw [List.drop_left] at h
    rcases h with rfl | rfl
    · exact Or.inl (List.append_nil _)
    · exact Or.inr rfl
  · rintro (rfl | rfl)
    · exact ⟨List.prefix_rfl, Or.inl (by rw [List.drop_length])⟩
    · exact ⟨List.prefix_append _ _, Or.inr (by rw [List.drop_left])⟩

theorem queryPattern_finds_iff (name : String) :
    queryPattern.finds name = true ↔
      ∃ query ∈ queryDecorators, name = query ∨ name = query ++ "\n" := by
  change queryPattern.matchesHere name.toList = true ↔ _
  unfold NamePattern.matchesHere
  rw [List.any_eq_true]
  refine exists_congr fun query => and_congr_right fun _ => ?_
  refine (prefix_and_endsBefore_iff query.toList name.toList).trans (or_congr ?_ ?_)
  · exact String.toList_inj
  · rw [← String.toList_inj, String.toList_append]
    rfl

theorem render_readonlySuggestion (key : Expression) :
    (readonlySuggestion key).render ruleMessages =
      { messageId := "suggestAddReadonlyModifier"
        edit := ⟨key.span.startByte, "readonly "⟩
        message := "Add `readonly` modifier" } := by
  have hmessage : formatMessage ((ruleMessages.template? "suggestAddReadonlyModifier").getD
      "suggestAddReadonlyModifier") [] = "Add `readonly` modifier" := by decide +kernel
  simp only [Suggestion.render, readonlySuggestion, hmessage]
  rfl

/-- The verdict is what is warranted, for every kind of node and every choice of checks. -/
theorem RuleOptions.verdict_eq_some_iff {o : RuleOptions} {unit : SourceUnit} {types : TypeSupply}
    {n : Node} {d : Diagnostic} :
    o.verdict unit.path (types.services? unit) n = some d ↔ Warrants o unit types n d := by
  constructor
  · intro h
    unfold RuleOptions.verdict at h
    -- one case for each branch of the verdict that reports something
    split at h
    · split at h
      · cases h
        exact .construction (List.contains_iff_mem.1 ‹_›)
      · cases h
    · split at h
      · rename_i hall
        simp only [Bool.and_eq_true, decide_eq_true_eq, Bool.not_eq_true'] at hall
        obtain ⟨⟨⟨hon, hplain⟩, hmut⟩, hsignal⟩ := hall
        cases h
        have hwarrants : Warrants o unit types _ _ :=
          .mutableField hon hplain hmut ((freshCandidate_eq_true_iff _).2 hsignal)
        rwa [← render_readonlySuggestion] at hwarrants
      · cases h
    · split at h
      · cases h
      · rename_i hname
        split at h
        · rename_i hall
          simp only [Bool.and_eq_true, decide_eq_true_eq] at hall
          cases h
          exact .inputDecorator hall.1 (hall.2 ▸ hname)
        · split at h
          · rename_i hall
            rw [Bool.and_eq_true, queryPattern_finds_iff] at hall
            obtain ⟨hon, query, hquery, hfound⟩ := hall
            cases h
            exact .queryDecorator hon hname hquery hfound
          · cases h
    · cases h
  · intro h
    cases h with
    | construction listed => exact if_pos (List.contains_iff_mem.2 listed)
    | @mutableField f on plain isMutable candidate =>
      have hsignal := (freshCandidate_eq_true_iff f).1 candidate
      rw [← render_readonlySuggestion]
      simp only [RuleOptions.verdict, on, plain, isMutable, hsignal, decide_true, Bool.not_false,
        Bool.and_self, if_true]
      rfl
    | @inputDecorator d on invoked =>
      have hname : Node.callee? d.expression = some "Input" := invoked
      simp only [RuleOptions.verdict, hname, on, decide_true, Bool.and_self, if_true]
    | @queryDecorator d name query on invoked isQuery found =>
      have hname : Node.callee? d.expression = some name := invoked
      have hfinds := (queryPattern_finds_iff name).2 ⟨query, isQuery, found⟩
      -- a query decorator is no input decorator, so the first test fails
      have hne : name ≠ "Input" := by
        rintro rfl
        rw [queryPattern_finds_input] at hfinds
        cases hfinds
      simp only [RuleOptions.verdict, hname, hne, on, hfinds, decide_false, Bool.and_false,
        Bool.and_self, if_true, Bool.false_eq_true, if_false]
      rfl

/-- A unit in which every check finds something: the field `count` is initialized by a function
that is declared to return a signal. -/
def samplePanel : SourceUnit where
  path := "panel.ts"
  nodes := [
    .field ⟨.plain, .identifier "count" { startByte := 40 }, none,
      some (.call (.identifier "makeCount" {}) [] [] {}), false, false, [], some "Panel", {}⟩,
    .expression (.construct (.identifier "BehaviorSubject" { startByte := 70 }) [] [] {}),
    .decorator ⟨.call (.identifier "Input" {}) [] [] {}, { startByte := 90 }⟩,
    .decorator ⟨.call (.identifier "ViewChild" {}) [] [] {}, { startByte := 110 }⟩]
  declarations := {
    functions := ⟨[("makeCount", some (.reference (.simple "WritableSignal" {}) [] {}))]⟩ }

end SignalLint
