import Mathlib.Data.List.Flatten
import SignalLint.Proofs.Rule.Verdict

/-!
# Checks do not interfere

The checks of the rule share a run: one table of listeners, one list of nodes, one list of
diagnostics and one set of options. The main statement, `filter_diagnostics_of_sameSettings`, says
that they have nothing to do with one another all the same. What is reported on one topic depends
on the settings of this topic alone, and to switch a topic off takes its diagnostics out of the
list and leaves the others as they are.

* `entries_ofList_checks` — no two checks have the same selector, so a table of listeners that is
  keyed by selectors keeps them all.
* `callShape_of_subset` — how the call shape of an initializer depends on the functions that create
  signals: with more functions a shape stays as it is, or the inconclusive one turns into a call of
  a signal function.
* `RuleOptions.finding` — what the check for a topic finds at a node; `finding_congr` says which
  settings it looks at, and `messageId_of_finding` that a diagnostic shows its topic.
* `diagnostics_eq_flatMap` — a run that succeeds reports, node by node, what is found on each topic.
-/

namespace SignalLint

/-! ### Topics -/

/-- What a diagnostic of the rule is about. There is one topic for each check. -/
inductive Topic where
  /-- `new` expressions of legacy observables. -/
  | observable
  /-- Signal fields without the modifier. -/
  | mutableField
  | input
  | query
  deriving DecidableEq, Repr, Inhabited

namespace Topic

/-- Every topic, in the order in which a node is handed to their checks. -/
def all : List Topic := [observable, mutableField, input, query]

/-- The message under which a topic is reported. -/
def messageId : Topic → String
  | observable => "preferSignal"
  | mutableField => "preferReadonly"
  | input => "preferInputSignal"
  | query => "preferQuerySignal"

/-- Whether two options have the same settings for a topic. Of names it counts which are listed. -/
def SameSettings : Topic → RuleOptions → RuleOptions → Prop
  | observable, o, o' => ∀ name, name ∈ o.typesToReplace ↔ name ∈ o'.typesToReplace
  | mutableField, o, o' =>
    o.preferReadonly = o'.preferReadonly ∧ o.useTypeChecking = o'.useTypeChecking ∧
      ∀ name, name ∈ o.signalCreationFunctions ↔ name ∈ o'.signalCreationFunctions
  | input, o, o' => o.preferInputSignal = o'.preferInputSignal
  | query, o, o' => o.preferQuerySignal = o'.preferQuerySignal

theorem messageId_injective : Function.Injective messageId := by
  intro s t h
  cases s <;> cases t <;> first | rfl | exact absurd h (by decide)

end Topic

/-- The options with a topic switched off. -/
def RuleOptions.without (o : RuleOptions) : Topic → RuleOptions
  | .observable => { o with typesToReplace := [] }
  | .mutableField => { o with preferReadonly := false }
  | .input => { o with preferInputSignal := false }
  | .query => { o with preferQuerySignal := false }

theorem Topic.sameSettings_without {s t : Topic} (h : s ≠ t) (o : RuleOptions) :
    s.SameSettings (o.without t) o := by
  cases s with
  | mutableField =>
    cases t with
    | mutableField => exact absurd rfl h
    | _ => exact ⟨rfl, rfl, fun _ => Iff.rfl⟩
  | observable =>
    cases t with
    | observable => exact absurd rfl h
    | _ => exact fun _ => Iff.rfl
  | input =>
    cases t with
    | input => exact absurd rfl h
    | _ => rfl
  | query =>
    cases t with
    | query => exact absurd rfl h
    | _ => rfl

/-! ### One table of listeners -/

/-- No two checks have the same selector. -/
theorem nodup_selector_checks (o : RuleOptions) : (o.checks.map (·.selector)).Nodup := by
  have hdistinct : [Selector.construction, .mutableField, .inputDecorator, .queryDecorator].Nodup := by
    decide
  -- the checks that are switched on are some of the four, in this order
  have hswitched : ∀ (on : Bool) (c : Check),
      ((if on then [c] else []).map (·.selector)).Sublist [c.selector] := by
    intro on c
    cases on with
    | true => exact List.Sublist.refl _
    | false => exact List.nil_sublist _
  have hfirst : ((if o.typesToReplace.isEmpty then [] else
      [Check.construction o.typesToReplace]).map (·.selector)).Sublist [Selector.construction] := by
    cases o.typesToReplace.isEmpty with
    | true => exact List.nil_sublist _
    | false => exact List.Sublist.refl _
  refine hdistinct.sublist ?_
  unfold RuleOptions.checks
  rw [List.map_append, List.map_append, List.map_append]
  exact ((hfirst.append (hswitched _ (.mutableField o))).append
    (hswitched _ .inputDecorator)).append (hswitched _ .queryDecorator)

/-- A table of listeners that is keyed by selectors holds every check, in the order of the checks. -/
theorem entries_ofList_checks (o : RuleOptions) :
    (Table.ofList (o.checks.map fun c => (c.selector, c.visit))).entries =
      o.checks.map fun c => (c.selector, c.visit) := by
  refine Table.entries_insertAll ?_
  rw [List.map_map]
  exact nodup_selector_checks o

/-! ### Call shapes -/

section CallShape

variable {functions functions' : List String}

/-- With more functions a plain callee is read as before, or is a signal function now. -/
theorem plainShape_of_subset (h : functions ⊆ functions') (e : Expression) :
    plainShape functions' e = plainShape functions e ∨
      plainShape functions e = .inconclusive ∧ plainShape functions' e = .signalFactory := by
  cases e with
  | identifier name span =>
    simp only [plainShape, List.contains_iff_mem]
    by_cases hname : name ∈ functions
    · rw [if_pos hname, if_pos (h hname)]
      exact Or.inl rfl
    · by_cases hname' : name ∈ functions'
      · rw [if_neg hname, if_pos hname']
        exact Or.inr ⟨rfl, rfl⟩
      · rw [if_neg hname, if_neg hname']
        exact Or.inl rfl
  | _ => exact Or.inl rfl

theorem calleeShape_of_subset (h : functions ⊆ functions') (e : Expression) :
    calleeShape functions' e = calleeShape functions e ∨
      calleeShape functions e = .inconclusive ∧ calleeShape functions' e = .signalFactory := by
  cases e with
  | member object property computed optional span =>
    cases property with
    | identifier name nameSpan =>
      simp only [calleeShape]
      by_cases hname : name ≠ requiredMember
      · -- a member with another name settles the call, whatever the functions
        rw [if_pos hname, if_pos hname]
        exact Or.inl rfl
      · rw [if_neg hname, if_neg hname]
        exact plainShape_of_subset h object
    | _ => exact plainShape_of_subset h object
  | identifier name span => exact plainShape_of_subset h (.identifier name span)
  | _ => exact Or.inl rfl

/-- **With more functions** the shape of an initializer stays as it is, or it was inconclusive and
is now that of a signal. -/
theorem callShape_of_subset (h : functions ⊆ functions') (e : Expression) :
    callShape functions' e = callShape functions e ∨
      callShape functions e = .inconclusive ∧ callShape functions' e = .signalFactory := by
  cases e with
  | call callee arguments typeArguments span => exact calleeShape_of_subset h callee
  | _ => exact Or.inl rfl

/-- Of the functions it only counts which are listed. -/
theorem callShape_congr (h : ∀ name, name ∈ functions ↔ name ∈ functions') (e : Expression) :
    callShape functions e = callShape functions' e := by
  rcases callShape_of_subset (fun name => (h name).1) e with hsame | ⟨hopen, hsettled⟩
  · exact hsame.symm
  · -- the shape cannot turn into the other one in both directions
    rcases callShape_of_subset (fun name => (h name).2) e with hsame | ⟨hopen', -⟩
    · exact hsame
    · rw [hsettled] at hopen'
      cases hopen'

end CallShape

/-! ### Findings by topic -/

namespace RuleOptions

variable {o o' : RuleOptions} {path : String} {services : Option TypeServices} {n : Node}

/-- What the check for a topic finds at a node, if it is switched on. -/
def finding (o : RuleOptions) (path : String) (services : Option TypeServices) (n : Node) :
    Topic → Option Diagnostic
  | .observable => Check.constructionFinding path o.typesToReplace n
  | .mutableField => if o.preferReadonly then Check.fieldFinding o path services n else none
  | .input => if o.preferInputSignal then Check.inputFinding path n else none
  | .query => if o.preferQuerySignal then Check.queryFinding path n else none

theorem findings_eq_flatMap :
    o.findings path services n = Topic.all.flatMap fun t => (o.finding path services n t).toList := by
  simp only [findings, finding, Topic.all, List.flatMap_cons, List.flatMap_nil, List.append_nil,
    List.append_assoc]

theorem constructionFinding_congr {types types' : List String}
    (h : ∀ name, name ∈ types ↔ name ∈ types') :
    Check.constructionFinding path types n = Check.constructionFinding path types' n := by
  unfold Check.constructionFinding
  split
  · simp only [List.contains_iff_mem, h]
  · rfl

/-- Nothing is found among no constructors. -/
theorem constructionFinding_nil : Check.constructionFinding path [] n = none := by
  unfold Check.constructionFinding
  split <;> rfl

theorem creationFunctions_congr
    (h : ∀ name, name ∈ o.signalCreationFunctions ↔ name ∈ o'.signalCreationFunctions) (name : String) :
    name ∈ o.creationFunctions ↔ name ∈ o'.creationFunctions := by
  simp only [creationFunctions, List.mem_append, h]

/-- A field is judged by the functions that create signals and by whether types may be used. -/
theorem judge_congr (htypes : o.useTypeChecking = o'.useTypeChecking)
    (h : ∀ name, name ∈ o.signalCreationFunctions ↔ name ∈ o'.signalCreationFunctions) (f : Field) :
    o.judge f = o'.judge f := by
  unfold judge
  simp only [htypes, callShape_congr (creationFunctions_congr h)]

/-- **A check looks at the settings of its topic**, and at no others. -/
theorem finding_congr {t : Topic} (h : t.SameSettings o o') :
    o.finding path services n t = o'.finding path services n t := by
  cases t with
  | observable => exact constructionFinding_congr h
  | mutableField =>
    obtain ⟨hon, htypes, hfunctions⟩ := h
    have hsignal : ∀ f, o.isSignal services f = o'.isSignal services f := fun f => by
      simp only [isSignal, judge_congr htypes hfunctions f]
    simp only [finding, hon, Check.fieldFinding, hsignal]
  | input =>
    have hon : o.preferInputSignal = o'.preferInputSignal := h
    simp only [finding, hon]
  | query =>
    have hon : o.preferQuerySignal = o'.preferQuerySignal := h
    simp only [finding, hon]

/-- Nothing is found on a topic that is switched off, and what is found on the others stays. -/
theorem finding_without (s t : Topic) :
    (o.without t).finding path services n s =
      if s = t then none else o.finding path services n s := by
  by_cases h : s = t
  · subst h
    rw [if_pos rfl]
    cases s with
    | observable => exact constructionFinding_nil
    | _ => rfl
  · rw [if_neg h]
    exact finding_congr (Topic.sameSettings_without h o)

theorem messageId_of_ite {p : Prop} [Decidable p] {span : Span} {id : String}
    {data : List (String × Value)} {suggestions : List Suggestion} {d : Diagnostic}
    (h : (if p then some (ruleDiagnostic path span id data suggestions) else none) = some d) :
    d.messageId = id := by
  obtain ⟨-, hd⟩ := Option.ite_none_right_eq_some.1 h
  rw [← Option.some.inj hd]
  rfl

/-- A diagnostic shows its topic. -/
theorem messageId_of_finding {t : Topic} {d : Diagnostic}
    (h : o.finding path services n t = some d) : d.messageId = t.messageId := by
  cases t with
  | observable =>
    simp only [finding, Check.constructionFinding] at h
    split at h
    · exact messageId_of_ite h
    · cases h
  | mutableField =>
    obtain ⟨-, hfound⟩ := Option.ite_none_right_eq_some.1 h
    unfold Check.fieldFinding at hfound
    split at hfound
    · exact messageId_of_ite hfound
    · cases hfound
  | input =>
    obtain ⟨-, hfound⟩ := Option.ite_none_right_eq_some.1 h
    unfold Check.inputFinding at hfound
    split at hfound
    · exact messageId_of_ite hfound
    · cases hfound
  | query =>
    obtain ⟨-, hfound⟩ := Option.ite_none_right_eq_some.1 h
    unfold Check.queryFinding at hfound
    split at hfound
    · split at hfound
      · exact messageId_of_ite hfound
      · cases hfound
    · cases hfound

/-- A filter on messages keeps or drops what is found on a topic as a whole. -/
theorem filter_finding (keep : String → Bool) (s : Topic) :
    (o.finding path services n s).toList.filter (fun d => keep d.messageId) =
      if keep s.messageId then (o.finding path services n s).toList else [] := by
  cases hfound : o.finding path services n s with
  | none => exact (ite_self _).symm
  | some d =>
    rw [Option.toList_some, List.filter_singleton, messageId_of_finding hfound]
    cases keep s.messageId <;> rfl

/-- The findings at a node that show a topic are those of the check for the topic. -/
theorem filter_findings_eq (t : Topic) :
    (o.findings path services n).filter (·.messageId = t.messageId) =
      (o.finding path services n t).toList := by
  have hkept : ∀ s, (o.finding path services n s).toList.filter (·.messageId = t.messageId) =
      if s = t then (o.finding path services n s).toList else [] := by
    intro s
    refine (filter_finding (fun id => decide (id = t.messageId)) s).trans ?_
    simp only [decide_eq_true_eq, Topic.messageId_injective.eq_iff]
  rw [findings_eq_flatMap, List.filter_flatMap, List.flatMap_congr fun s _ => hkept s]
  -- of the four topics one is left
  cases t <;>
    simp only [Topic.all, List.flatMap_cons, List.flatMap_nil, reduceCtorEq, if_true, if_false,
      List.nil_append, List.append_nil]

/-- The findings that show another topic are those with the topic switched off. -/
theorem filter_findings_ne (t : Topic) :
    (o.findings path services n).filter (·.messageId ≠ t.messageId) =
      (o.without t).findings path services n := by
  rw [findings_eq_flatMap, findings_eq_flatMap, List.filter_flatMap]
  refine List.flatMap_congr fun s _ => ?_
  refine (filter_finding (fun id => decide (id ≠ t.messageId)) s).trans ?_
  simp only [decide_eq_true_eq, finding_without, ne_eq, Topic.messageId_injective.eq_iff]
  by_cases h : s = t
  · rw [if_neg (not_not_intro h), if_pos h]
    rfl
  · rw [if_pos h, if_neg h]

/-- Without a topic a run asks for types no more often than with it. -/
theorem asksTypes_of_without {t : Topic} (h : (o.without t).asksTypes n = true) :
    o.asksTypes n = true := by
  cases t with
  | mutableField => cases h
  | _ => exact h

end RuleOptions

/-! ### Runs -/

section RunRule

variable {o o' : RuleOptions} {unit : SourceUnit} {types : TypeSupply}

/-- A run reports, node by node and topic by topic, what the checks find. -/
theorem diagnostics_eq_flatMap (h : (runRule o unit types).1 = .ok ()) :
    (runRule o unit types).2.diagnostics =
      unit.nodes.flatMap (o.findings unit.path (types.services? unit)) := by
  rw [(Progress.of_ok h).diagnostics, List.filterMap_eq_flatMap_toList]
  exact List.flatMap_congr fun n _ => (RuleOptions.findings_eq_verdict _ _ n).symm

/-- A run that succeeds also succeeds with a topic switched off. -/
theorem runRule_without_ok (h : (runRule o unit types).1 = .ok ()) (t : Topic) :
    (runRule (o.without t) unit types).1 = .ok () :=
  runRule_ok_iff.2 fun n hn hasks =>
    runRule_ok_iff.1 h n hn (RuleOptions.asksTypes_of_without hasks)

/-- **Checks do not interfere.** Take two runs over one unit that succeed. On a topic for which both
have the same settings they report the same diagnostics, in the same order, with the same
suggestions, whatever the other settings are. Hence a run with a topic switched off succeeds, and
it reports what the run with the topic reports, without the diagnostics on the topic. -/
theorem filter_diagnostics_of_sameSettings (h : (runRule o unit types).1 = .ok ())
    (h' : (runRule o' unit types).1 = .ok ()) :
    (∀ t : Topic, t.SameSettings o o' →
        (runRule o unit types).2.diagnostics.filter (·.messageId = t.messageId) =
          (runRule o' unit types).2.diagnostics.filter (·.messageId = t.messageId)) ∧
      ∀ t : Topic,
        (runRule (o.without t) unit types).1 = .ok () ∧
          (runRule (o.without t) unit types).2.diagnostics =
            (runRule o unit types).2.diagnostics.filter (·.messageId ≠ t.messageId) := by
  constructor
  · intro t hsame
    rw [diagnostics_eq_flatMap h, diagnostics_eq_flatMap h', List.filter_flatMap,
      List.filter_flatMap]
    -- node by node, the two runs find the same on the topic
    refine List.flatMap_congr fun n _ => ?_
    rw [RuleOptions.filter_findings_eq, RuleOptions.filter_findings_eq,
      RuleOptions.finding_congr hsame]
  · intro t
    have hwithout := runRule_without_ok h t
    refine ⟨hwithout, ?_⟩
    rw [diagnostics_eq_flatMap h, diagnostics_eq_flatMap hwithout, List.filter_flatMap]
    -- node by node, what is found on the other topics is left
    exact List.flatMap_congr fun n _ => (RuleOptions.filter_findings_ne t).symm

end RunRule

/-- Options that differ from the default in all but the setting for input decorators. -/
def inputOnly : RuleOptions where
  typesToReplace := []
  preferReadonly := false
  preferInputSignal := true
  preferQuerySignal := false
  useTypeChecking := false
  signalCreationFunctions := ["makeCount"]

/-- On `samplePanel` the input decorator is reported alike by a run that reports nothing else. -/
theorem filter_diagnostics_of_sameSettings_samplePanel :
    let all := (runRule .default samplePanel .declarations).2.diagnostics
    (runRule inputOnly samplePanel .declarations).2.diagnostics.map (·.span.startByte) = [90] ∧
      all.filter (·.messageId = "preferInputSignal") =
        (runRule inputOnly samplePanel .declarations).2.diagnostics.filter
          (·.messageId = "preferInputSignal") ∧
      (runRule (RuleOptions.default.without .mutableField) samplePanel .declarations).2.diagnostics =
        all.filter (·.messageId ≠ "preferReadonly") := by
  intro all
  have h : (runRule .default samplePanel .declarations).1 = .ok () := rfl
  have h' : (runRule inputOnly samplePanel .declarations).1 = .ok () := rfl
  obtain ⟨hsame, hwithout⟩ := filter_diagnostics_of_sameSettings h h'
  exact ⟨rfl, hsame .input rfl, (hwithout .mutableField).2⟩

end SignalLint
