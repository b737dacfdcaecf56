import SignalLint.Proofs.Rule.Topics

/-!
# Options are monotone

Options are ordered by what they ask for: `o.Within o'` says that `o'` lists all names that `o`
lists and has all flags on that `o` has on. The main statement, `diagnostics_sublist_of_within`,
says that a run which is asked for more reports no less, in the same order.

For fields this needs an argument. A longer list of functions takes fields away from the type
services, and a call through an unsupported member settles a field before the services are asked.
But a shape that changes turns into that of a signal function (`callShape_of_subset`), and a shape
that settles a field against it does so under all options.

* `RuleOptions.isSignal_of_within` — a field that is a signal stays one.
* `RuleOptions.finding_of_within` — what is found on a topic is found again, as the same diagnostic.
* `RuleOptions.within_addCreationFunction` — a further function asks for more.
-/

namespace SignalLint

namespace RuleOptions

/-- **The order of options**: `o'` asks for whatever `o` asks for. -/
structure Within (o o' : RuleOptions) : Prop where
  typesToReplace : o.typesToReplace ⊆ o'.typesToReplace
  preferReadonly : o.preferReadonly = true → o'.preferReadonly = true
  preferInputSignal : o.preferInputSignal = true → o'.preferInputSignal = true
  preferQuerySignal : o.preferQuerySignal = true → o'.preferQuerySignal = true
  useTypeChecking : o.useTypeChecking = true → o'.useTypeChecking = true
  signalCreationFunctions : o.signalCreationFunctions ⊆ o'.signalCreationFunctions

theorem Within.refl (o : RuleOptions) : o.Within o where
  typesToReplace := List.Subset.refl _
  preferReadonly := id
  preferInputSignal := id
  preferQuerySignal := id
  useTypeChecking := id
  signalCreationFunctions := List.Subset.refl _

/-- A further function that creates signals asks for more. -/
theorem within_addCreationFunction (o : RuleOptions) (name : String) :
    o.Within { o with signalCreationFunctions := name :: o.signalCreationFunctions } :=
  { Within.refl o with signalCreationFunctions := List.subset_cons_self name _ }

variable {o o' : RuleOptions} {path : String} {services : Option TypeServices} {n : Node}

theorem Within.creationFunctions (h : o.Within o') : o.creationFunctions ⊆ o'.creationFunctions :=
  List.append_subset.2 ⟨List.subset_append_left _ _,
    List.Subset.trans h.signalCreationFunctions (List.subset_append_right _ _)⟩

/-! ### What stays reported -/

/-- **A signal stays a signal.** -/
theorem isSignal_of_within (h : o.Within o') {f : Field} (hsignal : o.isSignal services f = true) :
    o'.isSignal services f = true := by
  unfold isSignal judge at hsignal ⊢
  cases hdeclared : f.declaredType with
  | some type =>
    -- a declared type is looked at alone
    simpa only [hdeclared] using hsignal
  | none =>
    cases hvalue : f.value with
    | none => simp only [hdeclared, hvalue, Bool.false_eq_true] at hsignal
    | some value =>
      simp only [hdeclared, hvalue] at hsignal ⊢
      rcases callShape_of_subset h.creationFunctions value with hsame | ⟨-, hfactory⟩
      · rw [hsame]
        cases hshape : callShape o.creationFunctions value with
        | signalFactory => rfl
        | unsupportedMember => simp only [hshape, Bool.false_eq_true] at hsignal
        | inconclusive =>
          cases huses : o.useTypeChecking with
          | false => simp [hshape, huses] at hsignal
          | true =>
            -- the services are asked under both options, for the same initializer
            simpa [hshape, huses, h.useTypeChecking huses] using hsignal
      · rw [hfactory]

/-- What is found on a topic is found again. -/
theorem finding_of_within (h : o.Within o') {t : Topic} {d : Diagnostic}
    (hd : o.finding path services n t = some d) : o'.finding path services n t = some d := by
  cases t with
  | observable =>
    simp only [finding, Check.constructionFinding] at hd ⊢
    split at hd
    · obtain ⟨hlisted, hd⟩ := Option.ite_none_right_eq_some.1 hd
      have hlisted' := h.typesToReplace (List.contains_iff_mem.1 hlisted)
      rw [if_pos (List.contains_iff_mem.2 hlisted'), hd]
    · cases hd
  | mutableField =>
    obtain ⟨hon, hfound⟩ := Option.ite_none_right_eq_some.1 hd
    have hfound' : Check.fieldFinding o' path services n = some d := by
      unfold Check.fieldFinding at hfound ⊢
      split at hfound
      · obtain ⟨⟨hplain, hmutable, hsignal⟩, hd⟩ := Option.ite_none_right_eq_some.1 hfound
        rw [if_pos ⟨hplain, hmutable, isSignal_of_within h hsignal⟩, hd]
      · cases hfound
    exact Option.ite_none_right_eq_some.2 ⟨h.preferReadonly hon, hfound'⟩
  | input =>
    obtain ⟨hon, hfound⟩ := Option.ite_none_right_eq_some.1 hd
    exact Option.ite_none_right_eq_some.2 ⟨h.preferInputSignal hon, hfound⟩
  | query =>
    obtain ⟨hon, hfound⟩ := Option.ite_none_right_eq_some.1 hd
    exact Option.ite_none_right_eq_some.2 ⟨h.preferQuerySignal hon, hfound⟩

/-- At each node, what is found is a sublist of what is found when more is asked for. -/
theorem findings_sublist_of_within (h : o.Within o') :
    (o.findings path services n).Sublist (o'.findings path services n) := by
  rw [findings_eq_flatMap, findings_eq_flatMap]
  refine List.Sublist.flatMap_right Topic.all fun t _ => ?_
  cases hfound : o.finding path services n t with
  | none => exact List.nil_sublist _
  | some d => rw [finding_of_within h hfound]

/-- A reported field is reported again. -/
theorem reports_of_within (h : o.Within o') {f : Field} (hf : o.reports services f = true) :
    o'.reports services f = true := by
  simp only [reports, Bool.and_eq_true] at hf ⊢
  obtain ⟨⟨⟨hon, hplain⟩, hmutable⟩, hsignal⟩ := hf
  exact ⟨⟨⟨h.preferReadonly hon, hplain⟩, hmutable⟩, isSignal_of_within h hsignal⟩

end RuleOptions

/-! ### Runs -/

section RunRule

variable {o o' : RuleOptions} {unit : SourceUnit} {types : TypeSupply}

theorem reportedFields_sublist_of_within (h : o.Within o') :
    (reportedFields o unit types).Sublist (reportedFields o' unit types) := by
  rw [reportedFields, reportedFields, List.filterMap_eq_flatMap_toList,
    List.filterMap_eq_flatMap_toList]
  refine List.Sublist.flatMap_right unit.nodes fun n _ => ?_
  cases n with
  | field f =>
    by_cases hf : o.reports (types.services? unit) f = true
    · simp only [hf, RuleOptions.reports_of_within h hf, if_true]
      exact List.Sublist.refl _
    · simp only [if_neg hf]
      exact List.nil_sublist _
  | _ => exact List.Sublist.refl _

/-- **Options are monotone.** Take two runs over one unit that succeed, the second under options
that ask for no less. What the first one reports is a sublist of what the second one reports: the
same diagnostics in the same order, with others in between. In particular a field that is reported
stays reported, whatever functions are added and whether types come to be used. -/
theorem diagnostics_sublist_of_within (hwithin : o.Within o')
    (h : (runRule o unit types).1 = .ok ()) (h' : (runRule o' unit types).1 = .ok ()) :
    (runRule o unit types).2.diagnostics.Sublist (runRule o' unit types).2.diagnostics ∧
      (reportedFields o unit types).Sublist (reportedFields o' unit types) := by
  refine ⟨?_, reportedFields_sublist_of_within hwithin⟩
  rw [diagnostics_eq_flatMap h, diagnostics_eq_flatMap h']
  exact List.Sublist.flatMap_right unit.nodes fun n _ =>
    RuleOptions.findings_sublist_of_within hwithin

end RunRule

/-- Without types the field of `samplePanel` is reported as soon as `makeCount` is known to create
signals, and nothing that was reported before is lost. -/
theorem diagnostics_sublist_of_within_samplePanel :
    let o : RuleOptions := { RuleOptions.default with useTypeChecking := false }
    let o' : RuleOptions := { o with signalCreationFunctions := ["makeCount"] }
    let first := (runRule o samplePanel .none).2.diagnostics
    let second := (runRule o' samplePanel .none).2.diagnostics
    first.map (·.span.startByte) = [70, 90, 110] ∧
      second.map (·.span.startByte) = [40, 70, 90, 110] ∧ first.Sublist second := by
  intro o o' first second
  have hwithin : o.Within o' := o.within_addCreationFunction "makeCount"
  have h : (runRule o samplePanel .none).1 = .ok () := rfl
  have h' : (runRule o' samplePanel .none).1 = .ok () := rfl
  exact ⟨rfl, rfl, (diagnostics_sublist_of_within hwithin h h').1⟩

end SignalLint
