import SignalLint.Proofs.Rule.Verdict

/-!
# Runs that need types

A run builds type services late, on the first field that needs them, and a run that has none to
build fails there. The main statement, `runRule_error_iff`, says from the options and the nodes
alone when this happens: whether a run fails, with which error and after which diagnostics, and how
often services are built in a run that has them.

* `Field.NeedsTypes` — a field that the syntax leaves open. It takes a field of the plain kind
  without the modifier, without a declared type, and with an initializer whose call shape says
  nothing.
* `RuleOptions.asksTypes_iff` — such fields, and no other nodes, make a run ask, if the options let
  it report fields and use types.
* `RuleOptions.demands_iff` — hence a run asks at some node exactly if the options and the nodes
  demand types (`RuleOptions.Demands`).

What the run does at the first such node and before it is the invariant of a run, `Progress`.
-/

namespace SignalLint

/-! ### Fields that the syntax leaves open -/

/-- **A field that only a type decides.** `functions` are the functions that create signals. -/
structure Field.NeedsTypes (functions : List String) (f : Field) : Prop where
  plain : f.kind = .plain
  isMutable : f.isReadonly = false
  undeclared : f.declaredType = none
  inconclusive : ∃ value, f.value = some value ∧ callShape functions value = .inconclusive

namespace RuleOptions

variable {o : RuleOptions} {unit : SourceUnit}

/-- A judgement waits for a type if there is no declared one, the call shape of the initializer says
nothing, and types may be asked for. -/
theorem asks_judge_iff (f : Field) :
    (o.judge f).asks = true ↔
      f.declaredType = none ∧ o.useTypeChecking = true ∧
        ∃ value, f.value = some value ∧ callShape o.creationFunctions value = .inconclusive := by
  unfold judge
  cases f.declaredType with
  | some type => simp [Judgement.asks]
  | none =>
    cases f.value with
    | none => simp [Judgement.asks]
    | some value =>
      simp only [Option.some.injEq, exists_eq_left', true_and]
      cases callShape o.creationFunctions value with
      | inconclusive => cases o.useTypeChecking <;> simp [Judgement.asks]
      | _ => simp [Judgement.asks]

/-- A run asks at the fields that need types, if it reports fields and may ask. -/
theorem asksTypes_iff (n : Node) :
    o.asksTypes n = true ↔
      o.preferReadonly = true ∧ o.useTypeChecking = true ∧
        ∃ f, n = .field f ∧ f.NeedsTypes o.creationFunctions := by
  unfold asksTypes
  rw [Bool.and_eq_true]
  refine and_congr_right fun _ => ?_
  constructor
  · intro h
    obtain ⟨f, e, rfl, hplain, hmutable, hjudge⟩ := RunM.exists_of_fieldAsks h
    obtain ⟨hundeclared, hon, hopen⟩ := (asks_judge_iff f).1 (by rw [hjudge]; rfl)
    exact ⟨hon, f, rfl, hplain, hmutable, hundeclared, hopen⟩
  · rintro ⟨hon, f, rfl, hneeds⟩
    have hasks := (asks_judge_iff f).2 ⟨hneeds.undeclared, hon, hneeds.inconclusive⟩
    simp only [Check.fieldAsks, hneeds.plain, hneeds.isMutable, hasks, decide_true, Bool.not_false,
      Bool.and_self]

/-- **What makes a run ask for types**: the options let it, and the unit has a field that needs
them. -/
structure Demands (o : RuleOptions) (unit : SourceUnit) : Prop where
  reportsFields : o.preferReadonly = true
  usesTypes : o.useTypeChecking = true
  needed : ∃ f, Node.field f ∈ unit.nodes ∧ f.NeedsTypes o.creationFunctions

theorem demands_iff : o.Demands unit ↔ ∃ n ∈ unit.nodes, o.asksTypes n = true := by
  constructor
  · rintro ⟨hreports, huses, f, hf, hneeds⟩
    exact ⟨.field f, hf, (asksTypes_iff _).2 ⟨hreports, huses, f, rfl, hneeds⟩⟩
  · rintro ⟨n, hn, hasks⟩
    obtain ⟨hreports, huses, f, rfl, hneeds⟩ := (asksTypes_iff n).1 hasks
    exact ⟨hreports, huses, f, hn, hneeds⟩

end RuleOptions

/-! ### Refusal -/

theorem services?_eq_none_iff (types : TypeSupply) (unit : SourceUnit) :
    types.services? unit = none ↔ types = .none := by
  cases types with
  | none => exact ⟨fun _ => rfl, fun _ => rfl⟩
  | declarations => exact ⟨nofun, nofun⟩
  | fixed symbol => exact ⟨nofun, nofun⟩

section RunRule

variable {o : RuleOptions} {unit : SourceUnit} {types : TypeSupply}

/-- A run fails exactly if it has no services to build and is asked for them. -/
theorem exists_error_iff :
    (∃ e, (runRule o unit types).1 = .error e) ↔ types = .none ∧ o.Demands unit := by
  rw [RuleOptions.demands_iff, ← services?_eq_none_iff types unit]
  constructor
  · rintro ⟨e, he⟩
    -- a run that did not succeed was refused services somewhere
    have hnot : ¬ (runRule o unit types).1 = .ok () := by
      rw [he]
      exact nofun
    rw [runRule_ok_iff] at hnot
    simp only [not_forall, Bool.not_eq_true, Option.isSome_eq_false_iff, Option.isNone_iff_eq_none] at hnot
    obtain ⟨n, hn, hasks, hsup⟩ := hnot
    exact ⟨hsup, n, hn, hasks⟩
  · rintro ⟨hsup, hasks⟩
    obtain ⟨-, -, -, s, -, -, -, hrun, -⟩ := exists_refusal hsup hasks
    exact ⟨_, congrArg Prod.fst hrun⟩

/-- A failed run has reported what a run over the nodes before the first field that needs types
reports. -/
theorem diagnostics_of_error {e : RunError} (h : (runRule o unit types).1 = .error e) :
    e = .noTypeInformation unit.path ruleName ∧
      ∃ before f rest, unit.nodes = before ++ .field f :: rest ∧
        f.NeedsTypes o.creationFunctions ∧
        (∀ g, .field g ∈ before → ¬ g.NeedsTypes o.creationFunctions) ∧
        (runRule o { unit with nodes := before } types).1 = .ok () ∧
        (runRule o unit types).2.diagnostics =
          (runRule o { unit with nodes := before } types).2.diagnostics := by
  obtain ⟨rfl, hdemands⟩ := exists_error_iff.1 ⟨e, h⟩
  have hsup : TypeSupply.none.services? unit = none := rfl
  obtain ⟨before, n, rest, s, hnodes, hquiet, hasks, hrun, hdone⟩ :=
    exists_refusal hsup (RuleOptions.demands_iff.1 hdemands)
  obtain ⟨hreports, huses, f, rfl, hneeds⟩ := (RuleOptions.asksTypes_iff n).1 hasks
  -- the nodes before ask for nothing, so a run over them succeeds without services
  have hshort : (runRule o { unit with nodes := before } .none).1 = .ok () := by
    refine runRule_ok_iff.2 fun m hm hm' => ?_
    rw [hquiet m hm] at hm'
    cases hm'
  rw [hrun] at h ⊢
  refine ⟨(Except.error.inj h).symm, before, f, rest, hnodes, hneeds, fun g hg hgneeds => ?_,
    hshort, ?_⟩
  · have hgasks := (RuleOptions.asksTypes_iff _).2 ⟨hreports, huses, g, rfl, hgneeds⟩
    rw [hquiet _ hg] at hgasks
    cases hgasks
  · -- both runs have the verdicts of these nodes
    exact hdone.diagnostics.trans (Progress.of_ok hshort).diagnostics.symm

/-- A run that has services builds them once if it is asked for them, and never otherwise. -/
theorem acquired_of_ne_none (h : types ≠ .none) :
    (o.Demands unit → (runRule o unit types).2.acquired = 1) ∧
      (¬ o.Demands unit → (runRule o unit types).2.acquired = 0) := by
  have hok : (runRule o unit types).1 = .ok () := by
    refine runRule_ok_iff.2 fun n _ _ => ?_
    rw [Option.isSome_iff_ne_none]
    exact fun hsup => h ((services?_eq_none_iff types unit).1 hsup)
  have hacquired := (Progress.of_ok hok).acquired
  rw [RuleOptions.demands_iff, ← List.any_eq_true]
  refine ⟨fun hany => ?_, fun hany => ?_⟩
  · rw [hacquired, if_pos hany]
  · rw [hacquired, if_neg hany]

/-- **When a run fails.** A run fails exactly if it has no type services, the options let it report
fields and use types, and some node is a field that needs types. It then fails for want of type
information, and it has reported what the same rule reports on the nodes before the first such
field. A run that has type services builds them once if there is such a field to be decided, and
never otherwise. -/
theorem runRule_error_iff (o : RuleOptions) (unit : SourceUnit) (types : TypeSupply) :
    let run := runRule o unit types
    ((∃ e, run.1 = .error e) ↔
        types = .none ∧ o.preferReadonly = true ∧ o.useTypeChecking = true ∧
          ∃ f, .field f ∈ unit.nodes ∧ f.NeedsTypes o.creationFunctions) ∧
      (∀ e, run.1 = .error e →
        e = .noTypeInformation unit.path ruleName ∧
          ∃ before f rest, unit.nodes = before ++ .field f :: rest ∧
            f.NeedsTypes o.creationFunctions ∧
            (∀ g, .field g ∈ before → ¬ g.NeedsTypes o.creationFunctions) ∧
            (runRule o { unit with nodes := before } types).1 = .ok () ∧
            run.2.diagnostics = (runRule o { unit with nodes := before } types).2.diagnostics) ∧
      (types ≠ .none →
        (o.Demands unit → run.2.acquired = 1) ∧ (¬ o.Demands unit → run.2.acquired = 0)) := by
  intro run
  refine ⟨?_, fun e he => diagnostics_of_error he, acquired_of_ne_none⟩
  rw [exists_error_iff]
  refine and_congr_right fun _ => ⟨fun h => ⟨h.reportsFields, h.usesTypes, h.needed⟩, ?_⟩
  rintro ⟨hreports, huses, hneeded⟩
  exact ⟨hreports, huses, hneeded⟩

end RunRule

/-- The nodes of `samplePanel`, with the field that needs types at the end. -/
def sampleBacklog : SourceUnit := { samplePanel with nodes := samplePanel.nodes.reverse }

/-- Without services the run fails at the field, behind three diagnostics. -/
theorem runRule_error_iff_sampleBacklog :
    let run := runRule .default sampleBacklog .none
    run.1 = .error (.noTypeInformation "panel.ts" "prefer-signals") ∧
      run.2.diagnostics.map (·.messageId) =
        ["preferQuerySignal", "preferInputSignal", "preferSignal"] ∧
      (runRule .default sampleBacklog .declarations).2.acquired = 1 := by
  intro run
  have hneeded : ∃ f, .field f ∈ sampleBacklog.nodes ∧
      f.NeedsTypes RuleOptions.default.creationFunctions :=
    ⟨_, List.mem_reverse.2 List.mem_cons_self, rfl, rfl, rfl, _, rfl, rfl⟩
  obtain ⟨hfails, herror, -⟩ := runRule_error_iff .default sampleBacklog .none
  obtain ⟨e, he⟩ := hfails.2 ⟨rfl, rfl, rfl, hneeded⟩
  obtain ⟨rfl, -⟩ := herror e he
  obtain ⟨-, -, hbuilt⟩ := runRule_error_iff .default sampleBacklog .declarations
  exact ⟨he, rfl, (hbuilt nofun).1 ⟨rfl, rfl, hneeded⟩⟩

end SignalLint
