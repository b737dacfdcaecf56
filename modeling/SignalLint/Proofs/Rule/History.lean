import SignalLint.Proofs.Rule.Demand

/-!
# Fields that are asked about one after the other

A run keeps its type services once it has built them, and it keeps its state when a request for them
fails. This module asks a run about any number of fields in turn, and goes on after a failure as
after a success (`RunM.askEach`). What came before cannot be seen in an answer: the main statement,
`answers_askEach`, says that each of them is what a run without services in hand answers.

* `RuleOptions.Consults` — a field about which the type services are consulted.
* `RuleOptions.answer` — the answer about a field, from what the run is given and without a state.
* `RunM.exec_isCandidate_eq` — one request gives this answer, and changes the state no more than
  `RunState.Asked` says.
* `History` — the invariant of a sequence of requests, with `History.ask` for one more of them and
  `History.askEach` for all.
-/

namespace SignalLint

/-! ### Fields that take a type -/

/-- **A field about which type services are consulted**: it has no declared type, types may be
used, and there is an initializer whose call shape says nothing. Whether the field is readonly, and
how it is declared, does not matter here. -/
structure RuleOptions.Consults (o : RuleOptions) (f : Field) : Prop where
  undeclared : f.declaredType = none
  usesTypes : o.useTypeChecking = true
  inconclusive : ∃ value, f.value = some value ∧ callShape o.creationFunctions value = .inconclusive

theorem RuleOptions.consults_iff {o : RuleOptions} {f : Field} :
    o.Consults f ↔ (o.judge f).asks = true := by
  rw [asks_judge_iff]
  exact ⟨fun h => ⟨h.undeclared, h.usesTypes, h.inconclusive⟩, fun h => ⟨h.1, h.2.1, h.2.2⟩⟩

/-! ### One request -/

/-- The answer about a field: what its syntax says, or else the type of its initializer. A run
without type services has no answer to the second. -/
def RuleOptions.answer (o : RuleOptions) (context : RunContext) (f : Field) :
    Except RunError Bool :=
  match o.judge f with
  | .settled isSignal => .ok isSignal
  | .needsTypes initializer =>
    match context.types.services? context.unit with
    | some services => .ok (checkerEvidence services initializer)
    | none => .error (.noTypeInformation context.unit.path context.ruleName)

/-- There is no answer only where there are no services to build. -/
theorem RuleOptions.of_answer_eq_error {o : RuleOptions} {context : RunContext} {f : Field}
    {e : RunError} (h : o.answer context f = .error e) :
    e = .noTypeInformation context.unit.path context.ruleName ∧
      context.types.services? context.unit = none := by
  unfold answer at h
  split at h
  · cases h
  · split at h
    · cases h
    · rename_i hsup
      exact ⟨(Except.error.inj h).symm, hsup⟩

/-- How a state changes when a run is asked about a field: services are in hand if they were
consulted, they were built if they were not in hand before, and where there are none to build
nothing changes at all. -/
structure RunState.Asked (o : RuleOptions) (context : RunContext) (f : Field) (s s' : RunState) :
    Prop where
  services : s'.services =
    if (o.judge f).asks then context.types.services? context.unit else s.services
  acquired : s'.acquired =
    if (o.judge f).asks && s.services.isNone then
      s.acquired + (context.types.services? context.unit).toList.length
    else s.acquired
  refused : context.types.services? context.unit = none → s' = s

namespace RunM

variable {o : RuleOptions} {context : RunContext} {f : Field} {s : RunState}

/-- **One request.** The answer does not depend on the state, as long as the services in hand are
those that the run would build. -/
theorem exec_isCandidate_eq (hs : s.Sound context) :
    ∃ s', (isCandidate o f).exec context s = (o.answer context f, s') ∧ s.Asked o context f s' := by
  unfold RuleOptions.answer
  cases hjudge : o.judge f with
  | settled isSignal =>
    have hquiet : (o.judge f).asks = false := by
      rw [hjudge]
      rfl
    refine ⟨s, exec_isCandidate_of_settled hjudge, ?_, ?_, fun _ => rfl⟩
    · rw [hquiet]
      rfl
    · rw [hquiet, Bool.false_and]
      rfl
  | needsTypes initializer =>
    have hasks : (o.judge f).asks = true := by
      rw [hjudge]
      rfl
    cases hsup : context.types.services? context.unit with
    | none =>
      -- a run without services never came to hold any, and a refusal leaves it alone
      have hnone : s.services = none := by
        rcases hs with hs | hs
        · exact hs
        · exact hs.trans hsup
      refine ⟨s, exec_isCandidate_refused hs hjudge hsup, ?_, ?_, fun _ => rfl⟩
      · rw [hasks, hsup]
        exact hnone
      · rw [hsup]
        exact (ite_self _).symm
    | some services =>
      obtain ⟨s', hrun, hserved⟩ := exec_isCandidate hs hjudge hsup
      refine ⟨s', hrun, ?_, ?_, ?_⟩
      · rw [hasks, hsup]
        exact hserved.services
      · rw [hasks, hsup]
        exact hserved.acquired
      · intro h
        rw [hsup] at h
        cases h

/-- Asks about fields in turn: what is answered each time, and the state at the end. A request that
fails is followed by the next one, from the state that it left. -/
def askEach (o : RuleOptions) (context : RunContext) (s : RunState) :
    List Field → List (Except RunError Bool) × RunState
  | [] => ([], s)
  | f :: fields =>
    let call := (isCandidate o f).exec context s
    let rest := askEach o context call.2 fields
    (call.1 :: rest.1, rest.2)

end RunM

/-! ### Many requests -/

/-- **The invariant of a sequence of requests.** After some fields, services are in hand exactly if
they were to be had and one of the fields took a type; they were built once, or not at all; and
where none were to be had the state is the one at the start. -/
structure History (o : RuleOptions) (context : RunContext) (start : RunState) (asked : List Field)
    (s : RunState) : Prop where
  services : s.services =
    if asked.any fun f => (o.judge f).asks then context.types.services? context.unit else none
  acquired : s.acquired = start.acquired + s.services.toList.length
  refused : context.types.services? context.unit = none → s = start

namespace History

variable {o : RuleOptions} {context : RunContext} {start s : RunState} {asked : List Field}

theorem initial (hfresh : start.services = none) : History o context start [] start where
  services := hfresh
  acquired := by rw [hfresh]; rfl
  refused _ := rfl

theorem sound (h : History o context start asked s) : s.Sound context := by
  cases hany : asked.any fun f => (o.judge f).asks with
  | true => exact Or.inr (by rw [h.services, hany]; rfl)
  | false => exact Or.inl (by rw [h.services, hany]; rfl)

/-- The invariant is kept by every request. -/
theorem ask {f : Field} {s' : RunState} (h : History o context start asked s)
    (hs : s.Asked o context f s') : History o context start (asked ++ [f]) s' where
  services := by
    rw [hs.services, h.services, List.any_append, List.any_cons, List.any_nil, Bool.or_false]
    cases (o.judge f).asks <;> cases asked.any fun f => (o.judge f).asks <;> rfl
  acquired := by
    rw [hs.acquired, hs.services, h.acquired, h.services]
    cases (o.judge f).asks with
    | false => rfl
    | true =>
      -- services in hand are those that would be built
      cases asked.any fun f => (o.judge f).asks with
      | false => rfl
      | true => cases context.types.services? context.unit <;> rfl
  refused hnone := (hs.refused hnone).trans (h.refused hnone)

/-- **A sequence of requests** gives the answers about its fields. -/
theorem askEach (h : History o context start asked s) (fields : List Field) :
    ∃ s', RunM.askEach o context s fields = (fields.map (o.answer context), s') ∧
      History o context start (asked ++ fields) s' := by
  -- on the fields that are left; the invariant speaks of those that were asked about
  induction fields generalizing asked s with
  | nil => exact ⟨s, rfl, by rwa [List.append_nil]⟩
  | cons f fields ih =>
    obtain ⟨s₁, hcall, hasked⟩ := RunM.exec_isCandidate_eq (o := o) (f := f) h.sound
    obtain ⟨s₂, hrest, hdone⟩ := ih (h.ask hasked)
    refine ⟨s₂, ?_, by rwa [List.append_assoc] at hdone⟩
    rw [RunM.askEach, hcall, hrest]
    rfl

/-- The first field that takes a type makes the run build services. -/
theorem acquired_of_first {f : Field} {s' : RunState} (h : History o context start asked s)
    (hs : s.Asked o context f s') (htypes : context.types ≠ .none) (hf : o.Consults f)
    (hbefore : ∀ g ∈ asked, ¬ o.Consults g) : s'.acquired = s.acquired + 1 := by
  have hany : (asked.any fun g => (o.judge g).asks) = false := by
    refine List.any_eq_false.2 fun g hg hasks => hbefore g hg (RuleOptions.consults_iff.2 hasks)
  have hnone : s.services = none := by
    rw [h.services, hany]
    rfl
  rw [hs.acquired, RuleOptions.consults_iff.1 hf, hnone]
  cases hsup : context.types.services? context.unit with
  | none => exact absurd ((services?_eq_none_iff _ _).1 hsup) htypes
  | some services => rfl

/-- No other request makes it do so. -/
theorem acquired_of_not_first {f : Field} {s' : RunState} (h : History o context start asked s)
    (hs : s.Asked o context f s')
    (hnot : ¬ (context.types ≠ .none ∧ o.Consults f ∧ ∀ g ∈ asked, ¬ o.Consults g)) :
    s'.acquired = s.acquired := by
  cases hsup : context.types.services? context.unit with
  | none => rw [hs.refused hsup]
  | some services =>
    have htypes : context.types ≠ .none := by
      intro hnone
      rw [(services?_eq_none_iff _ _).2 hnone] at hsup
      cases hsup
    by_cases hf : o.Consults f
    · -- a field before took a type, so services are in hand
      have hbefore : ∃ g ∈ asked, (o.judge g).asks = true := by
        by_contra hall
        exact hnot ⟨htypes, hf, fun g hg hg' => hall ⟨g, hg, RuleOptions.consults_iff.1 hg'⟩⟩
      have hsome : s.services = some services := by
        rw [h.services, List.any_eq_true.2 hbefore, ← hsup]
        rfl
      rw [hs.acquired, hsome, Option.isNone_some, Bool.and_false]
      rfl
    · have hquiet : (o.judge f).asks = false := by
        rw [← Bool.not_eq_true]
        exact fun hasks => hf (RuleOptions.consults_iff.2 hasks)
      rw [hs.acquired, hquiet, Bool.false_and]
      rfl

end History

/-- **What came before cannot be seen.** Ask a run that has no services in hand about any fields, in
turn and through failures. Each answer is what is answered when this field is asked about first.
Services are built at most once in all. At each request they are built exactly if there are any to
build, the field takes a type, and none before it did. A request that fails does so for want of type
information and leaves the state in which the sequence started. -/
theorem answers_askEach (o : RuleOptions) (context : RunContext) {start : RunState}
    (hfresh : start.services = none) (fields : List Field) :
    (RunM.askEach o context start fields).1 =
        fields.map (fun f => ((RunM.isCandidate o f).exec context start).1) ∧
      (RunM.askEach o context start fields).2.acquired ≤ start.acquired + 1 ∧
      ∀ before f after, fields = before ++ f :: after →
        let s := (RunM.askEach o context start before).2
        let call := (RunM.isCandidate o f).exec context s
        let buildsNow := context.types ≠ .none ∧ o.Consults f ∧ ∀ g ∈ before, ¬ o.Consults g
        (buildsNow → call.2.acquired = s.acquired + 1) ∧
          (¬ buildsNow → call.2.acquired = s.acquired) ∧
          ∀ e, call.1 = .error e →
            e = .noTypeInformation context.unit.path context.ruleName ∧ call.2 = start := by
  have hstart : History o context start [] start := .initial hfresh
  -- what is answered first is answered from the start, where the invariant holds as well
  have hfirst : ∀ f, ((RunM.isCandidate o f).exec context start).1 = o.answer context f := by
    intro f
    obtain ⟨s, hcall, -⟩ := RunM.exec_isCandidate_eq (o := o) (f := f) hstart.sound
    rw [hcall]
  refine ⟨?_, ?_, ?_⟩
  · obtain ⟨s, hrun, -⟩ := hstart.askEach fields
    rw [hrun]
    exact (List.map_congr_left fun f _ => hfirst f).symm
  · obtain ⟨s, hrun, hdone⟩ := hstart.askEach fields
    have hone : s.services.toList.length ≤ 1 := Option.length_toList_le
    rw [hrun, hdone.acquired]
    exact Nat.add_le_add_left hone _
  -- the state before a request is the one at the end of a shorter sequence
  · rintro before f after -
    obtain ⟨s, hrun, hdone⟩ := hstart.askEach before
    obtain ⟨s', hcall, hasked⟩ := RunM.exec_isCandidate_eq (o := o) (f := f) hdone.sound
    simp only [hrun, hcall]
    refine ⟨?_, hdone.acquired_of_not_first hasked, ?_⟩
    · rintro ⟨htypes, hf, hbefore⟩
      exact hdone.acquired_of_first hasked htypes hf hbefore
    · intro e he
      obtain ⟨rfl, hsup⟩ := RuleOptions.of_answer_eq_error he
      exact ⟨rfl, (hasked.refused hsup).trans (hdone.refused hsup)⟩

/-- A readonly field that takes a type, a field with a declared type, and again one that takes a
type. -/
def sampleQuestions : List Field :=
  let call (name : String) : Expression := .call (.identifier name {}) [] [] {}
  [⟨.plain, .identifier "a" {}, none, some (call "makeCount"), true, false, [], some "Panel", {}⟩,
    ⟨.plain, .identifier "b" {}, some (.other "predefined_type" "number" {}), none, false, false, [],
      some "Panel", {}⟩,
    ⟨.plain, .identifier "c" {}, none, some (call "other"), false, false, [], some "Panel", {}⟩]

/-- With the declarations of `samplePanel` the first request builds services, and the third uses
them; without any the first and the third fail, and the second does not. -/
theorem answers_askEach_sampleQuestions :
    let ask := fun types => RunM.askEach .default (ruleContext samplePanel types) {} sampleQuestions
    (ask .declarations).1 = [.ok true, .ok false, .ok false] ∧
      (ask .declarations).2.acquired ≤ 1 ∧
      (ask .none).1 = [.error (.noTypeInformation "panel.ts" "prefer-signals"), .ok false,
        .error (.noTypeInformation "panel.ts" "prefer-signals")] := by
  intro ask
  have hfresh : ({} : RunState).services = none := rfl
  obtain ⟨hwith, honce, -⟩ :=
    answers_askEach .default (ruleContext samplePanel .declarations) hfresh sampleQuestions
  obtain ⟨hwithout, -⟩ :=
    answers_askEach .default (ruleContext samplePanel .none) hfresh sampleQuestions
  exact ⟨hwith.trans rfl, honce, hwithout.trans rfl⟩

end SignalLint
