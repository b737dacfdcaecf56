import Mathlib.Data.List.TakeWhile
import SignalLint.Proofs.Rule.Demand

/-!
# Which decorators are reported

Two checks look at decorators. Each sees one through its selector, which asks for the name that the
decorator invokes, and then asks for this name again; the name itself is compared with one word or
found by a pattern. This module says what all of this comes to for every expression that can stand
behind the `@`, and for every name.

* `Decorator.Calls`, `Decorator.Constructs` — the two ways to invoke a plain name.
  `callee?_expression_iff` says that these and no others count for the checks.
* `RuleOptions.reached`, `diagnostics_runRule` — what a run reports, whether it succeeds or not.
* `verdict_decorator_iff` — what is said of a single decorator.

The main statement, `runRule_decorator`, shows the two places where more is reported than calls of
the five decorators: a `new` expression counts like a call, and the pattern for query decorators
lets a line break at the end of the name pass.
-/

namespace SignalLint

/-! ### What a decorator invokes -/

namespace Decorator

variable {d : Decorator} {name : String}

/-- A decorator calls a plain name: `@Input()`, but neither `@Input` nor `@ng.Input()`. -/
def Calls (d : Decorator) (name : String) : Prop :=
  ∃ nameSpan arguments typeArguments span,
    d.expression = .call (.identifier name nameSpan) arguments typeArguments span

/-- A decorator makes a new object of a plain name: `@(new Input())`. -/
def Constructs (d : Decorator) (name : String) : Prop :=
  ∃ nameSpan arguments typeArguments span,
    d.expression = .construct (.identifier name nameSpan) arguments typeArguments span

/-- A decorator invokes a plain name, in one way or the other. -/
def Invokes (d : Decorator) (name : String) : Prop := d.Calls name ∨ d.Constructs name

/-- The name that the checks go by is the one that is invoked. -/
theorem callee?_expression_iff : Node.callee? d.expression = some name ↔ d.Invokes name := by
  constructor
  · intro h
    unfold Node.callee? at h
    split at h
    · rename_i heq
      obtain rfl := Option.some.inj h
      exact Or.inl ⟨_, _, _, _, heq⟩
    · rename_i heq
      obtain rfl := Option.some.inj h
      exact Or.inr ⟨_, _, _, _, heq⟩
    · cases h
  · rintro (⟨_, _, _, _, heq⟩ | ⟨_, _, _, _, heq⟩)
    · rw [heq]
      rfl
    · rw [heq]
      rfl

/-- A decorator invokes one name at most. -/
theorem Invokes.unique {name' : String} (h : d.Invokes name) (h' : d.Invokes name') :
    name = name' := by
  have heq := (callee?_expression_iff.2 h).symm.trans (callee?_expression_iff.2 h')
  exact Option.some.inj heq

/-- A decorator invokes the name of a query decorator, perhaps with a line break behind it. -/
def InvokesQuery (d : Decorator) : Prop :=
  ∃ query ∈ queryDecorators, d.Invokes query ∨ d.Invokes (query ++ "\n")

theorem invokesQuery_iff :
    d.InvokesQuery ↔ ∃ name, d.Invokes name ∧ queryPattern.finds name = true := by
  simp only [queryPattern_finds_iff]
  constructor
  · rintro ⟨query, hquery, h | h⟩
    · exact ⟨_, h, query, hquery, Or.inl rfl⟩
    · exact ⟨_, h, query, hquery, Or.inr rfl⟩
  · rintro ⟨name, h, query, hquery, rfl | rfl⟩
    · exact ⟨_, hquery, Or.inl h⟩
    · exact ⟨query, hquery, Or.inr h⟩

end Decorator

/-! ### What a run reports -/

section RunRule

variable {o : RuleOptions} {unit : SourceUnit} {types : TypeSupply}

/-- The nodes that a run comes to: all of them if it has type services, and otherwise those before
the first one that asks for some. -/
def RuleOptions.reached (o : RuleOptions) (types : TypeSupply) (nodes : List Node) : List Node :=
  if types = .none then nodes.takeWhile fun n => !o.asksTypes n else nodes

/-- No node of a run that succeeds without type services asks for some. -/
theorem asksTypes_eq_false_of_ok (h : (runRule o unit .none).1 = .ok ()) {n : Node}
    (hn : n ∈ unit.nodes) : o.asksTypes n = false := by
  cases hask : o.asksTypes n with
  | false => rfl
  | true =>
    have hsome := runRule_ok_iff.1 h n hn hask
    cases hsome

/-- A run that succeeds comes to all its nodes. -/
theorem reached_of_ok (h : (runRule o unit types).1 = .ok ()) :
    o.reached types unit.nodes = unit.nodes := by
  unfold RuleOptions.reached
  split
  · rename_i hnone
    subst hnone
    refine List.takeWhile_eq_self_iff.2 fun n hn => ?_
    rw [asksTypes_eq_false_of_ok h hn]
    rfl
  · rfl

/-- **A run reports the verdicts of the nodes that it comes to**, whether it succeeds or not. -/
theorem diagnostics_runRule (o : RuleOptions) (unit : SourceUnit) (types : TypeSupply) :
    (runRule o unit types).2.diagnostics =
      (o.reached types unit.nodes).filterMap (o.verdict unit.path (types.services? unit)) := by
  cases hresult : (runRule o unit types).1 with
  | ok =>
    rw [reached_of_ok hresult]
    exact (Progress.of_ok hresult).diagnostics
  | error e =>
    -- the run was refused services at the first node that asks
    obtain ⟨rfl, hdemands⟩ := exists_error_iff.1 ⟨e, hresult⟩
    have hsup : TypeSupply.none.services? unit = none := rfl
    obtain ⟨before, n, rest, s, hnodes, hquiet, hn, hrun, hdone⟩ :=
      exists_refusal hsup (RuleOptions.demands_iff.1 hdemands)
    have hbefore : ∀ m ∈ before, (!o.asksTypes m) = true := by
      intro m hm
      rw [hquiet m hm]
      rfl
    have hreached : o.reached .none unit.nodes = before := by
      rw [RuleOptions.reached, if_pos rfl, hnodes, List.takeWhile_append_of_pos hbefore,
        List.takeWhile_cons, hn]
      exact List.append_nil before
    rw [hreached, hrun]
    exact hdone.diagnostics

/-- A decorator asks for no types. -/
theorem RuleOptions.asksTypes_decorator (o : RuleOptions) (d : Decorator) :
    o.asksTypes (.decorator d) = false := by
  have hfield : Check.fieldAsks o (.decorator d) = false := rfl
  rw [asksTypes, hfield, Bool.and_false]

/-- Behind nodes over which the run succeeds, it comes to a decorator and then goes on. -/
theorem reached_append_decorator {before : List Node}
    (h : (runRule o { unit with nodes := before } types).1 = .ok ()) (d : Decorator)
    (after : List Node) :
    o.reached types (before ++ .decorator d :: after) =
      o.reached types before ++ .decorator d :: o.reached types after := by
  unfold RuleOptions.reached
  by_cases hnone : types = .none
  · subst hnone
    -- the run over the nodes before would have been refused at a node that asks
    have hquiet : ∀ n ∈ before, (!o.asksTypes n) = true := by
      intro n hn
      rw [asksTypes_eq_false_of_ok h hn]
      rfl
    have hdecorator : (!o.asksTypes (.decorator d)) = true := by
      rw [RuleOptions.asksTypes_decorator]
      rfl
    rw [if_pos rfl, if_pos rfl, if_pos rfl, List.takeWhile_append_of_pos hquiet,
      List.takeWhile_cons, if_pos hdecorator, List.takeWhile_eq_self_iff.2 hquiet]
  · rw [if_neg hnone, if_neg hnone, if_neg hnone]

/-- What is reported of a decorator that the run comes to stands between what is reported of the
nodes before it and of those behind it. -/
theorem diagnostics_append_decorator {before : List Node}
    (h : (runRule o { unit with nodes := before } types).1 = .ok ()) (d : Decorator)
    (after : List Node) :
    (runRule o { unit with nodes := before ++ .decorator d :: after } types).2.diagnostics =
      (runRule o { unit with nodes := before } types).2.diagnostics ++
        (o.verdict unit.path (types.services? unit) (.decorator d)).toList ++
          (runRule o { unit with nodes := after } types).2.diagnostics := by
  -- the services are those of the declarations, whatever the nodes are
  have hrun : ∀ nodes, (runRule o { unit with nodes := nodes } types).2.diagnostics =
      (o.reached types nodes).filterMap (o.verdict unit.path (types.services? unit)) :=
    fun nodes => diagnostics_runRule o { unit with nodes := nodes } types
  rw [hrun, hrun, hrun, reached_append_decorator h, List.filterMap_append, List.filterMap_cons,
    List.append_assoc]
  cases o.verdict unit.path (types.services? unit) (.decorator d) <;> rfl

/-! ### What is said of a decorator -/

section Verdict

variable {d : Decorator} {r : Diagnostic}

/-- There are two reports that a decorator can give rise to. -/
theorem verdict_decorator_iff :
    o.verdict unit.path (types.services? unit) (.decorator d) = some r ↔
      (o.preferInputSignal = true ∧ d.Invokes "Input" ∧
          r = ruleDiagnostic unit.path d.span "preferInputSignal" [] []) ∨
        ∃ name, o.preferQuerySignal = true ∧ d.Invokes name ∧ queryPattern.finds name = true ∧
          r = ruleDiagnostic unit.path d.span "preferQuerySignal"
            [("function", .text (signalFunction name)), ("decorator", .text name)] [] := by
  rw [RuleOptions.verdict_eq_some_iff]
  constructor
  · intro h
    cases h with
    | inputDecorator on invoked =>
      exact Or.inl ⟨on, Decorator.callee?_expression_iff.1 invoked, rfl⟩
    | queryDecorator on invoked isQuery found =>
      have hfinds := (queryPattern_finds_iff _).2 ⟨_, isQuery, found⟩
      exact Or.inr ⟨_, on, Decorator.callee?_expression_iff.1 invoked, hfinds, rfl⟩
  · rintro (⟨on, invoked, rfl⟩ | ⟨name, on, invoked, hfinds, rfl⟩)
    · exact .inputDecorator on (Decorator.callee?_expression_iff.2 invoked)
    · obtain ⟨query, isQuery, found⟩ := (queryPattern_finds_iff name).1 hfinds
      exact .queryDecorator on (Decorator.callee?_expression_iff.2 invoked) isQuery found

/-- What is reported of a decorator is reported at the decorator, under one of two messages. -/
theorem of_verdict_decorator
    (h : o.verdict unit.path (types.services? unit) (.decorator d) = some r) :
    r.span = d.span ∧ (r.messageId = "preferInputSignal" ∨ r.messageId = "preferQuerySignal") := by
  rcases verdict_decorator_iff.1 h with ⟨-, -, rfl⟩ | ⟨name, -, -, -, rfl⟩
  · exact ⟨rfl, Or.inl rfl⟩
  · exact ⟨rfl, Or.inr rfl⟩

theorem exists_verdict_preferInputSignal_iff :
    (∃ r, o.verdict unit.path (types.services? unit) (.decorator d) = some r ∧
        r.messageId = "preferInputSignal") ↔
      o.preferInputSignal = true ∧ d.Invokes "Input" := by
  have hdistinct : "preferQuerySignal" ≠ "preferInputSignal" := by decide
  simp only [verdict_decorator_iff]
  constructor
  · rintro ⟨r, ⟨on, invoked, -⟩ | ⟨name, -, -, -, rfl⟩, hid⟩
    · exact ⟨on, invoked⟩
    · exact absurd hid hdistinct
  · rintro ⟨on, invoked⟩
    exact ⟨_, Or.inl ⟨on, invoked, rfl⟩, rfl⟩

theorem exists_verdict_preferQuerySignal_iff :
    (∃ r, o.verdict unit.path (types.services? unit) (.decorator d) = some r ∧
        r.messageId = "preferQuerySignal") ↔
      o.preferQuerySignal = true ∧ d.InvokesQuery := by
  have hdistinct : "preferInputSignal" ≠ "preferQuerySignal" := by decide
  simp only [verdict_decorator_iff, Decorator.invokesQuery_iff]
  constructor
  · rintro ⟨r, ⟨-, -, rfl⟩ | ⟨name, on, invoked, hfinds, -⟩, hid⟩
    · exact absurd hid hdistinct
    · exact ⟨on, name, invoked, hfinds⟩
  · rintro ⟨on, name, invoked, hfinds⟩
    exact ⟨_, Or.inr ⟨name, on, invoked, hfinds, rfl⟩, rfl⟩

end Verdict

/-- **Which decorators are reported.** Take a node of a unit that is a decorator, and suppose that
the run comes to it. Then the run visits it without failing and reports at most one thing about it,
at the decorator, before it goes on. This is `preferInputSignal` exactly if that check is on and the
decorator invokes `Input`, and `preferQuerySignal` exactly if that check is on and it invokes one of
the four query decorators, perhaps with a line break behind the name. To invoke a name is to call it
or to make a new object of it. -/
theorem runRule_decorator (before after : List Node) (d : Decorator)
    (hreached : (runRule o { unit with nodes := before } types).1 = .ok ()) :
    let run := fun nodes => runRule o { unit with nodes := nodes } types
    (run (before ++ [.decorator d])).1 = .ok () ∧
      ∃ reports later : List Diagnostic,
        (run (before ++ [.decorator d])).2.diagnostics = (run before).2.diagnostics ++ reports ∧
        (run (before ++ .decorator d :: after)).2.diagnostics =
          (run before).2.diagnostics ++ reports ++ later ∧
        reports.length ≤ 1 ∧
        (∀ r ∈ reports, r.span = d.span ∧
          (r.messageId = "preferInputSignal" ∨ r.messageId = "preferQuerySignal")) ∧
        ((∃ r ∈ reports, r.messageId = "preferInputSignal") ↔
          o.preferInputSignal = true ∧ d.Invokes "Input") ∧
        ((∃ r ∈ reports, r.messageId = "preferQuerySignal") ↔
          o.preferQuerySignal = true ∧
            ∃ query ∈ ["ContentChild", "ContentChildren", "ViewChild", "ViewChildren"],
              d.Invokes query ∨ d.Invokes (query ++ "\n")) := by
  intro run
  have hsupplied : ∀ n ∈ before, o.asksTypes n = true → (types.services? unit).isSome = true :=
    runRule_ok_iff.1 hreached
  have hok : (run (before ++ [.decorator d])).1 = .ok () := by
    refine runRule_ok_iff.2 fun n hn hask => ?_
    rcases List.mem_append.1 hn with hn | hn
    · exact hsupplied n hn hask
    · obtain rfl := List.mem_singleton.1 hn
      rw [RuleOptions.asksTypes_decorator] at hask
      cases hask
  -- for the run that ends with the decorator, nothing is left behind it
  have hlast : (run []).2.diagnostics = [] := rfl
  refine ⟨hok, (o.verdict unit.path (types.services? unit) (.decorator d)).toList,
    (run after).2.diagnostics, ?_, diagnostics_append_decorator hreached d after, ?_, ?_, ?_, ?_⟩
  · have hsplit := diagnostics_append_decorator hreached d []
    rwa [hlast, List.append_nil] at hsplit
  · exact Option.length_toList_le
  · intro r hr
    exact of_verdict_decorator (Option.mem_toList.1 hr)
  · simp only [Option.mem_toList]
    exact exists_verdict_preferInputSignal_iff
  · simp only [Option.mem_toList]
    exact exists_verdict_preferQuerySignal_iff

end RunRule

/-- `@(new Input())` -/
def newInput : Decorator := ⟨.construct (.identifier "Input" {}) [] [] {}, {}⟩

/-- `@ViewChild()`, with a line break at the end of the name. -/
def brokenViewChild : Decorator := ⟨.call (.identifier "ViewChild\n" {}) [] [] {}, {}⟩

/-- Behind the nodes of `samplePanel`, which has services for its field, a decorator that makes a
new `Input` is reported. -/
theorem runRule_decorator_newInput :
    let run := fun nodes => runRule .default { samplePanel with nodes := nodes } .declarations
    (run samplePanel.nodes).1 = .ok () ∧
      ∃ r, (run (samplePanel.nodes ++ [.decorator newInput])).2.diagnostics =
          (run samplePanel.nodes).2.diagnostics ++ [r] ∧
        r.messageId = "preferInputSignal" := by
  intro run
  have hreached : (run samplePanel.nodes).1 = .ok () := rfl
  obtain ⟨-, reports, -, hrun, -, hone, -, hinput, -⟩ :=
    runRule_decorator samplePanel.nodes [] newInput hreached
  obtain ⟨r, hr, hid⟩ := hinput.2 ⟨rfl, Or.inr ⟨_, _, _, _, rfl⟩⟩
  -- at most one thing is reported, so it is this one alone
  have hreports : reports = [r] := by
    match reports, hone, hr with
    | [s], _, hs => rw [List.mem_singleton.1 hs]
  rw [hreports] at hrun
  exact ⟨hreached, r, hrun, hid⟩

/-- More is reported than calls of the named decorators: `newInput` calls nothing, and the name that
`brokenViewChild` calls is none of the four. -/
theorem exists_reported_of_not_calls :
    ((runRule .default { path := "a.ts", nodes := [.decorator newInput] } .none).2.diagnostics.map
          (·.messageId) = ["preferInputSignal"] ∧ ¬ newInput.Calls "Input") ∧
      ((runRule .default { path := "a.ts", nodes := [.decorator brokenViewChild] }
          .none).2.diagnostics.map (·.messageId) = ["preferQuerySignal"] ∧
        ∀ query ∈ ["ContentChild", "ContentChildren", "ViewChild", "ViewChildren"],
          ¬ brokenViewChild.Calls query) := by
  refine ⟨⟨rfl, ?_⟩, rfl, ?_⟩
  · rintro ⟨_, _, _, _, h⟩
    cases h
  · rintro query hquery ⟨_, _, _, _, h⟩
    obtain rfl : "ViewChild\n" = query := by
      injection h with h
      injection h
    revert hquery
    decide

end SignalLint
