import SignalLint.Diagnostic.Edit
import SignalLint.Proofs.Code.Relocation
import SignalLint.Proofs.Rule.Verdict

/-!
# Fixed code stays fixed

Applying the suggestions of a run makes the reported fields readonly and moves the byte offsets of
what stands behind an insertion. The main statement, `runRule_fixed`, says what a second run makes
of the result: it succeeds, it reports what the first run reported apart from the fields, at the
moved places, and it has nothing left to suggest.

* `DeclarationIndex.step_relocate` and `resolve_relocate` — the resolver commutes with a move. Each
  of its steps does, whether it ends the search or follows an initializer, and the bound on the
  number of steps is the same on both sides.
* `RuleOptions.verdict_relocate` — hence the verdict of a moved node is the moved verdict.
* `RuleOptions.verdict_markReadonly` — marking the reported fields takes away their diagnostics and
  no others. The mark of a field is not looked at by the verdict of another one, nor by the
  resolver.
-/

namespace SignalLint

/-! ### Moved diagnostics -/

/-- An offset that counts from the end of the source stays as it is. -/
def TextEdit.relocate (φ : Nat → Nat) (e : TextEdit) : TextEdit :=
  { e with offset := if e.offset < 0 then e.offset else φ e.offset.toNat }

def Suggestion.relocate (φ : Nat → Nat) (s : Suggestion) : Suggestion :=
  { s with edit := s.edit.relocate φ }

def Diagnostic.relocate (φ : Nat → Nat) (d : Diagnostic) : Diagnostic :=
  { d with
    span := d.span.relocate φ
    suggestions := d.suggestions.map (·.relocate φ) }

section Relocate

variable (φ : Nat → Nat)

theorem fieldDiagnostic_relocate (path : String) (f : Field) :
    (fieldDiagnostic path f).relocate φ = fieldDiagnostic path (f.relocate φ) := by
  have hkey : (f.relocate φ).key.span = f.key.span.relocate φ := f.key.span_relocate φ
  have hoffset : ¬ (f.key.span.startByte : Int) < 0 := Int.not_lt.2 (Int.natCast_nonneg _)
  simp only [fieldDiagnostic, ruleDiagnostic, readonlySuggestion, Suggestion.render, hkey,
    Diagnostic.relocate, Suggestion.relocate, TextEdit.relocate, List.map_cons, List.map_nil,
    if_neg hoffset, Int.toNat_natCast, Span.startByte_relocate]

/-! ### Evidence -/

theorem declaredTypeEvidence_relocate (t : TypeNode) :
    declaredTypeEvidence (t.relocate φ) = declaredTypeEvidence t := by
  cases t with
  | reference name arguments s =>
    cases name <;>
      simp only [TypeNode.relocate, TypeName.relocate, declaredTypeEvidence,
        TypeNode.isEmpty_relocateAll]
  | other grammar text s => simp only [TypeNode.relocate, declaredTypeEvidence]

theorem plainShape_relocate (functions : List String) (e : Expression) :
    plainShape functions (e.relocate φ) = plainShape functions e := by
  cases e <;> simp only [Expression.relocate, plainShape]

theorem calleeShape_relocate (functions : List String) (e : Expression) :
    calleeShape functions (e.relocate φ) = calleeShape functions e := by
  cases e with
  | member object property computed optional s =>
    cases property <;> simp only [Expression.relocate, calleeShape, plainShape_relocate]
  | _ => simp only [Expression.relocate, calleeShape, plainShape]

theorem callShape_relocate (functions : List String) (e : Expression) :
    callShape functions (e.relocate φ) = callShape functions e := by
  cases e <;> simp only [Expression.relocate, callShape, calleeShape_relocate]

theorem thisMember?_relocate (e : Expression) : thisMember? (e.relocate φ) = thisMember? e := by
  cases e with
  | member object property computed optional s =>
    cases object <;> cases computed <;>
      simp only [Expression.relocate, thisMember?, Expression.name?_relocate]
  | _ => simp only [Expression.relocate, thisMember?]

theorem callee?_relocate (e : Expression) : Node.callee? (e.relocate φ) = Node.callee? e := by
  cases e with
  | call callee arguments typeArguments s =>
    cases callee <;> simp only [Expression.relocate, Node.callee?]
  | construct callee arguments typeArguments s =>
    cases callee <;> simp only [Expression.relocate, Node.callee?]
  | _ => simp only [Expression.relocate, Node.callee?]

/-! ### Type services -/

def Resolution.relocate : Resolution → Resolution
  | done symbol => done symbol
  | follow initializer => follow (initializer.relocate φ)

def TypeServices.relocate : TypeServices → TypeServices
  | ofDeclarations index => ofDeclarations (index.relocate φ)
  | fixed symbol => fixed symbol

theorem services?_relocate (types : TypeSupply) (unit : SourceUnit) :
    types.services? (unit.relocate φ) = (types.services? unit).map (·.relocate φ) := by
  cases types <;> rfl

theorem resolveDeclaration_relocate (d : Option Declaration) :
    DeclarationIndex.resolveDeclaration (d.map (·.relocate φ)) =
      (DeclarationIndex.resolveDeclaration d).relocate φ := by
  cases d with
  | none => rfl
  | some d =>
    obtain ⟨name, declaredType, value⟩ := d
    cases declaredType with
    | some t =>
      exact congrArg Resolution.done (t.symbol?_relocate φ)
    | none => cases value <;> rfl

end Relocate

namespace DeclarationIndex

variable {φ : Nat → Nat} (hφ : StrictMono φ) (index : DeclarationIndex)

include hφ

/-- **One step commutes with a move.** Members and methods of `this` are looked up at the first byte
of the expression, which moves along with the classes. -/
theorem step_relocate (e : Expression) :
    (index.relocate φ).step (e.relocate φ) = (index.step e).relocate φ := by
  cases e with
  | construct callee arguments typeArguments s => cases callee <;> rfl
  | call callee arguments typeArguments s =>
    cases callee with
    | identifier name nameSpan =>
      -- functions are known by their names, which do not move
      have hfunction := index.functionType?_relocate (φ := φ) name
      exact congrArg Resolution.done
        ((congrArg (·.bind TypeNode.symbol?) hfunction).trans (TypeNode.bind_symbol?_relocate φ _))
    | member object property computed optional calleeSpan =>
      -- a method is looked up where the callee starts, in the class that is found there
      have hthis := thisMember?_relocate φ (.member object property computed optional calleeSpan)
      rw [Expression.relocate] at hthis
      simp only [Expression.relocate, step, hthis, Expression.span, Span.startByte_relocate]
      cases thisMember? (.member object property computed optional calleeSpan) with
      | none => rfl
      | some name =>
        simp only [methodType?_relocate hφ, TypeNode.bind_symbol?_relocate, Resolution.relocate]
    | _ => rfl
  | identifier name s =>
    exact (congrArg resolveDeclaration (index.bindings_get?_relocate name)).trans
      (resolveDeclaration_relocate φ _)
  | member object property computed optional s =>
    -- the same for a member, whose declaration may send the search on
    have hthis := thisMember?_relocate φ (.member object property computed optional s)
    rw [Expression.relocate] at hthis
    simp only [Expression.relocate, step, hthis, Expression.span, Span.startByte_relocate]
    cases thisMember? (.member object property computed optional s) with
    | none => rfl
    | some name => simp only [member?_relocate hφ, resolveDeclaration_relocate]
  | _ => rfl

theorem resolve_relocate (hops : Nat) (e : Expression) :
    (index.relocate φ).resolve hops (e.relocate φ) = index.resolve hops e := by
  -- on the number of initializers that may still be followed
  induction hops generalizing e with
  | zero =>
    rw [resolve, resolve, step_relocate hφ]
    cases index.step e <;> rfl
  | succ hops ih =>
    rw [resolve, resolve, step_relocate hφ]
    cases index.step e with
    | done symbol => rfl
    | follow initializer => exact ih initializer

end DeclarationIndex

/-! ### The verdict of a moved node -/

section Verdict

variable {φ : Nat → Nat}

theorem checkerEvidence_relocate (hφ : StrictMono φ) (services : TypeServices) (e : Expression) :
    checkerEvidence (services.relocate φ) (e.relocate φ) = checkerEvidence services e := by
  cases services with
  | fixed symbol => rfl
  | ofDeclarations index =>
    exact congrArg (·.any signalTypes.contains) (index.resolve_relocate hφ maxHops e)

def Judgement.relocate (φ : Nat → Nat) : Judgement → Judgement
  | settled b => settled b
  | needsTypes initializer => needsTypes (initializer.relocate φ)

theorem Judgement.asks_relocate (j : Judgement) : (j.relocate φ).asks = j.asks := by
  cases j <;> rfl

namespace RuleOptions

variable (o : RuleOptions)

theorem judge_relocate (f : Field) : o.judge (f.relocate φ) = (o.judge f).relocate φ := by
  unfold judge
  have htype : (f.relocate φ).declaredType = f.declaredType.map (·.relocate φ) := rfl
  have hvalue : (f.relocate φ).value = f.value.map (·.relocate φ) := rfl
  rw [htype, hvalue]
  cases f.declaredType with
  | some t => exact congrArg Judgement.settled (declaredTypeEvidence_relocate φ t)
  | none =>
    cases f.value with
    | none => rfl
    | some value =>
      simp only [Option.map_none, Option.map_some, callShape_relocate]
      cases callShape o.creationFunctions value with
      | inconclusive => cases o.useTypeChecking <;> rfl
      | _ => rfl

theorem isSignal_relocate (hφ : StrictMono φ) (services : Option TypeServices) (f : Field) :
    o.isSignal (services.map (·.relocate φ)) (f.relocate φ) = o.isSignal services f := by
  unfold isSignal
  rw [judge_relocate]
  cases o.judge f with
  | settled b => rfl
  | needsTypes e =>
    cases services with
    | none => rfl
    | some services => exact checkerEvidence_relocate hφ services e

theorem asksTypes_relocate (n : Node) : o.asksTypes (n.relocate φ) = o.asksTypes n := by
  unfold asksTypes
  cases n with
  | field f =>
    have hfield : Check.fieldAsks o (.field (f.relocate φ)) = Check.fieldAsks o (.field f) := by
      simp only [Check.fieldAsks, judge_relocate, Judgement.asks_relocate]
      rfl
    exact congrArg (o.preferReadonly && ·) hfield
  | _ => rfl

/-- **The verdict moves along.** -/
theorem verdict_relocate (hφ : StrictMono φ) (path : String) (services : Option TypeServices)
    (n : Node) :
    o.verdict path (services.map (·.relocate φ)) (n.relocate φ) =
      (o.verdict path services n).map (·.relocate φ) := by
  cases n with
  | expression e =>
    cases e with
    | construct callee arguments typeArguments s =>
      cases callee with
      | identifier name nameSpan =>
        simp only [Node.relocate, Expression.relocate, verdict]
        rw [apply_ite (Option.map _)]
        rfl
      | _ => rfl
    | _ => rfl
  | field f =>
    -- the kind and the flag of a field do not move, and neither does its being a signal
    have hreports : o.reports (services.map (·.relocate φ)) (f.relocate φ) =
        o.reports services f := by
      unfold reports
      rw [isSignal_relocate o hφ]
      rfl
    rw [Node.relocate, verdict_field, verdict_field, hreports, apply_ite (Option.map _),
      Option.map_some, fieldDiagnostic_relocate]
    rfl
  | decorator d =>
    have hcallee : Node.callee? (d.relocate φ).expression = Node.callee? d.expression :=
      callee?_relocate φ d.expression
    simp only [Node.relocate, verdict, hcallee]
    cases Node.callee? d.expression with
    | none => rfl
    | some name =>
      simp only [apply_ite (Option.map (Diagnostic.relocate φ))]
      rfl
  | _ => rfl

end RuleOptions

end Verdict

/-! ### Marked fields -/

/-- The node with the modifier, if it is one of the given fields. -/
def Node.markReadonly (marked : Field → Bool) : Node → Node
  | field f => if marked f then field { f with isReadonly := true } else field f
  | n => n

/-- The unit in which the given fields have the modifier. -/
def SourceUnit.markReadonly (marked : Field → Bool) (unit : SourceUnit) : SourceUnit :=
  { unit with nodes := unit.nodes.map (·.markReadonly marked) }

namespace RuleOptions

variable (o : RuleOptions)

/-- **Marks take away what asked for them.** With the modifier on each reported field, the verdict
of a node is what it was, unless it asked for the modifier. -/
theorem verdict_markReadonly (path : String) (services : Option TypeServices) (n : Node) :
    o.verdict path services (n.markReadonly (o.reports services)) =
      (o.verdict path services n).filter (·.messageId ≠ "preferReadonly") := by
  cases n with
  | field f =>
    cases hreports : o.reports services f with
    | true =>
      -- a marked field is reported no more, whatever its type
      have hmarked : o.reports services { f with isReadonly := true } = false := by
        simp only [reports, Bool.not_true, Bool.and_false, Bool.false_and]
      rw [Node.markReadonly, if_pos hreports, verdict_field, verdict_field, hmarked, hreports]
      rfl
    | false =>
      have hunmarked : ¬ o.reports services f = true := by
        rw [hreports]
        exact Bool.false_ne_true
      rw [Node.markReadonly, if_neg hunmarked, verdict_field, if_neg hunmarked]
      rfl
  | _ =>
    -- no other node asks for the modifier
    rw [Node.markReadonly]
    · cases hverdict : o.verdict path services _ with
      | none => rfl
      | some d =>
        rcases of_verdict_eq_some hverdict with ⟨f, hf, -⟩ | ⟨-, hid, -⟩
        · cases hf
        · rw [Option.filter_some, decide_eq_true hid, if_pos rfl]
    · exact nofun

/-- A marked field asks for types only if it did so without the mark. -/
theorem asksTypes_of_markReadonly {marked : Field → Bool} {n : Node}
    (h : o.asksTypes (n.markReadonly marked) = true) : o.asksTypes n = true := by
  cases n with
  | field f =>
    rw [Node.markReadonly] at h
    by_cases hf : marked f = true
    · rw [if_pos hf] at h
      simp [asksTypes, Check.fieldAsks] at h
    · rwa [if_neg hf] at h
  | _ => exact h

end RuleOptions

section Convergence

variable {φ : Nat → Nat} {o : RuleOptions} {unit : SourceUnit} {types : TypeSupply}

theorem services?_markReadonly (marked : Field → Bool) :
    types.services? (unit.markReadonly marked) = types.services? unit := by
  cases types <;> rfl

/-- Without suggestions there is nothing to apply. -/
theorem applySuggestions_of_suggestions_eq_nil {ds : List Diagnostic}
    (h : ∀ d ∈ ds, d.suggestions = []) (source : Bytes) :
    applySuggestions source ds = (source, 0) := by
  have hedits : firstEdits ds = [] := by
    have hnone : ds.filterMap (fun d => d.suggestions.head?.map (·.edit)) = [] := by
      refine List.filterMap_eq_nil_iff.2 fun d hd => ?_
      rw [h d hd]
      rfl
    rw [firstEdits, hnone]
    rfl
  simp only [applySuggestions, hedits, List.mergeSort_nil, List.reverse_nil, List.foldl_nil,
    List.length_nil]

/-- **Fixed code stays fixed.** Take a unit on which a run succeeds, give every field that it
reports the modifier, and move all byte offsets in an order-preserving way. A run over the result
succeeds and reports what the first run reported, without what asked for the modifier, at the moved
places. It suggests nothing, so that there is nothing left to apply. -/
theorem runRule_fixed (hφ : StrictMono φ) (h : (runRule o unit types).1 = .ok ()) :
    let fixed := (unit.markReadonly (o.reports (types.services? unit))).relocate φ
    let first := (runRule o unit types).2.diagnostics
    let second := (runRule o fixed types).2.diagnostics
    first.filter (·.messageId = "preferReadonly") =
        (reportedFields o unit types).map (fieldDiagnostic unit.path) ∧
      (runRule o fixed types).1 = .ok () ∧
      second = (first.filter (·.messageId ≠ "preferReadonly")).map (·.relocate φ) ∧
      (∀ d ∈ second, d.suggestions = []) ∧
      ∀ source, applySuggestions source second = (source, 0) := by
  intro fixed first second
  have hfirst : first = unit.nodes.filterMap (o.verdict unit.path (types.services? unit)) :=
    (Progress.of_ok h).diagnostics
  have hservices : types.services? fixed = (types.services? unit).map (·.relocate φ) := by
    rw [services?_relocate, services?_markReadonly]
  -- the second run asks for services only where the first one had them
  have hrun : (runRule o fixed types).1 = .ok () := by
    refine runRule_ok_iff.2 fun n hn hask => ?_
    obtain ⟨marked, hmarked, rfl⟩ := List.mem_map.1 hn
    obtain ⟨original, horiginal, rfl⟩ := List.mem_map.1 hmarked
    rw [RuleOptions.asksTypes_relocate] at hask
    rw [hservices, Option.isSome_map]
    exact runRule_ok_iff.1 h original horiginal (o.asksTypes_of_markReadonly hask)
  -- node by node, the second verdict is the first one without the fields, moved
  have hsecond : second =
      (first.filter (·.messageId ≠ "preferReadonly")).map (·.relocate φ) := by
    have hnodes : fixed.nodes =
        (unit.nodes.map (·.markReadonly (o.reports (types.services? unit)))).map (·.relocate φ) :=
      rfl
    change (runRule o fixed types).2.diagnostics = _
    rw [(Progress.of_ok hrun).diagnostics, hservices, hfirst, hnodes, List.filterMap_map,
      List.filterMap_map, List.filter_filterMap, List.map_filterMap]
    refine List.filterMap_congr fun n _ => ?_
    exact (o.verdict_relocate hφ _ _ _).trans (congrArg _ (o.verdict_markReadonly _ _ n))
  -- only fields come with suggestions, and none of them is reported any more
  have hnone : ∀ d ∈ second, d.suggestions = [] := by
    intro d hd
    rw [hsecond] at hd
    obtain ⟨original, horiginal, rfl⟩ := List.mem_map.1 hd
    obtain ⟨horiginal, hid⟩ := List.mem_filter.1 horiginal
    rw [hfirst, List.mem_filterMap] at horiginal
    obtain ⟨n, -, hverdict⟩ := horiginal
    rcases RuleOptions.of_verdict_eq_some hverdict with ⟨f, -, -, rfl⟩ | ⟨-, -, hsuggestions⟩
    · exact absurd rfl (of_decide_eq_true hid)
    · rw [Diagnostic.relocate, hsuggestions]
      rfl
  exact ⟨filter_preferReadonly h, hrun, hsecond, hnone,
    applySuggestions_of_suggestions_eq_nil hnone⟩

end Convergence

/-- A class with two signals and an input decorator. The field `count` is readonly already; `total`
is a signal because it is initialized by `this.count`. -/
def sampleCounter : SourceUnit where
  path := "counter.ts"
  nodes := [
    .field ⟨.plain, .identifier "count" { startByte := 16, endByte := 21 }, none,
      some (.call (.identifier "signal" {}) [] [] {}), true, false, [], some "Counter", {}⟩,
    .field ⟨.plain, .identifier "total" { startByte := 35, endByte := 40 }, none,
      some (.member (.this {}) (.identifier "count" {}) false false { startByte := 43 }),
      false, false, [], some "Counter", {}⟩,
    .decorator ⟨.call (.identifier "Input" {}) [] [] {}, { startByte := 55, endByte := 63 }⟩]
  declarations := {
    classes := [⟨some "Counter", 0, 70⟩]
    members := ⟨[(⟨0, "count"⟩,
      ⟨"count", some (.reference (.simple "WritableSignal" {}) [] {}), none⟩)]⟩ }

/-- Nine bytes are inserted in front of the reported field. -/
theorem runRule_fixed_sampleCounter :
    let φ := fun n => if n < 35 then n else n + 9
    let fixed := (sampleCounter.markReadonly
      (RuleOptions.default.reports (some (.ofDeclarations sampleCounter.declarations)))).relocate φ
    (runRule .default sampleCounter .declarations).2.diagnostics.map
        (fun d => (d.messageId, d.span.startByte)) =
      [("preferReadonly", 35), ("preferInputSignal", 55)] ∧
    (runRule .default fixed .declarations).2.diagnostics.map
        (fun d => (d.messageId, d.span.startByte)) = [("preferInputSignal", 64)] := by
  intro φ fixed
  have hφ : StrictMono φ := by
    intro a b hab
    simp only [φ]
    split <;> split <;> omega
  have h : (runRule .default sampleCounter .declarations).1 = .ok () := rfl
  refine ⟨rfl, ?_⟩
  obtain ⟨-, -, hsecond, -⟩ := runRule_fixed hφ h
  exact (congrArg (List.map _) hsecond).trans rfl

end SignalLint
