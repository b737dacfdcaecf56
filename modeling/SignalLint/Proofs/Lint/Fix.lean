import SignalLint.Lint.Source
import SignalLint.Proofs.Diagnostic.Merge
import SignalLint.Proofs.Rule.Verdict
import SignalLint.Proofs.Tree.EnclosingClass

/-!
# What a fix does to a source

A source is parsed, the rule is run over its unit, and the suggestions of the diagnostics are
applied to the bytes of the source. The main statement, `applySuggestions_lintSource`, follows a
source all the way: its bytes come back with the modifier inserted once in front of each reported
field's key, and with nothing else changed.

* `Tree.span_toExpression`, `Tree.span_fieldKey` — the span of a key is that of a node of the tree,
  also when parentheses are taken off or the key is missing. So a key lies inside the source if all
  nodes of the tree do.
* `exists_visit_of_field_mem_nodes` — the fields of a unit are read off visited nodes.
* `mem_firstEdits_iff` — the edits that a run suggests are one for each first byte of the key of a
  reported field, and all have the same text.
* `parseSource_eq_ok`, `Linter.lintSource_eq_ok_iff` — what it takes to succeed.
-/

namespace SignalLint

/-- A span stands inside a source of `n` bytes. -/
def Span.Within (s : Span) (n : Nat) : Prop := s.startByte ≤ s.endByte ∧ s.endByte ≤ n

instance (s : Span) (n : Nat) : Decidable (s.Within n) :=
  inferInstanceAs (Decidable (_ ∧ _))

theorem Span.Within.startByte_le {s : Span} {n : Nat} (h : s.Within n) : s.startByte ≤ n :=
  Nat.le_trans h.1 h.2

/-! ### Where keys stand -/

namespace Tree

variable {P : Span → Prop} {t : Tree}

/-- What holds of the span of every node holds of the span of an expression that is read off a
node: it is the span of the node itself or of one inside its parentheses. -/
theorem span_toExpression (h : t.Everywhere fun t => P t.span) (source : Bytes) :
    P (t.toExpression source).span := by
  induction t using Tree.induction with
  | step t ih =>
    rw [toExpression_eq]
    cases hshape : t.shape with
    | parentheses inner =>
      -- the only shape that hands on to another node
      have hinner : inner ∈ t.children :=
        mem_children_of_mem_shape (by rw [hshape]; exact List.mem_singleton_self inner)
      exact ih inner hinner (h.child hinner)
    | _ => exact h.self

theorem span_fieldKey (h : t.Everywhere fun t => P t.span) (source : Bytes) :
    P (t.fieldKey source).span := by
  unfold fieldKey
  split
  · rename_i name hname
    exact span_toExpression (h.child (mem_children_of_key? hname)) source
  · exact h.self

end Tree

/-- The fields of a unit are read off visited nodes. -/
theorem exists_visit_of_field_mem_nodes {path language : String} {source : Bytes} {root : Tree}
    {hasErrors : Bool} {f : Field}
    (h : .field f ∈ (SourceUnit.ofTree path language source root hasErrors).nodes) :
    ∃ v ∈ root.walk, v.tree.kind ∈ Visit.fieldKinds ∧ f = v.toField source := by
  obtain ⟨c, hc, hnode⟩ := List.mem_filterMap.1 h
  obtain ⟨v, hv, hcontribution⟩ := List.mem_filterMap.1 hc
  -- of all that a node can add only a field shows up as one
  cases Visit.adds_of_contribution? hcontribution with
  | field kind =>
    cases hnode
    exact ⟨v, hv, kind, rfl⟩
  | _ => cases hnode

/-- Keys of fields lie inside the source if all nodes of the tree do. -/
theorem span_key_of_field_mem_nodes {path language : String} {source : Bytes} {root : Tree}
    {hasErrors : Bool} {f : Field} {P : Span → Prop}
    (hplaced : root.Everywhere fun t => P t.span)
    (h : .field f ∈ (SourceUnit.ofTree path language source root hasErrors).nodes) :
    P f.key.span := by
  obtain ⟨v, hv, -, rfl⟩ := exists_visit_of_field_mem_nodes h
  rw [Tree.walk_eq_preorder] at hv
  exact Tree.span_fieldKey (hplaced.below hv) source

/-! ### What a run suggests -/

section Suggested

variable {o : RuleOptions} {unit : SourceUnit} {types : TypeSupply}

/-- A run suggests one edit for each place where the key of a reported field starts. -/
theorem mem_firstEdits_iff (h : (runRule o unit types).1 = .ok ()) (e : TextEdit) :
    e ∈ firstEdits (runRule o unit types).2.diagnostics ↔
      ∃ f ∈ reportedFields o unit types, e = ⟨f.key.span.startByte, readonlyModifier⟩ := by
  rw [firstEdits, List.mem_eraseDups, List.mem_filterMap, (Progress.of_ok h).diagnostics]
  constructor
  · rintro ⟨d, hd, he⟩
    obtain ⟨n, hn, hverdict⟩ := List.mem_filterMap.1 hd
    rcases RuleOptions.of_verdict_eq_some hverdict with ⟨f, rfl, hreports, rfl⟩ | ⟨-, -, hnone⟩
    · exact ⟨f, mem_reportedFields.2 ⟨hn, hreports⟩, (Option.some.inj he).symm⟩
    · -- a node that is no field suggests nothing
      rw [hnone] at he
      cases he
  · rintro ⟨f, hf, rfl⟩
    obtain ⟨hn, hreports⟩ := mem_reportedFields.1 hf
    refine ⟨fieldDiagnostic unit.path f, List.mem_filterMap.2 ⟨.field f, hn, ?_⟩, rfl⟩
    rw [RuleOptions.verdict_field, if_pos hreports]

/-- The places where keys of reported fields start. -/
def keyStarts (fields : List Field) : Finset Nat :=
  (fields.map (·.key.span.startByte)).toFinset

theorem mem_keyStarts_iff {fields : List Field} {k : Nat} :
    k ∈ keyStarts fields ↔ ∃ f ∈ fields, f.key.span.startByte = k := by
  rw [keyStarts, List.mem_toFinset, List.mem_map]

/-- What applying the suggestions of a run does to a source in which the keys of the reported
fields lie. -/
theorem applySuggestions_runRule (h : (runRule o unit types).1 = .ok ()) {source : Bytes}
    (hplaced : ∀ f ∈ reportedFields o unit types, f.key.span.Within source.length) :
    applySuggestions source (runRule o unit types).2.diagnostics =
      (insertBefore (Utf8.encode readonlyModifier) (keyStarts (reportedFields o unit types)) 0
          source, (keyStarts (reportedFields o unit types)).card) := by
  have hedits := mem_firstEdits_iff h
  -- from here on only the membership in the edits matters
  generalize hfirst : firstEdits (runRule o unit types).2.diagnostics = edits at hedits
  have hnodup : edits.Nodup := by
    rw [← hfirst]
    exact nodup_eraseDups _
  have htext : ∀ e ∈ edits, e.text = readonlyModifier := by
    intro e he
    obtain ⟨f, -, rfl⟩ := (hedits e).1 he
    rfl
  have hK : ∀ k, k ∈ keyStarts (reportedFields o unit types) ↔
      ⟨(k : Int), readonlyModifier⟩ ∈ edits := by
    intro k
    rw [mem_keyStarts_iff, hedits]
    refine exists_congr fun f => and_congr_right fun _ => ?_
    rw [TextEdit.mk.injEq, and_iff_left rfl, Int.natCast_inj, eq_comm]
  have hrange : ∀ e ∈ edits, 0 ≤ e.offset ∧ e.offset ≤ (source.length : Int) := by
    intro e he
    obtain ⟨f, hf, rfl⟩ := (hedits e).1 he
    have hle := (hplaced f hf).startByte_le
    exact ⟨Int.natCast_nonneg _, Int.ofNat_le.2 hle⟩
  simp only [applySuggestions, hfirst]
  rw [foldl_apply_mergeSort_eq_mergeEdits hrange, mergeEdits_eq_insertBefore hnodup htext hK,
    length_eq_card_of_text_eq hnodup htext hK fun e he => (hrange e he).1]

end Suggested

/-! ### From source to source -/

section Source

variable {content path : String} {language : Option String}

/-- A source that is parsed has a tree, and its unit is read off this tree. -/
theorem parseSource_eq_ok {parser : Option Parser} {unit : SourceUnit}
    (h : (parseSource parser content path language).1 = .ok unit) :
    ∃ p name parsed, parser = some p ∧ p.parse? name (Utf8.encode content) = some parsed ∧
      unit = .ofTree path name (Utf8.encode content) parsed.root parsed.hasErrors := by
  unfold parseSource at h
  dsimp only at h
  split at h
  · cases h
  · rename_i name _
    split at h
    · cases h
    · rename_i p
      split at h
      · cases h
      · split at h
        · cases h
        · rename_i parsed hparsed
          cases h
          exact ⟨p, name, parsed, rfl, hparsed, rfl⟩

/-- A source is linted if it is parsed and the rule runs through. -/
theorem Linter.lintSource_eq_ok_iff {l : Linter} {ds : List Diagnostic} :
    (l.lintSource content path language).1 = .ok ds ↔
      ∃ unit, (parseSource l.parser content path language).1 = .ok unit ∧
        (runRule l.options unit l.types).1 = .ok () ∧
        ds = (runRule l.options unit l.types).2.diagnostics := by
  unfold Linter.lintSource Logged.andThen
  rcases parseSource l.parser content path language with ⟨e | unit, log⟩
  · exact ⟨nofun, nofun⟩
  · simp only [Except.ok.injEq, exists_eq_left']
    rcases runRule l.options unit l.types with ⟨e | _, state⟩
    · exact ⟨nofun, nofun⟩
    · exact ⟨fun h => ⟨rfl, (Except.ok.inj h).symm⟩, fun h => congrArg Except.ok h.2.symm⟩

/-- **What a fix does to a source.** Lint a source with success and apply what is suggested. If the
nodes of its parse tree lie inside the source, the bytes of the source come back with the modifier
inserted once at each place where the key of a reported field starts, and otherwise as they were;
the count is that of these places. At each of them, moved by the nine bytes of every insertion
before it, stands the modifier, and behind it the source from there on, as far as the next
insertion. -/
theorem applySuggestions_lintSource {l : Linter} {ds : List Diagnostic}
    (hplaced : ∀ p ∈ l.parser, ∀ name parsed, p.parse? name (Utf8.encode content) = some parsed →
      parsed.root.Everywhere fun t => t.span.Within (Utf8.encode content).length)
    (h : (l.lintSource content path language).1 = .ok ds) :
    let source := Utf8.encode content
    let modifier := Utf8.encode "readonly "
    ∃ unit, (parseSource l.parser content path language).1 = .ok unit ∧
      let fields := reportedFields l.options unit l.types
      let K := keyStarts fields
      ds.filter (·.messageId = "preferReadonly") = fields.map (fieldDiagnostic path) ∧
        applySuggestions source ds = (insertBefore modifier K 0 source, K.card) ∧
        ∀ f ∈ fields, ∀ stop, f.key.span.startByte ≤ stop → stop ≤ source.length →
          (∀ j ∈ K, f.key.span.startByte < j → stop ≤ j) →
          let start := f.key.span.startByte
          let moved := start + 9 * (K.filter (· < start)).card
          ((applySuggestions source ds).1.drop moved).take (9 + (stop - start)) =
            modifier ++ (source.take stop).drop start := by
  intro source modifier
  obtain ⟨unit, hparse, hrun, rfl⟩ := Linter.lintSource_eq_ok_iff.1 h
  obtain ⟨p, name, parsed, hparser, htree, hunit⟩ := parseSource_eq_ok hparse
  refine ⟨unit, hparse, ?_⟩
  intro fields K
  -- the keys come from nodes of the tree, so they lie inside the source
  have hkeys : ∀ f ∈ fields, f.key.span.Within source.length := by
    intro f hf
    obtain ⟨hnode, -⟩ := mem_reportedFields.1 hf
    rw [hunit] at hnode
    exact span_key_of_field_mem_nodes (P := (·.Within source.length))
      (hplaced p hparser name parsed htree) hnode
  have hfixed : applySuggestions source (runRule l.options unit l.types).2.diagnostics =
      (insertBefore modifier K 0 source, K.card) := applySuggestions_runRule hrun hkeys
  have hpath : unit.path = path := by rw [hunit]; rfl
  have hnine : modifier.length = 9 := by decide
  refine ⟨hpath ▸ filter_preferReadonly hrun, hfixed, fun f hf stop hle hstop hgap => ?_⟩
  have hstart : f.key.span.startByte ∈ K := mem_keyStarts_iff.2 ⟨f, hf, rfl⟩
  have hfound : ((insertBefore modifier K 0 source).drop _).take _ = modifier ++ _ :=
    take_drop_insertBefore hstart hle hstop hgap
  intro start moved
  rw [hnine] at hfound
  rw [hfixed]
  exact hfound

end Source

/-- The call in `class A { n = signal(0); }`. -/
def signalCall : Tree :=
  .node "call_expression" true { startByte := 14, endByte := 23 } (some "value") [
    .node "identifier" true { startByte := 14, endByte := 20 } (some "function") [],
    .node "arguments" true { startByte := 20, endByte := 23 } (some "arguments") []]

/-- The tree of `class A { n = signal(0); }`. -/
def signalClass : Tree :=
  .node "program" true { endByte := 26 } none [
    .node "class_declaration" true { endByte := 26 } none [
      .node "class" false { endByte := 5 } none [],
      .node "type_identifier" true { startByte := 6, endByte := 7 } (some "name") [],
      .node "class_body" true { startByte := 8, endByte := 26 } (some "body") [
        .node "public_field_definition" true { startByte := 10, endByte := 23 } none [
          .node "property_identifier" true { startByte := 10, endByte := 11 } (some "name") [],
          signalCall]]]]

/-- A linter that takes every source for `class A { n = signal(0); }`. -/
def signalClassLinter : Linter where
  config := {}
  options := .default
  parser := some ⟨["typescript"], fun _ _ => some { root := signalClass }⟩

/-- The call is read as one of `signal`, which makes the field a signal without its type. -/
theorem toExpression_signalCall :
    signalCall.toExpression (Utf8.encode "class A { n = signal(0); }") =
      .call (.identifier "signal" { startByte := 14, endByte := 20 }) [] []
        { startByte := 14, endByte := 23 } := by
  have hname : Span.text { startByte := 14, endByte := 20 }
      (Utf8.encode "class A { n = signal(0); }") = "signal" := by decide +kernel
  rw [Tree.toExpression_eq]
  change Expression.call (Tree.toExpression _ _) [] [] _ = _
  rw [Tree.toExpression_eq]
  exact congrArg (fun name => Expression.call (.identifier name _) [] [] _) hname

theorem applySuggestions_lintSource_signalClass :
    let content := "class A { n = signal(0); }"
    ∃ ds, (signalClassLinter.lintSource content "a.ts" (some "typescript")).1 = .ok ds ∧
      applySuggestions (Utf8.encode content) ds =
        (Utf8.encode "class A { readonly n = signal(0); }", 1) := by
  intro content
  let source := Utf8.encode content
  let unit := SourceUnit.ofTree "a.ts" "typescript" source signalClass false
  let field := (signalClass.preorder [])[5].toField source
  have hparse : (parseSource signalClassLinter.parser content "a.ts" (some "typescript")).1 =
    .ok unit := rfl
  have hrun : (runRule .default unit .declarations).1 = .ok () :=
    runRule_ok_iff.2 fun _ _ _ => rfl
  have hlint : (signalClassLinter.lintSource content "a.ts" (some "typescript")).1 =
      .ok (runRule .default unit .declarations).2.diagnostics :=
    Linter.lintSource_eq_ok_iff.2 ⟨unit, hparse, hrun, rfl⟩
  have hplaced : ∀ p ∈ signalClassLinter.parser, ∀ name parsed,
      p.parse? name source = some parsed →
        parsed.root.Everywhere fun t => t.span.Within source.length := by
    intro p hp name parsed hparsed
    -- whatever the language, the tree is the same one
    obtain rfl := Option.some.inj hp
    obtain ⟨-, hparsed⟩ := Option.ite_none_right_eq_some.1 hparsed
    obtain rfl := Option.some.inj hparsed
    rw [Tree.Everywhere, Tree.walk_eq_preorder]
    decide
  -- the unit has one node, and its initializer is a call of a function that creates signals
  have hnodes : unit.nodes = [.field field] := by
    simp only [unit, SourceUnit.ofTree, Tree.contributions, Tree.walk_eq_preorder]
    rfl
  have hreports : RuleOptions.default.reports (some (.ofDeclarations unit.declarations)) field =
      true := by
    have hvalue : field.value = some (signalCall.toExpression source) := rfl
    rw [toExpression_signalCall] at hvalue
    have htype : field.declaredType = none := rfl
    simp only [RuleOptions.reports, RuleOptions.isSignal, RuleOptions.judge, hvalue, htype]
    rfl
  have hfields : reportedFields .default unit .declarations = [field] := by
    rw [reportedFields, hnodes]
    exact List.filterMap_cons_some (if_pos hreports)
  have hkey : field.key.span.startByte = 10 := by
    change (Tree.toExpression _ _).span.startByte = 10
    rw [Tree.toExpression_eq]
    rfl
  obtain ⟨parsedUnit, hparsed, -, hfixed, -⟩ := applySuggestions_lintSource hplaced hlint
  obtain rfl : unit = parsedUnit := Except.ok.inj (hparse.symm.trans hparsed)
  have hstarts : keyStarts (reportedFields .default unit .declarations) = {10} := by
    rw [hfields, keyStarts, List.map_singleton, hkey]
    rfl
  refine ⟨_, hlint, hfixed.trans ?_⟩
  change (insertBefore _ (keyStarts (reportedFields .default unit .declarations)) 0 _,
    (keyStarts (reportedFields .default unit .declarations)).card) = _
  rw [hstarts]
  decide

end SignalLint
