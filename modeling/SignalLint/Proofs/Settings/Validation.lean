import Mathlib.Algebra.Group.Int.Defs
import Mathlib.Data.List.Nodup
import Mathlib.Data.String.Basic
import SignalLint.Proofs.Settings.Accepted
import SignalLint.Proofs.Value.Text

/-!
# Options that are accepted are understood

Whether options fit is decided by the schema of the rule; what they mean is decided by a reader that
looks at no schema and knows the options, and which of them are sets, on its own. This module puts
the two together.

* `OptionName.Misfit` — what can be wrong with one option, and in which words, said without the
  schema; `ruleSchema_objection?_eq_some_iff` has the schema say the same.
* `Schema.check_eq_error_iff` — options are refused for the first one that does not fit.
* `RuleOptions.Has` — an option has a value, where sets are compared by their members;
  `RuleOptions.exists_set_loosen` is one option that fits, `RuleOptions.exists_setAll_loosen` goes
  through all of them.
* `exists_resolve_eq_loosen` — options that are accepted are resolved, and each option has its value.

The main statement is `check_outcome`.
-/

namespace SignalLint

/-! ### What fits -/

namespace OptionName

/-- Whether an option is a flag; the others are sets of names. -/
def isFlag : OptionName → Bool
  | typesToReplace | signalCreationFunctions => false
  | preferReadonly | preferInputSignal | preferQuerySignal | useTypeChecking => true

/-- What an option takes: a flag a truth value, a set of names a list of texts. -/
def Fits (name : OptionName) (v : Value) : Prop :=
  if name.isFlag then ∃ b, v = .bool b else ∃ texts : List String, v = .list (texts.map .text)

/-- **What is wrong with an option**, and in which words: there is no option of this name, or the
option does not take the value. -/
inductive Misfit : String → Value → String → Prop where
  | unknown {key : String} {v : Value} (h : ∀ name : OptionName, name.name ≠ key) :
      Misfit key v ("unknown option; expected one of preferInputSignal, preferQuerySignal, " ++
        "preferReadonly, signalCreationFunctions, typesToReplace, useTypeChecking")
  | noFlag {name : OptionName} {v : Value} (h : name.isFlag = true) (hv : ∀ b, v ≠ .bool b) :
      Misfit name.name v "expected a boolean"
  | noList {name : OptionName} {v : Value} (h : name.isFlag = false) (hv : ∀ vs, v ≠ .list vs) :
      Misfit name.name v "expected an array"
  | noTexts {name : OptionName} {vs : List Value} (h : name.isFlag = false)
      (hv : ∃ item ∈ vs, ∀ s, item ≠ .text s) :
      Misfit name.name (.list vs) "expected an array of strings"

theorem name_injective : Function.Injective name := by
  intro o o' h
  have hkey := congrArg ofKey? h
  rw [ofKey?_name, ofKey?_name] at hkey
  exact Option.some.inj hkey

theorem type_of_isFlag {o : OptionName} (h : o.isFlag = true) : o.type = .boolean := by
  cases o <;> first | rfl | cases h

theorem type_of_not_isFlag {o : OptionName} (h : o.isFlag = false) : o.type = .array true := by
  cases o <;> first | rfl | cases h

end OptionName

/-- The texts of a list of texts. -/
theorem Value.all_isText_iff {items : List Value} :
    items.all isText = true ↔ ∃ texts : List String, items = texts.map text := by
  -- the induction is on the list, and a text comes in front of the texts of the rest
  induction items with
  | nil => exact iff_of_true rfl ⟨[], rfl⟩
  | cons v items ih =>
    rw [List.all_cons, Bool.and_eq_true, ih]
    constructor
    · rintro ⟨hv, texts, rfl⟩
      cases v with
      | text s => exact ⟨s :: texts, rfl⟩
      | _ => cases hv
    · rintro ⟨texts, htexts⟩
      cases texts with
      | nil => cases htexts
      | cons s texts =>
        obtain ⟨rfl, rfl⟩ := List.cons.inj htexts
        exact ⟨rfl, texts, rfl⟩

/-- A list with an item that is no text. -/
theorem Value.all_isText_eq_false_iff {items : List Value} :
    items.all isText = false ↔ ∃ item ∈ items, ∀ s, item ≠ text s := by
  rw [List.all_eq_false]
  refine exists_congr fun item => and_congr_right fun _ => ?_
  cases item <;> simp [isText]

/-! ### The schema -/

/-- The schema has an entry for each option. -/
theorem ruleSchema_type?_name (o : OptionName) : ruleSchema.type? o.name = some o.type := by
  cases o <;> rfl

/-- The schema has no other entries. -/
theorem ruleSchema_type?_eq_none {key : String} (h : ∀ o : OptionName, o.name ≠ key) :
    ruleSchema.type? key = none := by
  have hfind : ruleSchema.properties.find? (·.1 = key) = none := by
    refine List.find?_eq_none.2 fun p hp => ?_
    obtain ⟨o, -, rfl⟩ := List.mem_map.1 hp
    simpa using h o
  rw [Schema.type?, hfind]
  rfl

/-- The options by their names, in the order of the texts. -/
theorem ruleSchema_names : ruleSchema.names =
    ["preferInputSignal", "preferQuerySignal", "preferReadonly", "signalCreationFunctions",
      "typesToReplace", "useTypeChecking"] := by
  have hle (a b : String) : (!decide (b < a)) = true ↔ a ≤ b := by
    rw [Bool.not_eq_true', decide_eq_false_iff_not, not_lt]
  have hsorted : ruleSchema.names.Pairwise fun a b => (!decide (b < a)) = true := by
    refine List.pairwise_mergeSort (fun a b c hab hbc => ?_) (fun a b => ?_) _
    · exact (hle a c).2 (((hle a b).1 hab).trans ((hle b c).1 hbc))
    · rw [Bool.or_eq_true, hle, hle]
      exact le_total a b
  -- sorting recurses on lengths and does not compute: a sorted list is told by its members
  refine List.Perm.eq_of_pairwise (fun a b _ _ => le_antisymm)
    (hsorted.imp fun {a b} hab => (hle a b).1 hab) (by decide) ?_
  refine (List.mergeSort_perm _ _).trans ?_
  decide

theorem OptionName.type_objection?_eq_some_iff {o : OptionName} {v : Value} {reason : String} :
    o.type.objection? v = some reason ↔ Misfit o.name v reason := by
  constructor
  · intro h
    -- by the kind of the option, and then by the constructor that this kind takes
    cases hflag : o.isFlag with
    | true =>
      rw [type_of_isFlag hflag] at h
      unfold PropertyType.objection? at h
      cases v with
      | bool b => cases h
      | _ =>
        obtain rfl := Option.some.inj h
        exact .noFlag hflag nofun
    | false =>
      rw [type_of_not_isFlag hflag] at h
      unfold PropertyType.objection? at h
      cases v with
      | list items =>
        dsimp only at h
        split at h
        · rename_i hitems
          obtain rfl := Option.some.inj h
          exact .noTexts hflag (Value.all_isText_eq_false_iff.1 (by simpa using hitems))
        · cases h
      | _ =>
        obtain rfl := Option.some.inj h
        exact .noList hflag nofun
  · -- the misfit is about a name: it is made a variable, so that the cases can be gone through
    generalize hkey : o.name = key
    intro h
    cases h with
    | unknown hname => exact absurd hkey (hname o)
    | noFlag hflag hv =>
      rw [name_injective hkey, type_of_isFlag hflag]
      cases v with
      | bool b => exact absurd rfl (hv b)
      | _ => rfl
    | noList hflag hv =>
      rw [name_injective hkey, type_of_not_isFlag hflag]
      cases v with
      | list vs => exact absurd rfl (hv vs)
      | _ => rfl
    | noTexts hflag hv =>
      rw [name_injective hkey, type_of_not_isFlag hflag, PropertyType.objection?,
        Value.all_isText_eq_false_iff.2 hv]
      rfl

/-- **What the schema finds wrong with an option is what is wrong with it.** -/
theorem ruleSchema_objection?_eq_some_iff {key : String} {v : Value} {reason : String} :
    ruleSchema.objection? key v = some reason ↔ OptionName.Misfit key v reason := by
  -- either the key is the name of an option, or nothing fits
  by_cases hkey : ∃ o : OptionName, o.name = key
  · obtain ⟨o, rfl⟩ := hkey
    rw [Schema.objection?, ruleSchema_type?_name]
    exact OptionName.type_objection?_eq_some_iff
  · have hno : ∀ o : OptionName, o.name ≠ key := fun o ho => hkey ⟨o, ho⟩
    have hobjection : ruleSchema.objection? key v =
        some ("unknown option; expected one of preferInputSignal, preferQuerySignal, " ++
          "preferReadonly, signalCreationFunctions, typesToReplace, useTypeChecking") := by
      rw [Schema.objection?, ruleSchema_type?_eq_none hno, ruleSchema_names]
      rfl
    rw [hobjection]
    constructor
    · intro h
      obtain rfl := Option.some.inj h
      exact .unknown hno
    · intro h
      cases h with
      | unknown => rfl
      | noFlag | noList | noTexts => exact absurd rfl (hno _)

theorem OptionName.type_objection?_eq_none_iff {o : OptionName} {v : Value} :
    o.type.objection? v = none ↔ o.Fits v := by
  unfold Fits
  cases hflag : o.isFlag with
  | true =>
    rw [type_of_isFlag hflag, if_pos rfl]
    unfold PropertyType.objection?
    cases v with
    | bool b => exact iff_of_true rfl ⟨b, rfl⟩
    | _ => exact iff_of_false nofun nofun
  | false =>
    rw [type_of_not_isFlag hflag, if_neg Bool.false_ne_true]
    unfold PropertyType.objection?
    cases v with
    | list items => simp [← Value.all_isText_iff]
    | _ => exact iff_of_false nofun nofun

theorem ruleSchema_objection?_eq_none_iff {key : String} {v : Value} :
    ruleSchema.objection? key v = none ↔ ∃ o : OptionName, o.name = key ∧ o.Fits v := by
  constructor
  · intro h
    obtain ⟨o, hkey, ho⟩ := exists_of_ruleSchema_objection?_eq_none h
    exact ⟨o, hkey, OptionName.type_objection?_eq_none_iff.1 ho⟩
  · rintro ⟨o, rfl, ho⟩
    rw [Schema.objection?, ruleSchema_type?_name]
    exact OptionName.type_objection?_eq_none_iff.2 ho

/-- **Options are refused for the first one that something is wrong with.** -/
theorem Schema.check_eq_error_iff {schema : Schema} {entries : List (String × Value)}
    {e : Failure} : schema.check (.table entries) = .error e ↔
    ∃ before key v after reason, entries = before ++ (key, v) :: after ∧
      (∀ x ∈ before, schema.objection? x.1 x.2 = none) ∧
      schema.objection? key v = some reason ∧ e = .misfit key v reason := by
  -- a loop that ends early ends at one entry, and has gone past all before it
  refine Except.forM_eq_error_iff.trans ?_
  constructor
  · rintro ⟨before, ⟨key, v⟩, after, hentries, hbefore, herror⟩
    dsimp only at herror
    split at herror
    · rename_i reason hreason
      exact ⟨before, key, v, after, reason, hentries, check_eq_ok_iff.1
        (Except.forM_eq_ok_iff.2 hbefore), hreason, (Except.error.inj herror).symm⟩
    · cases herror
  · rintro ⟨before, key, v, after, reason, hentries, hbefore, hreason, rfl⟩
    refine ⟨before, (key, v), after, hentries,
      Except.forM_eq_ok_iff.1 (check_eq_ok_iff.2 hbefore), ?_⟩
    simp only [hreason]

/-! ### Sets of names -/

namespace Value

/-- The distinct texts of a list, behind those already seen. -/
theorem exists_foldl_distinct_texts (texts : List String) {seen : List String}
    (hseen : seen.Nodup) :
    ∃ names : List String, (texts.map text).foldl
        (fun seen v => if seen.any (·.same v) then seen else seen ++ [v]) (seen.map text) =
          names.map text ∧
      names.Nodup ∧ ∀ s, s ∈ names ↔ s ∈ seen ∨ s ∈ texts := by
  -- the induction is on the texts to come, and `seen` holds those that were taken
  induction texts generalizing seen with
  | nil => exact ⟨seen, rfl, hseen, fun s => by simp⟩
  | cons t texts ih =>
    have hany : (seen.map text).any (·.same (text t)) = true ↔ t ∈ seen := by
      simp [same, number?]
    rw [List.map_cons, List.foldl_cons]
    by_cases ht : t ∈ seen
    · rw [if_pos (hany.2 ht)]
      obtain ⟨names, hnames, hnodup, hmem⟩ := ih hseen
      refine ⟨names, hnames, hnodup, fun s => ?_⟩
      rw [hmem, List.mem_cons]
      refine ⟨Or.imp_right Or.inr, fun h => ?_⟩
      rcases h with h | rfl | h
      · exact Or.inl h
      · exact Or.inl ht
      · exact Or.inr h
    · -- a text that is not yet there goes to the end
      have hmore : (seen ++ [t]).Nodup := by
        rw [← List.concat_eq_append]
        exact hseen.concat ht
      rw [if_neg (fun h => ht (hany.1 h))]
      obtain ⟨names, hnames, hnodup, hmem⟩ := ih hmore
      rw [List.map_append] at hnames
      refine ⟨names, hnames, hnodup, fun s => ?_⟩
      rw [hmem, List.mem_append, List.mem_singleton, List.mem_cons, or_assoc]

/-- **A list of texts as a set** has the same members, each once. -/
theorem exists_asSet_texts (texts : List String) :
    ∃ names : List String, (list (texts.map text)).asSet = .ok (names.map text) ∧
      names.Nodup ∧ ∀ s, s ∈ names ↔ s ∈ texts := by
  obtain ⟨names, hnames, hnodup, hmem⟩ := exists_foldl_distinct_texts texts List.nodup_nil
  refine ⟨names, ?_, hnodup, fun s => by simp [hmem]⟩
  rw [asSet_of_all_isText (all_isText_iff.2 ⟨texts, rfl⟩), ← hnames]
  rfl

end Value

/-! ### What an option is -/

/-- The value of an option that nobody gives. -/
def OptionName.default : OptionName → Value
  | typesToReplace => .list [.text "BehaviorSubject"]
  | preferReadonly | preferInputSignal | preferQuerySignal | useTypeChecking => .bool true
  | signalCreationFunctions => .list []

namespace RuleOptions

/-- The names are the texts of a list, each once. -/
def NamesOf (names : List String) (v : Value) : Prop :=
  ∃ texts : List String, v = .list (texts.map .text) ∧ names.Nodup ∧ ∀ s, s ∈ names ↔ s ∈ texts

/-- **An option has a value**: a flag is the truth value, a set has the items of the list as its
members. -/
def Has (o : RuleOptions) : OptionName → Value → Prop
  | .typesToReplace, v => NamesOf o.typesToReplace v
  | .preferReadonly, v => v = .bool o.preferReadonly
  | .preferInputSignal, v => v = .bool o.preferInputSignal
  | .preferQuerySignal, v => v = .bool o.preferQuerySignal
  | .useTypeChecking, v => v = .bool o.useTypeChecking
  | .signalCreationFunctions, v => NamesOf o.signalCreationFunctions v

theorem has_default (name : OptionName) : RuleOptions.default.Has name name.default := by
  cases name with
  | typesToReplace => exact ⟨["BehaviorSubject"], rfl, List.nodup_singleton _, fun _ => Iff.rfl⟩
  | signalCreationFunctions => exact ⟨[], rfl, List.nodup_nil, fun _ => Iff.rfl⟩
  | _ => rfl

end RuleOptions

/-- Options are settled as what they were before they were loosened. -/
theorem LooseOptions.settle_loosen (o : RuleOptions) : LooseOptions.settle o.loosen = o := by
  simp [settle, Options.loosen, Options.map, Value.isTruthy, Function.comp_def, nameOf]

/-! ### Setting options -/

namespace RuleOptions

/-- Options with one of them changed: a flag to the truth value, a set to the names. -/
def change (o : RuleOptions) (b : Bool) (names : List String) : OptionName → RuleOptions
  | .typesToReplace => { o with typesToReplace := names }
  | .preferReadonly => { o with preferReadonly := b }
  | .preferInputSignal => { o with preferInputSignal := b }
  | .preferQuerySignal => { o with preferQuerySignal := b }
  | .useTypeChecking => { o with useTypeChecking := b }
  | .signalCreationFunctions => { o with signalCreationFunctions := names }

variable {o : RuleOptions} {b : Bool} {names : List String} {name other : OptionName} {v : Value}

/-- The options that are not changed keep their values. -/
theorem has_change_of_ne (h : other ≠ name) :
    (o.change b names name).Has other v ↔ o.Has other v := by
  cases name <;> cases other <;> first | exact Iff.rfl | exact absurd rfl h

theorem has_change_of_isFlag (h : name.isFlag = true) :
    (o.change b names name).Has name (.bool b) := by
  cases name <;> first | rfl | cases h

theorem has_change_of_not_isFlag (h : name.isFlag = false) (hnames : NamesOf names v) :
    (o.change b names name).Has name v := by
  cases name <;> first | exact hnames | cases h

theorem set_loosen_bool (h : name.isFlag = true) :
    o.loosen.set name (.bool b) = .ok (o.change b names name).loosen := by
  cases name <;> first | rfl | cases h

theorem set_loosen_list (h : name.isFlag = false) {vs : List Value}
    (hset : (Value.list vs).asSet = .ok (names.map .text)) :
    o.loosen.set name (.list vs) = .ok (o.change b names name).loosen := by
  cases name with
  | typesToReplace | signalCreationFunctions =>
    rw [LooseOptions.set, hset]
    rfl
  | _ => cases h

/-- **One option that fits**: it gets its value, and the others keep theirs. -/
theorem exists_set_loosen (o : RuleOptions) (h : name.Fits v) :
    ∃ o' : RuleOptions, o.loosen.set name v = .ok o'.loosen ∧ o'.Has name v ∧
      ∀ other, other ≠ name → ∀ w, o.Has other w → o'.Has other w := by
  unfold OptionName.Fits at h
  cases hflag : name.isFlag with
  | true =>
    rw [hflag, if_pos rfl] at h
    obtain ⟨b, rfl⟩ := h
    exact ⟨o.change b [] name, set_loosen_bool hflag, has_change_of_isFlag hflag,
      fun other hother w hw => (has_change_of_ne hother).2 hw⟩
  | false =>
    rw [hflag, if_neg Bool.false_ne_true] at h
    obtain ⟨texts, rfl⟩ := h
    obtain ⟨names, hset, hnodup, hmem⟩ := Value.exists_asSet_texts texts
    exact ⟨o.change true names name, set_loosen_list hflag hset,
      has_change_of_not_isFlag hflag ⟨texts, rfl, hnodup, hmem⟩,
      fun other hother w hw => (has_change_of_ne hother).2 hw⟩

/-- **All options that fit**: each that is given has the last value it is given, and the others
keep theirs. -/
theorem exists_setAll_loosen {entries : List (String × Value)}
    (hfits : ∀ x ∈ entries, ∃ name : OptionName, name.name = x.1 ∧ name.Fits x.2)
    {values : OptionName → Value} (hvalues : ∀ name, o.Has name (values name)) :
    ∃ o' : RuleOptions, o.loosen.setAll entries = .ok o'.loosen ∧
      ∀ name, o'.Has name (((Table.ofList entries).get? name.name).getD (values name)) := by
  -- the induction is on the entries to come, and `values` are what the options have so far
  induction entries generalizing o values with
  | nil => exact ⟨o, rfl, hvalues⟩
  | cons x entries ih =>
    obtain ⟨key, v⟩ := x
    obtain ⟨name, hname, hfit⟩ := hfits _ List.mem_cons_self
    dsimp only at hname hfit
    subst hname
    obtain ⟨o₁, hset, hgiven, hothers⟩ := exists_set_loosen o hfit
    -- the values after this entry
    have hvalues₁ : ∀ other, o₁.Has other (if other = name then v else values other) := by
      intro other
      split
      · rename_i hother
        rwa [hother]
      · rename_i hother
        exact hothers other hother _ (hvalues other)
    obtain ⟨o', hrest, hhas⟩ := ih (fun x hx => hfits x (List.mem_cons_of_mem _ hx)) hvalues₁
    refine ⟨o', ?_, fun other => ?_⟩
    · rw [LooseOptions.setAll, List.foldlM_cons]
      dsimp only
      rw [OptionName.ofKey?_name]
      dsimp only
      rw [hset]
      exact hrest
    · rw [Table.get?_ofList_cons, Option.getD_or]
      convert hhas other using 2
      -- later entries win: this one counts where no later one has the same name
      by_cases hother : other = name
      · rw [if_pos hother, if_pos (congrArg _ hother)]
        rfl
      · rw [if_neg hother, if_neg (fun h => hother (OptionName.name_injective h))]
        rfl

end RuleOptions

/-- **Options that are accepted are resolved**: each that is given has its value, the others are
as if none were given. -/
theorem exists_resolve_eq_loosen {entries : List (String × Value)}
    (h : ruleSchema.check (.table entries) = .ok ()) :
    ∃ o : RuleOptions, LooseOptions.resolve (.table entries) = .ok o.loosen ∧
      ∀ name : OptionName,
        o.Has name (((Table.ofList entries).get? name.name).getD name.default) := by
  have hfits : ∀ x ∈ entries, ∃ name : OptionName, name.name = x.1 ∧ name.Fits x.2 :=
    fun x hx => ruleSchema_objection?_eq_none_iff.1 (Schema.check_eq_ok_iff.1 h x hx)
  obtain ⟨o, hset, hhas⟩ := RuleOptions.exists_setAll_loosen hfits RuleOptions.has_default
  refine ⟨o, LooseOptions.resolve_table (fun x hx => ?_) hset, hhas⟩
  exact (hfits x hx).imp fun _ => And.left

/-- A linter is made for options that are accepted, with what they are resolved to. -/
theorem Linter.make_of_resolve {config : LintConfig} (parser : Option Parser) {o : RuleOptions}
    (hcheck : ruleSchema.check config.ruleOptions = .ok ())
    (hresolve : LooseOptions.resolve config.ruleOptions = .ok o.loosen) :
    make config parser = .ok ⟨config, o, parser⟩ := by
  simp only [make, hcheck, hresolve, LooseOptions.settle_loosen]

/-- **What becomes of the options of the rule.** They are refused if and only if one of them does
not fit. The error names the first that does not, with what is wrong with it; only if the value holds
a long integer it cannot be made, since it would tell the value. Options that are accepted are
resolved: an option that is given has its value, where a set has the items of its list as members, and
the others have their defaults. A linter is made for all options that are accepted. -/
theorem check_outcome (entries : List (String × Value)) :
    ((∃ e, ruleSchema.check (.table entries) = .error e) ↔
      ∃ x ∈ entries, ∃ reason, OptionName.Misfit x.1 x.2 reason) ∧
    (∀ e, ruleSchema.check (.table entries) = .error e ↔
      ∃ before key v after reason, entries = before ++ (key, v) :: after ∧
        (∀ x ∈ before, ∀ reason, ¬ OptionName.Misfit x.1 x.2 reason) ∧
        OptionName.Misfit key v reason ∧
        (¬ v.HoldsLong ∧ e = .error (.invalidSetting key v reason) ∨
          v.HoldsLong ∧ e = .fault (.tooManyDigits none))) ∧
    (ruleSchema.check (.table entries) = .ok () →
      ∃ o : RuleOptions, LooseOptions.resolve (.table entries) = .ok o.loosen ∧
        (∀ name : OptionName,
          o.Has name (((Table.ofList entries).get? name.name).getD name.default)) ∧
        ∀ (config : LintConfig) (parser : Option Parser), config.ruleOptions = .table entries →
          Linter.make config parser = .ok ⟨config, o, parser⟩) := by
  refine ⟨?_, ?_, ?_⟩
  · have hok : ruleSchema.check (.table entries) = .ok () ↔ _ := Schema.check_eq_ok_iff
    simp only [← ruleSchema_objection?_eq_some_iff, ← Option.ne_none_iff_exists']
    -- to be refused is not to be accepted, and accepted is what passes at every entry
    cases hcheck : ruleSchema.check (.table entries) with
    | ok u =>
      refine iff_of_false nofun ?_
      rintro ⟨x, hx, hobjection⟩
      exact hobjection (hok.1 hcheck x hx)
    | error e =>
      refine iff_of_true ⟨e, rfl⟩ ?_
      by_contra hnone
      have haccepted := hok.2 fun x hx => by_contra fun hx' => hnone ⟨x, hx, hx'⟩
      exact nomatch hcheck.symm.trans haccepted
  · intro e
    rw [Schema.check_eq_error_iff]
    simp only [Option.eq_none_iff_forall_ne_some, ne_eq, ruleSchema_objection?_eq_some_iff,
      Failure.eq_misfit_iff]
  · intro hcheck
    obtain ⟨o, hresolve, hhas⟩ := exists_resolve_eq_loosen hcheck
    refine ⟨o, hresolve, hhas, fun config parser hconfig => ?_⟩
    exact Linter.make_of_resolve parser (hconfig ▸ hcheck) (hconfig ▸ hresolve)

/-- Two options are given, one of them a list that repeats a name; and two are given that do not
fit. -/
theorem check_outcome_repeated_name_and_two_misfits :
    (∃ o : RuleOptions, LooseOptions.resolve (.table [("preferReadonly", .bool false),
        ("typesToReplace", .list [.text "B", .text "A", .text "B"])]) = .ok o.loosen ∧
      o.Has .preferReadonly (.bool false) ∧
      o.Has .typesToReplace (.list [.text "B", .text "A", .text "B"]) ∧
      o.Has .useTypeChecking (.bool true) ∧
      Linter.make { ruleOptions := .table [("preferReadonly", .bool false),
        ("typesToReplace", .list [.text "B", .text "A", .text "B"])] } none =
          .ok ⟨{ ruleOptions := .table [("preferReadonly", .bool false),
            ("typesToReplace", .list [.text "B", .text "A", .text "B"])] }, o, none⟩) ∧
    ruleSchema.check (.table [("preferReadonly", .bool true), ("typesToReplace", .text "A"),
        ("colour", .null)]) =
      .error (.error (.invalidSetting "typesToReplace" (.text "A") "expected an array")) := by
  constructor
  · obtain ⟨o, hresolve, hhas, hmake⟩ := (check_outcome [("preferReadonly", .bool false),
      ("typesToReplace", .list [.text "B", .text "A", .text "B"])]).2.2 rfl
    exact ⟨o, hresolve, hhas .preferReadonly, hhas .typesToReplace, hhas .useTypeChecking,
      hmake _ none rfl⟩
  · have hmisfit : OptionName.Misfit OptionName.typesToReplace.name (.text "A")
        "expected an array" := .noList rfl nofun
    have hfits : ∀ reason, ¬ OptionName.Misfit OptionName.preferReadonly.name (.bool true) reason :=
      fun reason h => nomatch ruleSchema_objection?_eq_some_iff.2 h
    refine ((check_outcome _).2.1 _).2 ⟨[("preferReadonly", .bool true)], _, _,
      [("colour", .null)], _, rfl, fun x hx => ?_, hmisfit, .inl ⟨nofun, rfl⟩⟩
    rw [List.mem_singleton.1 hx]
    exact hfits

/-- An integer of 5001 digits is no truth value, and no error tells it. -/
theorem check_longInteger :
    OptionName.Misfit "preferReadonly" (.int (10 ^ 5000)) "expected a boolean" ∧
      ruleSchema.check (.table [("preferReadonly", .int (10 ^ 5000))]) =
        .error (.fault (.tooManyDigits none)) := by
  have hmisfit : OptionName.Misfit "preferReadonly" (.int (10 ^ 5000)) "expected a boolean" :=
    show OptionName.Misfit OptionName.preferReadonly.name _ _ from .noFlag rfl nofun
  have hlong : Value.HoldsLong (.int (10 ^ 5000)) := .power (by decide)
  refine ⟨hmisfit, Schema.check_eq_error_iff.2 ⟨[], _, _, [], _, rfl, nofun,
    ruleSchema_objection?_eq_some_iff.2 hmisfit, ?_⟩⟩
  exact Failure.eq_misfit_iff.2 (.inr ⟨hlong, rfl⟩)

end SignalLint
