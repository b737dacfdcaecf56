import Mathlib.Data.List.Sort
import SignalLint.Proofs.Settings.Validation

/-!
# Options are read back

Options are written with their public names and their sets as sorted lists, and read as a table of
any values. Writing and reading take different views of a set, so what comes back are the same
options rather than the same lists.

* `Value.sorted_texts` — sorting texts is a sort: it does not stop, and it leaves the texts.
* `RuleOptions.toValue_loosen` — how options are written.
* `RuleOptions.SameAs` — options are the same if their flags are and their sets have the same
  members; `exists_resolve_entries` reads them back.
* `RuleOptions.sorted_eq_of_sameAs` — the same options are written in the same way, so writing is a
  normal form of options that are given.

The main statement is `options_roundTrip`.
-/

namespace SignalLint

/-! ### Sorting texts -/

namespace Value

/-- A text is put in its place among sorted texts. -/
theorem exists_insertSorted_texts (s : String) {texts : List String}
    (h : texts.Pairwise (· ≤ ·)) :
    ∃ more : List String, insertSorted (text s) (texts.map text) = .ok (more.map text) ∧
      more.Pairwise (· ≤ ·) ∧ more.Perm (s :: texts) := by
  -- the induction is on the sorted texts: the place is in front of the first, or further on
  induction texts with
  | nil => exact ⟨[s], rfl, List.pairwise_singleton _ _, List.Perm.refl _⟩
  | cons t texts ih =>
    obtain ⟨ht, htexts⟩ := List.pairwise_cons.1 h
    have hbefore : (text s).before (text t) = .ok (decide (s < t)) := rfl
    rw [List.map_cons, insertSorted, hbefore]
    by_cases hst : s < t
    · -- the first greater text is reached
      refine ⟨s :: t :: texts, ?_, List.pairwise_cons.2 ⟨?_, h⟩, List.Perm.refl _⟩
      · rw [decide_eq_true hst]
        rfl
      · intro u hu
        rcases List.mem_cons.1 hu with rfl | hu
        · exact hst.le
        · exact hst.le.trans (ht u hu)
    · obtain ⟨more, hmore, hsorted, hperm⟩ := ih htexts
      refine ⟨t :: more, ?_, List.pairwise_cons.2 ⟨?_, hsorted⟩, ?_⟩
      · rw [decide_eq_false hst, hmore]
        rfl
      · intro u hu
        rcases List.mem_cons.1 (hperm.mem_iff.1 hu) with rfl | hu
        · exact not_lt.1 hst
        · exact ht u hu
      · exact (hperm.cons t).trans (List.Perm.swap s t texts)

/-- The texts that are already in order stay in order while others are put in their places. -/
theorem exists_foldlM_insertSorted_texts (texts : List String) {done : List String}
    (h : done.Pairwise (· ≤ ·)) :
    ∃ all : List String, (texts.map text).foldlM (fun done v => insertSorted v done)
        (done.map text) = .ok (all.map text) ∧
      all.Pairwise (· ≤ ·) ∧ all.Perm (texts ++ done) := by
  -- the induction is on the texts to come; `done` is in order throughout
  induction texts generalizing done with
  | nil => exact ⟨done, rfl, h, List.Perm.refl _⟩
  | cons s texts ih =>
    obtain ⟨more, hmore, hsorted, hperm⟩ := exists_insertSorted_texts s h
    obtain ⟨all, hall, hall', hperm'⟩ := ih hsorted
    refine ⟨all, ?_, hall', ?_⟩
    · rw [List.map_cons, List.foldlM_cons, hmore]
      exact hall
    · exact hperm'.trans ((hperm.append_left texts).trans List.perm_middle)

/-- **Sorting texts is a sort.** -/
theorem sorted_texts (texts : List String) :
    sorted (texts.map text) = .ok ((texts.insertionSort (· ≤ ·)).map text) := by
  have hnil : ([] : List String).Pairwise (· ≤ ·) := List.Pairwise.nil
  obtain ⟨all, hall, hsorted, hperm⟩ := exists_foldlM_insertSorted_texts texts hnil
  -- texts have one order, so it does not matter that the sorts go through them in other directions
  have heq : all = texts.insertionSort (· ≤ ·) := by
    refine List.Perm.eq_of_pairwise (fun a b _ _ => le_antisymm) hsorted
      (List.pairwise_insertionSort _ _) (hperm.trans ?_)
    rw [List.append_nil]
    exact (List.perm_insertionSort _ _).symm
  rw [← heq]
  exact hall

end Value

/-- One set has one sorted list. -/
theorem insertionSort_eq_of_mem_iff {names names' : List String} (h : names.Nodup)
    (h' : names'.Nodup) (hmem : ∀ s, s ∈ names ↔ s ∈ names') :
    names.insertionSort (· ≤ ·) = names'.insertionSort (· ≤ ·) := by
  refine List.Perm.eq_of_pairwise (fun a b _ _ => le_antisymm) (List.pairwise_insertionSort _ _)
    (List.pairwise_insertionSort _ _) ?_
  exact (List.perm_insertionSort _ _).trans
    (((List.perm_ext_iff_of_nodup h h').2 hmem).trans (List.perm_insertionSort _ _).symm)

theorem pairwise_lt_insertionSort {names : List String} (h : names.Nodup) :
    (names.insertionSort (· ≤ ·)).Pairwise (· < ·) :=
  (List.pairwise_insertionSort _ names).imp₂ (fun _ _ hle hne => lt_of_le_of_ne hle hne)
    ((List.perm_insertionSort _ names).nodup_iff.2 h)

namespace RuleOptions

/-! ### Writing options -/

/-- The value that an option has, a set as the list that it is. -/
def value (o : RuleOptions) : OptionName → Value
  | .typesToReplace => .list (o.typesToReplace.map .text)
  | .preferReadonly => .bool o.preferReadonly
  | .preferInputSignal => .bool o.preferInputSignal
  | .preferQuerySignal => .bool o.preferQuerySignal
  | .useTypeChecking => .bool o.useTypeChecking
  | .signalCreationFunctions => .list (o.signalCreationFunctions.map .text)

/-- All options under their public names, in the order in which they are listed. -/
def entries (o : RuleOptions) : List (String × Value) :=
  OptionName.all.map fun name => (name.name, o.value name)

/-- Options with their sets in order. -/
def sorted (o : RuleOptions) : RuleOptions :=
  { o with
    typesToReplace := o.typesToReplace.insertionSort (· ≤ ·)
    signalCreationFunctions := o.signalCreationFunctions.insertionSort (· ≤ ·) }

/-- **Options are written with their sets in order.** -/
theorem toValue_loosen (o : RuleOptions) : o.loosen.toValue = .ok (.table o.sorted.entries) := by
  have htypes : o.loosen.typesToReplace = o.typesToReplace.map .text := rfl
  have hfunctions : o.loosen.signalCreationFunctions = o.signalCreationFunctions.map .text := rfl
  rw [LooseOptions.toValue, htypes, hfunctions, Value.sorted_texts, Value.sorted_texts]
  rfl

/-! ### The same options -/

/-- **The same options**: sets are compared by their members. -/
structure SameAs (o o' : RuleOptions) : Prop where
  typesToReplace : ∀ s, s ∈ o.typesToReplace ↔ s ∈ o'.typesToReplace
  preferReadonly : o.preferReadonly = o'.preferReadonly
  preferInputSignal : o.preferInputSignal = o'.preferInputSignal
  preferQuerySignal : o.preferQuerySignal = o'.preferQuerySignal
  useTypeChecking : o.useTypeChecking = o'.useTypeChecking
  signalCreationFunctions : ∀ s, s ∈ o.signalCreationFunctions ↔ s ∈ o'.signalCreationFunctions

/-- Sets that list each member once. -/
structure NodupSets (o : RuleOptions) : Prop where
  typesToReplace : o.typesToReplace.Nodup
  signalCreationFunctions : o.signalCreationFunctions.Nodup

variable {o o' o'' : RuleOptions}

theorem SameAs.trans (h : o.SameAs o') (h' : o'.SameAs o'') : o.SameAs o'' where
  typesToReplace s := (h.typesToReplace s).trans (h'.typesToReplace s)
  preferReadonly := h.preferReadonly.trans h'.preferReadonly
  preferInputSignal := h.preferInputSignal.trans h'.preferInputSignal
  preferQuerySignal := h.preferQuerySignal.trans h'.preferQuerySignal
  useTypeChecking := h.useTypeChecking.trans h'.useTypeChecking
  signalCreationFunctions s :=
    (h.signalCreationFunctions s).trans (h'.signalCreationFunctions s)

theorem sorted_sameAs (o : RuleOptions) : o.sorted.SameAs o where
  typesToReplace _ := List.mem_insertionSort _
  preferReadonly := rfl
  preferInputSignal := rfl
  preferQuerySignal := rfl
  useTypeChecking := rfl
  signalCreationFunctions _ := List.mem_insertionSort _

/-- **The same options are written in the same way.** -/
theorem sorted_eq_of_sameAs (h : o.SameAs o') (ho : o.NodupSets) (ho' : o'.NodupSets) :
    o.sorted = o'.sorted := by
  have htypes := insertionSort_eq_of_mem_iff ho.typesToReplace ho'.typesToReplace h.typesToReplace
  have hfunctions := insertionSort_eq_of_mem_iff ho.signalCreationFunctions
    ho'.signalCreationFunctions h.signalCreationFunctions
  rw [sorted, sorted, htypes, hfunctions, h.preferReadonly, h.preferInputSignal,
    h.preferQuerySignal, h.useTypeChecking]

/-- Names are distinct if they are those of a value. -/
theorem nodupSets_of_has {values : OptionName → Value} (h : ∀ name, o.Has name (values name)) :
    o.NodupSets := by
  obtain ⟨_, -, htypes, -⟩ := h .typesToReplace
  obtain ⟨_, -, hfunctions, -⟩ := h .signalCreationFunctions
  exact ⟨htypes, hfunctions⟩

/-! ### Reading options back -/

theorem fits_value (o : RuleOptions) (name : OptionName) : name.Fits (o.value name) := by
  cases name <;> exact ⟨_, rfl⟩

/-- Options that are written are accepted. -/
theorem check_entries (o : RuleOptions) : ruleSchema.check (.table o.entries) = .ok () := by
  refine Schema.check_eq_ok_iff.2 fun x hx => ruleSchema_objection?_eq_none_iff.2 ?_
  obtain ⟨name, -, rfl⟩ := List.mem_map.1 hx
  exact ⟨name, rfl, o.fits_value name⟩

/-- Every option is among those that are written. -/
theorem get?_entries (o : RuleOptions) (name : OptionName) :
    (Table.ofList o.entries).get? name.name = some (o.value name) := by
  -- no option is named twice, so the table is the list as it stands
  have hkeys : o.entries.map (·.1) = OptionName.all.map (·.name) := rfl
  have hnodup : (OptionName.all.map (·.name)).Nodup := by decide
  rw [Table.ofList_of_nodup (hkeys ▸ hnodup)]
  cases name <;> rfl

/-- Names that are those of a list of texts have its texts as members. -/
theorem NamesOf.mem_iff {names texts : List String} (h : NamesOf names (.list (texts.map .text)))
    (s : String) : s ∈ names ↔ s ∈ texts := by
  obtain ⟨texts', htexts, -, hmem⟩ := h
  have heq : texts = texts' :=
    List.map_injective_iff.2 (fun _ _ => Value.text.inj) (Value.list.inj htexts)
  rw [heq, hmem]

theorem sameAs_of_has (h : ∀ name, o'.Has name (o.value name)) : o'.SameAs o where
  typesToReplace := NamesOf.mem_iff (h .typesToReplace)
  preferReadonly := (Value.bool.inj (h .preferReadonly)).symm
  preferInputSignal := (Value.bool.inj (h .preferInputSignal)).symm
  preferQuerySignal := (Value.bool.inj (h .preferQuerySignal)).symm
  useTypeChecking := (Value.bool.inj (h .useTypeChecking)).symm
  signalCreationFunctions := NamesOf.mem_iff (h .signalCreationFunctions)

/-- **Options that are written are read back** as the same options. -/
theorem exists_resolve_entries (o : RuleOptions) :
    ∃ o' : RuleOptions, LooseOptions.resolve (.table o.entries) = .ok o'.loosen ∧ o'.SameAs o ∧
      o'.NodupSets := by
  obtain ⟨o', hresolve, hhas⟩ := exists_resolve_eq_loosen o.check_entries
  refine ⟨o', hresolve, sameAs_of_has fun name => ?_, nodupSets_of_has hhas⟩
  have hname := hhas name
  rwa [get?_entries, Option.getD_some] at hname

end RuleOptions

/-- **The normal form of options**: all six under their public names, and the sets in order without
repetition. -/
def IsNormal (v : Value) : Prop :=
  ∃ o : RuleOptions, v = .table o.entries ∧ o.typesToReplace.Pairwise (· < ·) ∧
    o.signalCreationFunctions.Pairwise (· < ·)

/-- **Options are read back.** Whatever the options, they are written as a table that is accepted and
read as the same options. Options that are given and accepted are written in normal form, and
reading and writing them once more changes nothing. -/
theorem options_roundTrip (o : RuleOptions) (entries : List (String × Value)) :
    (∃ v, o.loosen.toValue = .ok v ∧ ruleSchema.check v = .ok () ∧
      ∃ o' : RuleOptions, LooseOptions.resolve v = .ok o'.loosen ∧ o'.SameAs o ∧ o'.NodupSets) ∧
    (ruleSchema.check (.table entries) = .ok () →
      ∃ options v, LooseOptions.resolve (.table entries) = .ok options ∧
        options.toValue = .ok v ∧ IsNormal v ∧
        ∃ options', LooseOptions.resolve v = .ok options' ∧ options'.toValue = .ok v) := by
  constructor
  · obtain ⟨o', hresolve, hsame, hnodup⟩ := o.sorted.exists_resolve_entries
    exact ⟨.table o.sorted.entries, o.toValue_loosen, o.sorted.check_entries, o', hresolve,
      hsame.trans o.sorted_sameAs, hnodup⟩
  · intro hcheck
    obtain ⟨given, hresolve, hhas⟩ := exists_resolve_eq_loosen hcheck
    have hnodup := RuleOptions.nodupSets_of_has hhas
    obtain ⟨back, hresolve', hsame, hnodup'⟩ := given.sorted.exists_resolve_entries
    have hsorted : back.sorted = given.sorted :=
      RuleOptions.sorted_eq_of_sameAs (hsame.trans given.sorted_sameAs) hnodup' hnodup
    refine ⟨given.loosen, .table given.sorted.entries, hresolve, given.toValue_loosen,
      ⟨given.sorted, rfl, pairwise_lt_insertionSort hnodup.typesToReplace,
        pairwise_lt_insertionSort hnodup.signalCreationFunctions⟩, back.loosen, hresolve', ?_⟩
    rw [back.toValue_loosen, hsorted]

/-- A list that repeats a name is accepted, and written in normal form. -/
theorem options_roundTrip_repeatedName :
    ruleSchema.check (.table [("typesToReplace", .list [.text "B", .text "A", .text "B"])]) =
        .ok () ∧
      ∃ options v, LooseOptions.resolve
          (.table [("typesToReplace", .list [.text "B", .text "A", .text "B"])]) = .ok options ∧
        options.toValue = .ok v ∧ IsNormal v ∧
        ∃ options', LooseOptions.resolve v = .ok options' ∧ options'.toValue = .ok v :=
  ⟨rfl, (options_roundTrip RuleOptions.default _).2 rfl⟩

example : (LooseOptions.resolve
    (.table [("typesToReplace", .list [.text "B", .text "A", .text "B"])])).bind (·.toValue) =
      .ok (.table [("typesToReplace", .list [.text "A", .text "B"]), ("preferReadonly", .bool true),
        ("preferInputSignal", .bool true), ("preferQuerySignal", .bool true),
        ("useTypeChecking", .bool true), ("signalCreationFunctions", .list [])]) := by
  rfl

end SignalLint
