import Mathlib.Data.List.Forall2
import SignalLint.Proofs.Failing
import SignalLint.Settings.Load

/-!
# The options that a caller gives

Whoever loads the settings may give options of the rule as any value at all. `OptionsGiven` says
which values give options, and which ones, and `entriesOf_eq_ok_iff` that no others are taken. What
does not count as set gives nothing. `addOverrides_eq_ok_iff` and `addOverrides_eq_error_iff` say
what the caller adds, and when nothing can be made of what is given.
-/

namespace SignalLint

/-- **The option that an item of a list gives**: the list of a key and a value, a text of two
characters, or a table of two keys, of which the second is the value. -/
inductive PairGiven : Value → String × Value → Prop where
  | list {key v : Value} (h : key.isHashable = true) : PairGiven (.list [key, v]) (key.plain, v)
  | text {c d : Char} :
      PairGiven (.text (.ofList [c, d])) (.singleton c, .text (.singleton d))
  | table {key key' : String} {v v' : Value} :
      PairGiven (.table [(key, v), (key', v')]) (key, .text key')

/-- **The options that a value gives**: the entries of a table, or those that the items of a list
give; nothing, if there is no value, or one that is false, zero or an empty text. -/
inductive OptionsGiven : Value → List (String × Value) → Prop where
  | table {entries : List (String × Value)} : OptionsGiven (.table entries) entries
  | pairs {items : List Value} {given : List (String × Value)}
      (h : List.Forall₂ PairGiven items given) : OptionsGiven (.list items) given
  | null : OptionsGiven .null []
  | false : OptionsGiven (.bool false) []
  | zero : OptionsGiven (.int 0) []
  | zeroFloat {x : Binary64} (h : x.isZero = true) : OptionsGiven (.float x) []
  | noText : OptionsGiven (.text "") []

/-! ### Reading what is given -/

section Entries

variable {v : Value} {given : List (String × Value)}

theorem pairOf_eq_ok_iff {index : Nat} {key value : Value} :
    pairOf index v = .ok (key, value) ↔ v.items = .ok [key, value] := by
  unfold pairOf
  split
  · rename_i hitems
    rw [hitems]
    exact iff_of_false nofun nofun
  · rename_i hitems
    rw [hitems, Except.ok.injEq, Except.ok.injEq, Prod.mk.injEq, List.cons.injEq, List.cons.injEq]
    exact ⟨fun ⟨hkey, hvalue⟩ => ⟨hkey, hvalue, rfl⟩, fun ⟨hkey, hvalue, _⟩ => ⟨hkey, hvalue⟩⟩
  · rename_i hnone hitems
    rw [hitems]
    exact iff_of_false nofun fun h => hnone key value (Except.ok.inj h)

/-- An item makes the option that it gives. -/
theorem optionOf_eq_ok_iff {index : Nat} {x : String × Value} :
    optionOf index v = .ok x ↔ PairGiven v x := by
  constructor
  · intro h
    obtain ⟨⟨key, value⟩, hpair, h⟩ := Except.bind_eq_ok_iff.1 h
    have hitems := pairOf_eq_ok_iff.1 hpair
    dsimp only at h
    split at h
    · rename_i hkey
      obtain rfl := Except.ok.inj h
      cases v with
      | list items =>
        obtain rfl := Except.ok.inj hitems
        exact .list hkey
      | text s =>
        -- each character of the text is a part of it
        obtain ⟨c, cs, hs, rfl, hcs⟩ := List.map_eq_cons_iff.1 (Except.ok.inj hitems)
        obtain ⟨d, ds, rfl, rfl, hds⟩ := List.map_eq_cons_iff.1 hcs
        obtain rfl := List.map_eq_nil_iff.1 hds
        obtain rfl : s = .ofList [c, d] := by rw [← hs, String.ofList_toList]
        exact .text
      | table entries =>
        obtain ⟨e, es, rfl, rfl, hes⟩ := List.map_eq_cons_iff.1 (Except.ok.inj hitems)
        obtain ⟨e', es', rfl, rfl, hes'⟩ := List.map_eq_cons_iff.1 hes
        obtain rfl := List.map_eq_nil_iff.1 hes'
        exact .table
      | _ => cases hitems
    · cases h
  · intro h
    cases h with
    | list hkey => simp only [optionOf, pairOf, Value.items, bind, Except.bind, hkey, if_true]; rfl
    | text => simp only [optionOf, pairOf, Value.items, String.toList_ofList]; rfl
    | table => rfl

/-- A text of one character gives no option. -/
theorem not_pairGiven_singleton {c : Char} {x : String × Value} :
    ¬ PairGiven (.text (.singleton c)) x := by
  generalize hv : Value.text (.singleton c) = v
  intro h
  cases h with
  | text =>
    have hlist := congrArg String.toList (Value.text.inj hv)
    rw [String.toList_ofList, String.toList_singleton] at hlist
    cases hlist
  | _ => cases hv

/-- The items are read in order; where one stands in the list is only told. -/
theorem mapM_optionOf_eq_ok_iff {items : List Value} :
    (items.zipIdx.mapM fun (item, index) => optionOf index item) = .ok given ↔
      List.Forall₂ PairGiven items given := by
  rw [Except.mapM_eq_ok_iff]
  simp only [optionOf_eq_ok_iff]
  rw [← List.forall₂_map_left_iff, List.zipIdx_map_fst]

/-- **What is read of a value that counts as set are the options that it gives.** -/
theorem entriesOf_eq_ok_iff (h : v.isTruthy = true) :
    entriesOf v = .ok given ↔ OptionsGiven v given := by
  cases v with
  | table entries =>
    exact ⟨fun hread => Except.ok.inj hread ▸ .table, fun | .table => rfl⟩
  | list items =>
    refine mapM_optionOf_eq_ok_iff.trans ?_
    exact ⟨.pairs, fun | .pairs hgiven => hgiven⟩
  | text s =>
    -- the parts of a text are its characters, and none of them is a pair
    refine iff_of_false (fun hread => ?_) fun hgiven => ?_
    · have hparts := mapM_optionOf_eq_ok_iff.1 hread
      cases hs : s.toList with
      | nil =>
        rw [Value.isTruthy, String.toList_eq_nil_iff.1 hs] at h
        cases h
      | cons c cs =>
        rw [hs] at hparts
        cases hparts with
        | cons hfirst hrest => exact not_pairGiven_singleton hfirst
    · cases hgiven
      cases h
  | _ =>
    -- no other value is read, and those that give nothing do not count as set
    refine iff_of_false nofun fun hgiven => ?_
    cases hgiven <;> simp_all [Value.isTruthy]

/-- What does not count as set gives nothing. -/
theorem optionsGiven_iff_of_not_isTruthy (h : v.isTruthy = false) :
    OptionsGiven v given ↔ given = [] := by
  cases v with
  | table entries =>
    obtain rfl : entries = [] := by simpa [Value.isTruthy] using h
    exact ⟨fun | .table => rfl, fun hnone => hnone ▸ .table⟩
  | list items =>
    obtain rfl : items = [] := by simpa [Value.isTruthy] using h
    exact ⟨fun | .pairs .nil => rfl, fun hnone => hnone ▸ .pairs .nil⟩
  | text s =>
    obtain rfl : s = "" := by simpa [Value.isTruthy] using h
    exact ⟨fun | .noText => rfl, fun hnone => hnone ▸ .noText⟩
  | null => exact ⟨fun | .null => rfl, fun hnone => hnone ▸ .null⟩
  | bool b =>
    obtain rfl : b = false := h
    exact ⟨fun | .false => rfl, fun hnone => hnone ▸ .false⟩
  | int n =>
    obtain rfl : n = 0 := by simpa [Value.isTruthy] using h
    exact ⟨fun | .zero => rfl, fun hnone => hnone ▸ .zero⟩
  | float x =>
    have hzero : x.isZero = true := by simpa [Value.isTruthy] using h
    exact ⟨fun | .zeroFloat _ => rfl, fun hnone => hnone ▸ .zeroFloat hzero⟩
  | moment m => cases h

end Entries

/-! ### Adding what is given -/

namespace GatheredSettings

variable {g g' : GatheredSettings} {overrides : Table String Value}

/-- What the caller adds are the settings that it gives, and the options. -/
theorem addOverrides_eq_ok_iff :
    g.addOverrides overrides = .ok g' ↔
      ∃ given, OptionsGiven ((overrides.get? Setting.ruleOptions.key).getD .null) given ∧
        g' = ⟨g.settings.insertAll (overrides.erase Setting.ruleOptions.key).entries,
          g.ruleOptions.insertAll given⟩ := by
  unfold addOverrides
  dsimp only
  -- only what stands under the key matters from here on
  generalize (overrides.get? Setting.ruleOptions.key).getD .null = v
  cases htruthy : v.isTruthy with
  | true =>
    rw [if_pos rfl, Except.bind_eq_ok_iff]
    simp only [entriesOf_eq_ok_iff htruthy]
    exact exists_congr fun given => and_congr_right fun _ =>
      ⟨fun h => (Except.ok.inj h).symm, fun h => h ▸ rfl⟩
  | false =>
    simp only [optionsGiven_iff_of_not_isTruthy htruthy, exists_eq_left]
    exact ⟨fun h => (Except.ok.inj h).symm, fun h => h ▸ rfl⟩

/-- Nothing can be made of a value that gives no options at all. -/
theorem addOverrides_eq_error_iff {f : Fault} :
    g.addOverrides overrides = .error f ↔
      ∃ v, overrides.get? Setting.ruleOptions.key = some v ∧ (∀ given, ¬ OptionsGiven v given) ∧
        entriesOf v = .error f := by
  unfold addOverrides
  dsimp only
  cases overrides.get? Setting.ruleOptions.key with
  | none => exact iff_of_false nofun nofun
  | some v =>
    simp only [Option.getD_some, Option.some.injEq, exists_eq_left']
    cases htruthy : v.isTruthy with
    | true =>
      rw [if_pos rfl, Except.bind_eq_error_iff]
      refine ⟨fun h => ?_, fun h => .inl h.2⟩
      rcases h with h | ⟨given, -, h⟩
      · refine ⟨fun given hgiven => ?_, h⟩
        exact nomatch h.symm.trans ((entriesOf_eq_ok_iff htruthy).2 hgiven)
      · cases h
    | false =>
      have hnothing := (optionsGiven_iff_of_not_isTruthy htruthy).2 rfl
      exact iff_of_false nofun fun h => h.1 [] hnothing

end GatheredSettings

end SignalLint
