import Mathlib.Data.List.Induction
import SignalLint.Code.Table

/-!
# Tables in which the first declaration stays

A table is often filled by going through a list of items, some of which declare a value for a key,
and entering each declaration unless the key has one already. What comes out is said without the
table: `Table.FirstWins t items Declares` states that a key holds what the first item that declares
it declares, that the keys are those that some item declares, and that they stand in the order of
their first declarations.

* `firstWins_empty` — the empty table, for no items.
* `FirstWins.concat` — what one more item does: it declares nothing and the table stays, or it
  declares one key and is entered by `insertNew`.
* `firstWins_foldl_insertNew` — hence a whole list of items.
-/

namespace SignalLint

section FirstEntry

variable {ι κ α : Type} {Declares : ι → κ → α → Prop} {items : List ι} {i : ι} {j k : κ} {a : α}

/-! ### First declarations in a list -/

/-- The first item that declares anything for `k` declares `a`. -/
def FirstDeclared (Declares : ι → κ → α → Prop) (items : List ι) (k : κ) (a : α) : Prop :=
  ∃ before i after, items = before ++ i :: after ∧ Declares i k a ∧
    ∀ u ∈ before, ∀ b, ¬ Declares u k b

/-- Some item declares `j`, and no item up to it declares `k`. -/
def DeclaredBefore (Declares : ι → κ → α → Prop) (items : List ι) (j k : κ) : Prop :=
  ∃ before i after, items = before ++ i :: after ∧ (∃ a, Declares i j a) ∧
    ∀ u ∈ before ++ [i], ∀ b, ¬ Declares u k b

/-- One more item at the end declares first what none before it declares. -/
theorem firstDeclared_concat :
    FirstDeclared Declares (items ++ [i]) k a ↔
      FirstDeclared Declares items k a ∨ (∀ u ∈ items, ∀ b, ¬ Declares u k b) ∧ Declares i k a := by
  constructor
  · rintro ⟨before, u, after, heq, hu, hbefore⟩
    -- the declaring item is the last one, or the last one stands behind it
    rcases List.eq_nil_or_concat after with rfl | ⟨after', w, rfl⟩
    · obtain ⟨rfl, hlast⟩ := List.append_inj' heq rfl
      obtain rfl := (List.cons.inj hlast).1
      exact Or.inr ⟨hbefore, hu⟩
    · rw [List.concat_eq_append, ← List.cons_append, ← List.append_assoc] at heq
      exact Or.inl ⟨before, u, after', (List.append_inj' heq rfl).1, hu, hbefore⟩
  · rintro (⟨before, u, after, rfl, hu, hbefore⟩ | ⟨hnone, hi⟩)
    · exact ⟨before, u, after ++ [i], by rw [List.append_assoc, List.cons_append], hu, hbefore⟩
    · exact ⟨items, i, [], rfl, hi, hnone⟩

theorem DeclaredBefore.concat (h : DeclaredBefore Declares items j k) :
    DeclaredBefore Declares (items ++ [i]) j k := by
  obtain ⟨before, u, after, rfl, hu, hnone⟩ := h
  exact ⟨before, u, after ++ [i], by rw [List.append_assoc, List.cons_append], hu, hnone⟩

/-- What is declared comes before whatever is declared nowhere among the items. -/
theorem DeclaredBefore.of_mem (hi : i ∈ items) (hj : Declares i j a)
    (hk : ∀ u ∈ items, ∀ b, ¬ Declares u k b) : DeclaredBefore Declares items j k := by
  obtain ⟨before, after, rfl⟩ := List.append_of_mem hi
  refine ⟨before, i, after, rfl, ⟨a, hj⟩, fun u hu => hk u ?_⟩
  rw [← List.singleton_append, ← List.append_assoc]
  exact List.mem_append_left after hu

end FirstEntry

namespace Table

variable {ι κ α : Type} [DecidableEq κ]

/-! ### The keys of a table -/

theorem contains_iff_mem_keys {t : Table κ α} {k : κ} : t.contains k = true ↔ k ∈ t.keys := by
  simp only [contains, keys, List.any_eq_true, List.mem_map, decide_eq_true_eq]

theorem get?_eq_none_iff {t : Table κ α} {k : κ} : t.get? k = none ↔ k ∉ t.keys := by
  rw [← contains_iff_mem_keys, contains_eq_isSome_get?, Option.not_isSome_iff_eq_none]

/-- A new key is entered behind the others; for a known one nothing happens. -/
theorem keys_insertNew (t : Table κ α) (k : κ) (a : α) :
    (t.insertNew k a).keys = if k ∈ t.keys then t.keys else t.keys ++ [k] := by
  by_cases h : k ∈ t.keys
  · rw [if_pos h, insertNew, if_pos (contains_iff_mem_keys.2 h)]
  · rw [if_neg h, insertNew, if_neg (mt contains_iff_mem_keys.1 h), keys, keys, List.map_append]
    rfl

/-! ### First declarations in a table -/

/-- **The first declaration wins.** A table holds, of what items declare, the first declaration of
each key, and lists the keys in the order of these. -/
structure FirstWins (t : Table κ α) (items : List ι) (Declares : ι → κ → α → Prop) : Prop where
  /-- A key holds what is declared for it first. -/
  get?_eq_some_iff : ∀ k a, t.get? k = some a ↔ FirstDeclared Declares items k a
  /-- A key is there if and only if some item declares it. -/
  mem_keys_iff : ∀ k, k ∈ t.keys ↔ ∃ i ∈ items, ∃ a, Declares i k a
  /-- Of two keys the one in front is declared before the other. -/
  pairwise_keys : t.keys.Pairwise (DeclaredBefore Declares items)

variable {t : Table κ α} {items : List ι} {Declares : ι → κ → α → Prop} {i : ι} {k : κ} {a : α}

theorem firstWins_empty : FirstWins (empty : Table κ α) ([] : List ι) Declares where
  get?_eq_some_iff k a := by
    constructor
    · rw [get?_empty]
      exact fun h => absurd h (Option.some_ne_none a).symm
    · rintro ⟨before, i, after, heq, -⟩
      exact absurd heq (List.append_ne_nil_of_right_ne_nil before (List.cons_ne_nil i after)).symm
  mem_keys_iff k := by
    constructor
    · exact fun h => absurd h List.not_mem_nil
    · rintro ⟨i, hi, -⟩
      exact absurd hi List.not_mem_nil
  pairwise_keys := List.Pairwise.nil

namespace FirstWins

/-- What no item declares is not in the table. -/
theorem not_declares (h : t.FirstWins items Declares) (hk : k ∉ t.keys) :
    ∀ u ∈ items, ∀ b, ¬ Declares u k b :=
  fun u hu b hb => hk ((h.mem_keys_iff k).2 ⟨u, hu, b, hb⟩)

/-- An item that declares nothing changes nothing. -/
theorem concat_of_not_declares (h : t.FirstWins items Declares) (hi : ∀ k a, ¬ Declares i k a) :
    t.FirstWins (items ++ [i]) Declares where
  get?_eq_some_iff k a := by
    rw [h.get?_eq_some_iff, firstDeclared_concat]
    exact ⟨Or.inl, fun hor => hor.resolve_right fun hlast => hi k a hlast.2⟩
  mem_keys_iff k := by
    rw [h.mem_keys_iff]
    constructor
    · rintro ⟨u, hu, hdeclares⟩
      exact ⟨u, List.mem_append_left _ hu, hdeclares⟩
    · rintro ⟨u, hu, b, hb⟩
      rcases List.mem_append.1 hu with hu | hu
      · exact ⟨u, hu, b, hb⟩
      · obtain rfl := List.mem_singleton.1 hu
        exact absurd hb (hi k b)
  pairwise_keys := h.pairwise_keys.imp DeclaredBefore.concat

/-- An item that declares one key is entered unless the key is there. -/
theorem concat_of_declares (h : t.FirstWins items Declares)
    (hi : ∀ j b, Declares i j b ↔ j = k ∧ b = a) :
    (t.insertNew k a).FirstWins (items ++ [i]) Declares where
  get?_eq_some_iff j b := by
    rw [get?_insertNew, firstDeclared_concat, hi, ← h.get?_eq_some_iff]
    by_cases hj : j = k
    · subst hj
      rw [if_pos rfl]
      cases hget : t.get? j with
      | none =>
        -- nobody has declared the key, so this item is the first one to do so
        have hnone := h.not_declares (get?_eq_none_iff.1 hget)
        rw [Option.none_or, Option.some.injEq]
        exact ⟨fun heq => Or.inr ⟨hnone, rfl, heq.symm⟩,
          fun hor => (hor.resolve_left nofun).2.2.symm⟩
      | some c =>
        rw [Option.some_or]
        refine ⟨Or.inl, fun hor => hor.resolve_right ?_⟩
        obtain ⟨before, u, after, heq, hu, -⟩ := (h.get?_eq_some_iff j c).1 hget
        exact fun hlast => hlast.1 u (heq ▸ List.mem_append_right before List.mem_cons_self) c hu
    · rw [if_neg hj]
      exact ⟨Or.inl, fun hor => hor.resolve_right fun hlast => hj hlast.2.1⟩
  mem_keys_iff j := by
    have hlast : (∃ u ∈ items ++ [i], ∃ b, Declares u j b) ↔ j ∈ t.keys ∨ j = k := by
      rw [h.mem_keys_iff]
      simp only [List.mem_append, List.mem_singleton, or_and_right, exists_or, exists_eq_left, hi,
        exists_and_left, exists_eq, and_true]
    rw [hlast, keys_insertNew]
    split
    · rename_i hk
      exact ⟨Or.inl, fun hor => hor.elim id fun heq => heq ▸ hk⟩
    · rw [List.mem_append, List.mem_singleton]
  pairwise_keys := by
    have hold := h.pairwise_keys.imp (DeclaredBefore.concat (i := i))
    rw [keys_insertNew]
    split
    · exact hold
    · -- every older key has a declaration, and the new key has none among the items so far
      rename_i hk
      refine List.pairwise_append.2 ⟨hold, List.pairwise_singleton _ _, fun j hj k' hk' => ?_⟩
      obtain rfl := List.mem_singleton.1 hk'
      obtain ⟨u, hu, b, hb⟩ := (h.mem_keys_iff j).1 hj
      exact (DeclaredBefore.of_mem hu hb (h.not_declares hk)).concat

end FirstWins

/-- **Entering declarations one after the other** leaves the first one of each key, if an entry is
made for an item exactly when it declares something. -/
theorem firstWins_foldl_insertNew {declared? : ι → Option (κ × α)}
    (hdeclared : ∀ i k a, declared? i = some (k, a) ↔ Declares i k a) (items : List ι) :
    FirstWins ((items.filterMap declared?).foldl (fun t e => t.insertNew e.1 e.2) (empty : Table κ α))
      items Declares := by
  -- the table grows with the list, so the induction takes items off its end
  induction items using List.reverseRecOn with
  | nil => exact firstWins_empty
  | append_singleton items i ih =>
    rw [List.filterMap_append, List.foldl_append]
    cases h : declared? i with
    | none =>
      rw [List.filterMap_cons_none h, List.filterMap_nil, List.foldl_nil]
      refine ih.concat_of_not_declares fun k a hdeclares => ?_
      rw [(hdeclared i k a).2 hdeclares] at h
      cases h
    | some e =>
      rw [List.filterMap_cons_some h, List.filterMap_nil, List.foldl_cons, List.foldl_nil]
      refine ih.concat_of_declares fun j b => ?_
      rw [← hdeclared, h, Option.some.injEq]
      exact ⟨fun heq => ⟨(congrArg Prod.fst heq).symm, (congrArg Prod.snd heq).symm⟩,
        fun ⟨hj, hb⟩ => by rw [hj, hb]⟩

end Table

end SignalLint
