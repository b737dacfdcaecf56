/-!
# Tables in order of first entry

A `Table` maps keys to values and lists its keys in the order in which they first came. There are
two ways to write: `insertNew` keeps an entry that is already there (the first declaration wins),
`insert` replaces its value in place (the last setting wins).
-/

namespace SignalLint

/-- Keys with their values, in order of first entry. -/
structure Table (κ α : Type) where
  entries : List (κ × α) := []
  deriving Repr, Inhabited, DecidableEq

namespace Table

variable {κ α : Type} [DecidableEq κ]

/-- The table without entries. -/
def empty : Table κ α := ⟨[]⟩

/-- The value of a key. -/
def get? (t : Table κ α) (k : κ) : Option α :=
  (t.entries.find? (·.1 = k)).map (·.2)

/-- Whether a key has a value. -/
def contains (t : Table κ α) (k : κ) : Bool :=
  t.entries.any (·.1 = k)

/-- The keys in order of first entry. -/
def keys (t : Table κ α) : List κ := t.entries.map (·.1)

/-- Enters a value unless the key has one already. -/
def insertNew (t : Table κ α) (k : κ) (a : α) : Table κ α :=
  if t.contains k then t else ⟨t.entries ++ [(k, a)]⟩

/-- Enters a value; a key that is already there keeps its place. -/
def insert (t : Table κ α) (k : κ) (a : α) : Table κ α :=
  if t.contains k then ⟨t.entries.map fun e => if e.1 = k then (k, a) else e⟩
  else ⟨t.entries ++ [(k, a)]⟩

/-- Enters all pairs in order; the last value of a key stays. -/
def insertAll (t : Table κ α) (pairs : List (κ × α)) : Table κ α :=
  pairs.foldl (fun t p => t.insert p.1 p.2) t

/-- The table of a list of pairs; the last value of a key stays, at its first place. -/
def ofList (pairs : List (κ × α)) : Table κ α :=
  empty.insertAll pairs

/-- The table without a key. -/
def erase (t : Table κ α) (k : κ) : Table κ α :=
  ⟨t.entries.filter (·.1 ≠ k)⟩

omit [DecidableEq κ] in
@[simp] theorem entries_empty : (empty : Table κ α).entries = [] := rfl

@[simp] theorem get?_empty (k : κ) : (empty : Table κ α).get? k = none := rfl

theorem contains_eq_isSome_get? (t : Table κ α) (k : κ) : t.contains k = (t.get? k).isSome := by
  simp only [contains, get?, Option.isSome_map]
  induction t.entries with
  | nil => rfl
  | cons e es ih => by_cases h : e.1 = k <;> simp [h, ih]

/-- The first value entered for a key stays. -/
theorem get?_insertNew (t : Table κ α) (k j : κ) (a : α) :
    (t.insertNew k a).get? j = if j = k then (t.get? k).or (some a) else t.get? j := by
  unfold insertNew
  by_cases hk : t.contains k
  · have hs : (t.get? k).isSome := by rw [← contains_eq_isSome_get?]; exact hk
    obtain ⟨b, hb⟩ := Option.isSome_iff_exists.1 hs
    by_cases hj : j = k
    · subst hj; simp [hk, hb]
    · simp [hk, hj]
  · have hn : t.get? k = none := by
      rw [← Option.not_isSome_iff_eq_none, ← contains_eq_isSome_get?]; exact hk
    by_cases hj : j = k
    · subst hj
      have hf : t.entries.find? (fun e => decide (e.1 = j)) = none := by
        simpa [get?] using hn
      simp [hk, get?, List.find?_append, hf]
    · have hne : ¬ k = j := fun h => hj h.symm
      simp [hk, hj, get?, List.find?_append, hne]

/-- The last value entered for a key stays. -/
theorem get?_insert (t : Table κ α) (k j : κ) (a : α) :
    (t.insert k a).get? j = if j = k then some a else t.get? j := by
  -- replacing the value of a key leaves the entries of the others, and finds the new one
  have hreplace : ∀ es : List (κ × α),
      (es.map fun e => if e.1 = k then (k, a) else e).find? (·.1 = j) =
        if j = k then (es.find? (·.1 = k)).map fun _ => (k, a) else es.find? (·.1 = j) := by
    intro es
    induction es with
    | nil => exact (ite_self _).symm
    | cons e es ih =>
      rw [List.map_cons, List.find?_cons, List.find?_cons, List.find?_cons, ih]
      by_cases he : e.1 = k
      · by_cases hj : j = k
        · simp [he, hj]
        · simp [he, hj, Ne.symm hj]
      · by_cases hj : j = k
        · simp [he, hj]
        · simp [he, hj]
  have hcontains := contains_eq_isSome_get? t k
  unfold insert
  split
  · rename_i hk
    obtain ⟨e, he⟩ : ∃ e, t.entries.find? (·.1 = k) = some e := by
      rw [hk, get?, Option.isSome_map] at hcontains
      exact Option.isSome_iff_exists.1 hcontains.symm
    rw [get?, hreplace, he]
    split <;> rfl
  · rename_i hk
    have hnone : t.entries.find? (·.1 = k) = none := by
      rw [eq_false_of_ne_true hk, get?, Option.isSome_map] at hcontains
      exact Option.isSome_eq_false_iff.1 hcontains.symm |> Option.isNone_iff_eq_none.1
    rw [get?, List.find?_append]
    by_cases hj : j = k
    · subst hj
      simp [hnone]
    · simp [hj, Ne.symm hj, get?]

/-- Of pairs that are entered, the last one of a key counts; without any the old value stays. -/
theorem get?_insertAll (t : Table κ α) (pairs : List (κ × α)) (k : κ) :
    (t.insertAll pairs).get? k = ((ofList pairs).get? k).or (t.get? k) := by
  induction pairs generalizing t with
  | nil => exact Option.none_or.symm
  | cons p pairs ih =>
    have hrest := ih (t.insert p.1 p.2)
    have hlist := ih (empty.insert p.1 p.2)
    rw [get?_insert] at hrest hlist
    change ((t.insert p.1 p.2).insertAll pairs).get? k =
      ((((empty : Table κ α).insert p.1 p.2).insertAll pairs).get? k).or (t.get? k)
    rw [hrest, hlist, Option.or_assoc]
    by_cases hk : k = p.1
    · rw [if_pos hk, if_pos hk, Option.some_or]
    · rw [if_neg hk, if_neg hk, get?_empty, Option.none_or]

theorem get?_ofList_cons (p : κ × α) (pairs : List (κ × α)) (k : κ) :
    (ofList (p :: pairs)).get? k =
      ((ofList pairs).get? k).or (if k = p.1 then some p.2 else none) := by
  change (((empty : Table κ α).insert p.1 p.2).insertAll pairs).get? k = _
  rw [get?_insertAll, get?_insert, get?_empty]

/-- What is found was among the pairs. -/
theorem mem_of_get?_ofList {pairs : List (κ × α)} {k : κ} {a : α}
    (h : (ofList pairs).get? k = some a) : (k, a) ∈ pairs := by
  induction pairs with
  | nil => cases h
  | cons p pairs ih =>
    rw [get?_ofList_cons, Option.or_eq_some_iff] at h
    rcases h with h | ⟨-, h⟩
    · exact List.mem_cons_of_mem _ (ih h)
    · split at h
      · rename_i hk
        rw [hk, ← Option.some.inj h]
        exact List.mem_cons_self
      · cases h

/-- Leaving out the pairs of a key leaves the values of the others. -/
theorem get?_ofList_filter {j k : κ} (hj : j ≠ k) (pairs : List (κ × α)) :
    (ofList (pairs.filter (·.1 ≠ k))).get? j = (ofList pairs).get? j := by
  induction pairs with
  | nil => rfl
  | cons p pairs ih =>
    rw [get?_ofList_cons, List.filter_cons]
    split
    · rw [get?_ofList_cons, ih]
    · rename_i hp
      have hne : j ≠ p.1 := fun heq => hp (decide_eq_true (heq ▸ hj))
      rw [ih, if_neg hne, Option.or_none]

/-- A key that is not there yet is entered behind the others. -/
theorem insert_of_notMem_keys {t : Table κ α} {k : κ} (h : k ∉ t.keys) (a : α) :
    t.insert k a = ⟨t.entries ++ [(k, a)]⟩ := by
  have hcontains : t.contains k = false := by
    rw [← Bool.not_eq_true, contains, List.any_eq_true]
    rintro ⟨e, he, heq⟩
    exact h (List.mem_map.2 ⟨e, he, of_decide_eq_true heq⟩)
  rw [insert, hcontains]
  rfl

/-- A key that is already there keeps its place. -/
theorem keys_insert (t : Table κ α) (k : κ) (a : α) :
    (t.insert k a).keys = if t.contains k then t.keys else t.keys ++ [k] := by
  unfold insert keys
  split
  · rw [List.map_map]
    refine List.map_congr_left fun e _ => ?_
    change (if e.1 = k then (k, a) else e).1 = e.1
    split
    · rename_i he
      exact he.symm
    · rfl
  · exact List.map_append

/-- Entering leaves every key in one place. -/
theorem nodup_keys_insert {t : Table κ α} (h : t.keys.Nodup) (k : κ) (a : α) :
    (t.insert k a).keys.Nodup := by
  rw [keys_insert]
  split
  · exact h
  · rename_i hk
    refine List.nodup_append.2 ⟨h, List.pairwise_singleton _ _, fun j hj k' hk' heq => hk ?_⟩
    obtain ⟨e, he, hje⟩ := List.mem_map.1 hj
    obtain rfl := List.mem_singleton.1 hk'
    exact List.any_eq_true.2 ⟨e, he, decide_eq_true (hje.trans heq)⟩

theorem nodup_keys_insertAll {t : Table κ α} (h : t.keys.Nodup) (pairs : List (κ × α)) :
    (t.insertAll pairs).keys.Nodup := by
  induction pairs generalizing t with
  | nil => exact h
  | cons p pairs ih => exact ih (nodup_keys_insert h p.1 p.2)

theorem nodup_keys_ofList (pairs : List (κ × α)) : (ofList pairs).keys.Nodup :=
  nodup_keys_insertAll (t := empty) List.nodup_nil pairs

/-- Pairs with keys of their own are entered one behind the other. -/
theorem entries_insertAll {pairs : List (κ × α)} {t : Table κ α}
    (h : (t.keys ++ pairs.map (·.1)).Nodup) : (t.insertAll pairs).entries = t.entries ++ pairs := by
  induction pairs generalizing t with
  | nil => exact (List.append_nil _).symm
  | cons p pairs ih =>
    have hfresh : p.1 ∉ t.keys := fun hp =>
      (List.nodup_append.1 h).2.2 p.1 hp p.1 List.mem_cons_self rfl
    have hinsert : t.insert p.1 p.2 = ⟨t.entries ++ [p]⟩ := insert_of_notMem_keys hfresh p.2
    have hkeys : (t.insert p.1 p.2).keys = t.keys ++ [p.1] := by
      rw [hinsert, keys, List.map_append]
      rfl
    have hnext := ih (t := t.insert p.1 p.2) (by rw [hkeys, List.append_assoc]; exact h)
    change ((t.insert p.1 p.2).insertAll pairs).entries = _
    rw [hnext, hinsert, List.append_assoc]
    rfl

/-- Pairs with keys of their own are a table as they are. -/
theorem ofList_of_nodup {pairs : List (κ × α)} (h : (pairs.map (·.1)).Nodup) :
    ofList pairs = ⟨pairs⟩ :=
  congrArg mk (entries_insertAll (t := empty) h)

end Table

end SignalLint
