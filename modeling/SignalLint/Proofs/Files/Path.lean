import Mathlib.Data.List.Basic
import SignalLint.Files.Path

/-!
# Paths and their texts

A path is read off a text, and most texts of one path are not the one that the path has. The other
way there is nothing to lose: a path that was read, or that leads on from such a path through proper
names, is read back from its own text. So paths with the same text are the same path.

* `FilePath.splitNames_intercalate` — names without slashes are what stands between the slashes.
* `FilePath.Proper` — the paths that texts are read as (`FilePath.proper_ofString`).
* `FilePath.ofString_text` — a proper path comes back from its text, which makes
  `FilePath.Proper.eq_of_text_eq`.
-/

namespace SignalLint

/-- A name that counts between the slashes of a path. -/
structure ProperName (name : String) : Prop where
  ne_empty : name ≠ ""
  ne_dot : name ≠ "."
  noSlash : '/' ∉ name.toList

instance (name : String) : Decidable (ProperName name) :=
  decidable_of_iff (name ≠ "" ∧ name ≠ "." ∧ '/' ∉ name.toList)
    ⟨fun ⟨h, h', h''⟩ => ⟨h, h', h''⟩, fun ⟨h, h', h''⟩ => ⟨h, h', h''⟩⟩

namespace FilePath

/-! ### What stands between slashes -/

theorem splitNames_ne_nil (cs : List Char) : splitNames cs ≠ [] := by
  fun_induction splitNames cs with
  | case1 => exact List.cons_ne_nil _ _
  | case2 => exact List.cons_ne_nil _ _
  | case3 => exact List.cons_ne_nil _ _
  | case4 => exact List.cons_ne_nil _ _

theorem noSlash_of_mem_splitNames {cs name : List Char} (h : name ∈ splitNames cs) :
    '/' ∉ name := by
  induction cs generalizing name with
  | nil =>
    obtain rfl := List.mem_singleton.1 h
    exact List.not_mem_nil
  | cons c rest ih =>
    unfold splitNames at h
    split at h
    · -- a slash starts a new name, which is empty so far
      rcases List.mem_cons.1 h with rfl | h
      · exact List.not_mem_nil
      · exact ih h
    · rename_i hc
      split at h
      · rename_i first names hrest
        -- any other character goes in front of the first name
        rw [hrest] at ih
        rcases List.mem_cons.1 h with rfl | h
        · exact List.not_mem_cons_of_ne_of_not_mem (Ne.symm hc) (ih List.mem_cons_self)
        · exact ih (List.mem_cons_of_mem _ h)
      · exact absurd ‹_› (splitNames_ne_nil rest)

theorem splitNames_of_noSlash {name : List Char} (h : '/' ∉ name) : splitNames name = [name] := by
  induction name with
  | nil => rfl
  | cons c rest ih =>
    have hc : c ≠ '/' := Ne.symm (List.ne_of_not_mem_cons h)
    rw [splitNames, if_neg hc, ih (List.not_mem_of_not_mem_cons h)]

theorem splitNames_append_slash {name : List Char} (h : '/' ∉ name) (rest : List Char) :
    splitNames (name ++ '/' :: rest) = name :: splitNames rest := by
  induction name with
  | nil => rw [List.nil_append, splitNames, if_pos rfl]
  | cons c name ih =>
    have hc : c ≠ '/' := Ne.symm (List.ne_of_not_mem_cons h)
    rw [List.cons_append, splitNames, if_neg hc, ih (List.not_mem_of_not_mem_cons h)]

/-- **Names come back** from between the slashes that join them. -/
theorem splitNames_intercalate {names : List (List Char)} (hne : names ≠ [])
    (h : ∀ name ∈ names, '/' ∉ name) : splitNames (['/'].intercalate names) = names := by
  induction names with
  | nil => exact absurd rfl hne
  | cons name names ih =>
    cases names with
    | nil =>
      rw [List.intercalate_singleton]
      exact splitNames_of_noSlash (h name List.mem_cons_self)
    | cons next names =>
      rw [List.intercalate_cons_cons, List.append_assoc, List.singleton_append,
        splitNames_append_slash (h name List.mem_cons_self),
        ih (List.cons_ne_nil _ _) fun n hn => h n (List.mem_cons_of_mem _ hn)]

/-- Slashes in front are between names that do not count. -/
theorem readNames_cons_slash (cs : List Char) : readNames ('/' :: cs) = readNames cs := by
  rw [readNames, splitNames, if_pos rfl, List.filter_cons_of_neg (by simp), readNames]

/-- **Proper names are read back** from the text that joins them. -/
theorem readNames_intercalate {names : List String} (h : ∀ name ∈ names, ProperName name) :
    readNames (String.intercalate "/" names).toList = names := by
  rw [String.toList_intercalate]
  cases names with
  | nil => rfl
  | cons name names =>
    have hsplit : splitNames (['/'].intercalate ((name :: names).map String.toList)) =
        (name :: names).map String.toList :=
      splitNames_intercalate (List.cons_ne_nil _ _) fun cs hcs => by
        obtain ⟨n, hn, rfl⟩ := List.mem_map.1 hcs
        exact (h n hn).noSlash
    rw [readNames]
    change List.map _ (List.filter _ (splitNames (['/'].intercalate _))) = _
    -- none of the names is left out, for none is empty or a dot
    rw [hsplit, List.filter_eq_self.2 fun cs hcs => ?_, List.map_map]
    · exact (List.map_congr_left fun n _ => String.ofList_toList).trans (List.map_id _)
    · obtain ⟨n, hn, rfl⟩ := List.mem_map.1 hcs
      have hempty : n.toList ≠ [] := fun he => (h n hn).ne_empty (String.toList_eq_nil_iff.1 he)
      have hdot : n.toList ≠ ['.'] := fun hd => (h n hn).ne_dot (String.toList_inj.1 hd)
      simp [hempty, hdot]

/-! ### Proper paths -/

/-- A path that a text can be read as. -/
structure Proper (p : FilePath) : Prop where
  anchor : p.anchor = "" ∨ p.anchor = "/" ∨ p.anchor = "//"
  names : ∀ name ∈ p.names, ProperName name

/-- **What is read is proper**, whatever the text. -/
theorem proper_ofString (text : String) : (ofString text).Proper where
  anchor := by
    unfold ofString
    dsimp only
    split
    · exact Or.inl rfl
    · split
      · exact Or.inr (Or.inr rfl)
      · exact Or.inr (Or.inl rfl)
  names := by
    intro name hname
    obtain ⟨cs, hcs, rfl⟩ := List.mem_map.1 hname
    obtain ⟨hmem, hcounts⟩ := List.mem_filter.1 hcs
    simp only [Bool.and_eq_true, Bool.not_eq_true', List.isEmpty_eq_false_iff,
      decide_eq_true_eq] at hcounts
    refine ⟨fun he => hcounts.1 ?_, fun hd => hcounts.2 ?_, ?_⟩
    · rw [← String.toList_ofList (l := cs), he]
      rfl
    · rw [← String.toList_ofList (l := cs), hd]
      rfl
    · rw [String.toList_ofList]
      exact noSlash_of_mem_splitNames hmem

/-- From a proper path proper names lead on to one. -/
theorem Proper.append {p : FilePath} (h : p.Proper) {names : List String}
    (hnames : ∀ name ∈ names, ProperName name) : Proper ⟨p.anchor, p.names ++ names⟩ :=
  ⟨h.anchor, List.forall_mem_append.2 ⟨h.names, hnames⟩⟩

/-- The text of proper names does not start with a slash. -/
theorem takeWhile_intercalate {names : List String} (h : ∀ name ∈ names, ProperName name) :
    (String.intercalate "/" names).toList.takeWhile (· = '/') = [] := by
  rw [String.toList_intercalate]
  cases names with
  | nil => rfl
  | cons name names =>
    have hname := h name List.mem_cons_self
    cases hcs : name.toList with
    | nil => exact absurd (String.toList_eq_nil_iff.1 hcs) hname.ne_empty
    | cons c cs =>
      have hc : c ≠ '/' := Ne.symm (List.ne_of_not_mem_cons (hcs ▸ hname.noSlash))
      -- the first name has a character, and the text starts with it
      have hfront : ∃ rest, "/".toList.intercalate ((name :: names).map String.toList) =
          c :: rest := by
        cases names with
        | nil => exact ⟨cs, by rw [List.map_singleton, List.intercalate_singleton, hcs]⟩
        | cons next names =>
          rw [List.map_cons, List.map_cons, List.intercalate_cons_cons, hcs]
          exact ⟨_, rfl⟩
      obtain ⟨rest, hrest⟩ := hfront
      rw [hrest]
      exact List.takeWhile_cons_of_neg (by simpa using hc)

/-- **A proper path is read back from its text.** -/
theorem ofString_text {p : FilePath} (h : p.Proper) : ofString p.text = p := by
  obtain ⟨anchor, names⟩ := p
  have hnames := readNames_intercalate h.names
  have hslashes := takeWhile_intercalate h.names
  unfold text
  dsimp only at hnames hslashes ⊢
  split
  · -- only the path without anchor and names has a text of its own
    rename_i hempty
    obtain ⟨hanchor, hnil⟩ := Bool.and_eq_true_iff.1 hempty
    obtain rfl := String.isEmpty_iff.1 hanchor
    obtain rfl := List.isEmpty_iff.1 hnil
    rfl
  · unfold ofString
    rw [String.toList_append]
    generalize (String.intercalate "/" names).toList = cs at hnames hslashes
    have hslash (cs : List Char) :
        ('/' :: cs).takeWhile (· = '/') = '/' :: cs.takeWhile (· = '/') := rfl
    -- no slash, one or two; those of the anchor are all that there are in front
    dsimp only
    rcases h.anchor with rfl | rfl | rfl
    · have hanchor : "".toList = [] := rfl
      rw [hanchor, List.nil_append, hslashes, hnames]
      rfl
    · have hanchor : "/".toList = ['/'] := rfl
      rw [hanchor, List.singleton_append, hslash, hslashes, readNames_cons_slash, hnames]
      rfl
    · have hanchor : "//".toList = ['/', '/'] := rfl
      rw [hanchor, List.cons_append, List.singleton_append, hslash, hslash, hslashes,
        readNames_cons_slash, readNames_cons_slash, hnames]
      rfl

/-- Proper paths with the same text are the same. -/
theorem Proper.eq_of_text_eq {p q : FilePath} (hp : p.Proper) (hq : q.Proper)
    (h : p.text = q.text) : p = q := by
  rw [← ofString_text hp, h, ofString_text hq]

end FilePath

end SignalLint
