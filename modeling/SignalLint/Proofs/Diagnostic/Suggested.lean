import Mathlib.Data.Finset.Sort
import Mathlib.Data.String.Basic
import SignalLint.Proofs.Diagnostic.Merge

/-!
# What becomes of a source when suggestions are applied

`applySuggestions` collects the first edit of every diagnostic, sorts the distinct ones and makes
them from right to left. This module says what comes out without collecting, sorting or making
anything, for edits that stand inside the source: a set of edits, their number, and a text for each
offset.

* `suggestedEdits`, `suggestedTexts` — what is suggested, as sets. So neither the order of the
  diagnostics nor a suggestion made twice has a part in the result.
* `mergeEdits_eq_flatMap` — the merge of a source and some edits, offset by offset.
* `textsAt_firstEdits` — the texts that the merge takes from the collected edits at an offset are
  those suggested there, in ascending order.

The main statement is `applySuggestions_eq_flatMap`.
-/

namespace SignalLint

/-! ### What is suggested -/

/-- The edits that some diagnostic suggests first. -/
def suggestedEdits (diagnostics : List Diagnostic) : Finset TextEdit :=
  (diagnostics.filterMap fun d => d.suggestions.head?.map (·.edit)).toFinset

/-- The texts that some diagnostic suggests first for an offset. -/
def suggestedTexts (diagnostics : List Diagnostic) (offset : Nat) : Finset String :=
  ((suggestedEdits diagnostics).filter (·.offset = (offset : Int))).image (·.text)

section Suggested

variable {diagnostics : List Diagnostic}

theorem mem_suggestedEdits_iff {e : TextEdit} :
    e ∈ suggestedEdits diagnostics ↔
      ∃ d ∈ diagnostics, ∃ s, d.suggestions.head? = some s ∧ s.edit = e := by
  rw [suggestedEdits, List.mem_toFinset, List.mem_filterMap]
  simp only [Option.map_eq_some_iff]

theorem mem_firstEdits_iff_mem_suggestedEdits {e : TextEdit} :
    e ∈ firstEdits diagnostics ↔ e ∈ suggestedEdits diagnostics := by
  rw [firstEdits, suggestedEdits, List.mem_eraseDups, List.mem_toFinset]

theorem mem_suggestedTexts_iff {offset : Nat} {text : String} :
    text ∈ suggestedTexts diagnostics offset ↔
      ⟨(offset : Int), text⟩ ∈ suggestedEdits diagnostics := by
  rw [suggestedTexts, Finset.mem_image]
  constructor
  · rintro ⟨e, he, rfl⟩
    obtain ⟨hmem, hoffset⟩ := Finset.mem_filter.1 he
    rwa [← hoffset]
  · intro h
    exact ⟨_, Finset.mem_filter.2 ⟨h, rfl⟩, rfl⟩

theorem nodup_firstEdits (diagnostics : List Diagnostic) : (firstEdits diagnostics).Nodup :=
  nodup_eraseDups _

theorem toFinset_firstEdits (diagnostics : List Diagnostic) :
    (firstEdits diagnostics).toFinset = suggestedEdits diagnostics := by
  ext e
  rw [List.mem_toFinset, mem_firstEdits_iff_mem_suggestedEdits]

/-- The edits that are collected are as many as are suggested. -/
theorem length_firstEdits (diagnostics : List Diagnostic) :
    (firstEdits diagnostics).length = (suggestedEdits diagnostics).card := by
  rw [← toFinset_firstEdits, List.toFinset_card_of_nodup (nodup_firstEdits diagnostics)]

/-- **The texts at an offset.** What the merge puts in at an offset are the texts suggested there,
each once and in ascending order. -/
theorem textsAt_firstEdits (diagnostics : List Diagnostic) (offset : Nat) :
    textsAt (firstEdits diagnostics) offset = (suggestedTexts diagnostics offset).sort := by
  let here := (firstEdits diagnostics).filter (·.offset = (offset : Int))
  have hperm : (here.mergeSort TextEdit.atMost).Perm here := List.mergeSort_perm here _
  have hoffset : ∀ e ∈ here.mergeSort TextEdit.atMost, e.offset = (offset : Int) := by
    intro e he
    exact of_decide_eq_true (List.mem_filter.1 (hperm.mem_iff.1 he)).2
  -- at one offset edits differ in their texts and are sorted by them
  have hnodup : (textsAt (firstEdits diagnostics) offset).Nodup := by
    have hedits : (here.mergeSort TextEdit.atMost).Nodup :=
      hperm.nodup_iff.2 ((nodup_firstEdits diagnostics).filter _)
    refine hedits.map_on fun e he e' he' htext => ?_
    have hsame : e.offset = e'.offset := (hoffset e he).trans (hoffset e' he').symm
    cases e
    cases e'
    exact congr (congrArg TextEdit.mk hsame) htext
  have hsorted : (textsAt (firstEdits diagnostics) offset).Pairwise (· ≤ ·) := by
    refine List.pairwise_map.2 ((TextEdit.pairwise_mergeSort here).imp_of_mem ?_)
    intro e e' he he' hle
    rcases (TextEdit.atMost_iff e e').1 hle with hlt | ⟨-, htext⟩
    · rw [hoffset e he, hoffset e' he'] at hlt
      exact absurd hlt (lt_irrefl _)
    · exact htext
  have hset : (textsAt (firstEdits diagnostics) offset).toFinset =
      suggestedTexts diagnostics offset := by
    ext text
    rw [List.mem_toFinset, mem_suggestedTexts_iff, ← mem_firstEdits_iff_mem_suggestedEdits,
      textsAt, List.mem_map]
    constructor
    · rintro ⟨e, he, rfl⟩
      rw [← hoffset e he]
      exact (List.mem_filter.1 (hperm.mem_iff.1 he)).1
    · intro h
      exact ⟨_, hperm.mem_iff.2 (List.mem_filter.2 ⟨h, decide_eq_true rfl⟩), rfl⟩
  -- a sorted list without repetitions is the list of its set
  rw [← hset, (List.toFinset_sort _ hnodup).2 hsorted]

end Suggested

/-! ### The merge, offset by offset -/

/-- The merge is made up of one piece for each offset: the texts for it and the byte at it. Behind
the last byte there is an offset without one. -/
theorem mergeEdits_eq_flatMap (edits : List TextEdit) (offset : Nat) (rest : Bytes) :
    mergeEdits edits offset rest =
      (List.range (rest.length + 1)).flatMap fun i =>
        (textsAt edits (offset + i)).flatMap Utf8.encode ++ rest[i]?.toList := by
  -- on what is left of the source; all offsets move by one when a byte is passed
  induction rest generalizing offset with
  | nil =>
    rw [mergeEdits, List.length_nil, Nat.zero_add, List.range_one, List.flatMap_singleton,
      Nat.add_zero]
    exact (List.append_nil _).symm
  | cons b rest ih =>
    have hbehind : ∀ i, textsAt edits (offset + 1 + i) = textsAt edits (offset + (i + 1)) := by
      intro i
      rw [Nat.add_assoc, Nat.add_comm 1 i]
    rw [mergeEdits, ih, List.length_cons, List.range_succ_eq_map (n := rest.length + 1),
      List.flatMap_cons, List.flatMap_map, Nat.add_zero]
    simp only [hbehind]
    rw [List.append_assoc]
    rfl

/-! ### What comes out -/

/-- **What applying suggestions does to a source.** If the first suggestion of every diagnostic
stands inside the source, then the result is read off from left to right: at each offset, the one at
the end included, come the distinct texts suggested for it, in ascending order, and then the byte of
the source. The count is that of the distinct edits. Suggestions behind the first have no part in
it. -/
theorem applySuggestions_eq_flatMap {source : Bytes} {diagnostics : List Diagnostic}
    (hrange : ∀ d ∈ diagnostics, ∀ s, d.suggestions.head? = some s →
      0 ≤ s.edit.offset ∧ s.edit.offset ≤ (source.length : Int)) :
    applySuggestions source diagnostics =
        ((List.range (source.length + 1)).flatMap fun i =>
            (suggestedTexts diagnostics i).sort.flatMap Utf8.encode ++ source[i]?.toList,
          (suggestedEdits diagnostics).card) ∧
      ∀ others : List Diagnostic,
        others.map (·.suggestions.head?) = diagnostics.map (·.suggestions.head?) →
          applySuggestions source others = applySuggestions source diagnostics := by
  have hinside : ∀ e ∈ firstEdits diagnostics,
      0 ≤ e.offset ∧ e.offset ≤ (source.length : Int) := by
    intro e he
    obtain ⟨d, hd, s, hs, rfl⟩ :=
      mem_suggestedEdits_iff.1 (mem_firstEdits_iff_mem_suggestedEdits.1 he)
    exact hrange d hd s hs
  constructor
  -- inside the source, making the edits from right to left comes to the merge
  · have hbytes : (applySuggestions source diagnostics).1 =
        mergeEdits (firstEdits diagnostics) 0 source :=
      foldl_apply_mergeSort_eq_mergeEdits hinside
    have hcount : (applySuggestions source diagnostics).2 = (suggestedEdits diagnostics).card :=
      length_firstEdits diagnostics
    refine Prod.ext ?_ hcount
    rw [hbytes, mergeEdits_eq_flatMap]
    simp only [Nat.zero_add, textsAt_firstEdits]
  · intro others hothers
    -- what is collected is a function of the first suggestions
    have hfirst : ∀ ds : List Diagnostic, firstEdits ds =
        ((ds.map (·.suggestions.head?)).filterMap fun s => s.map (·.edit)).eraseDups := by
      intro ds
      rw [List.filterMap_map]
      rfl
    have hsame : firstEdits others = firstEdits diagnostics := by
      rw [hfirst, hfirst, hothers]
    rw [applySuggestions, applySuggestions, hsame]

/-- A diagnostic that makes these suggestions. -/
def suggesting (edits : List TextEdit) : Diagnostic where
  rule := "sample"
  messageId := "sample"
  message := ""
  path := "sample.ts"
  span := {}
  suggestions := edits.map fun e => { messageId := "sample", edit := e }

/-- Two texts at one offset, the later one suggested first and once more behind it, a text at the
end, a second suggestion and a diagnostic that suggests nothing. -/
def sampleSuggestions : List Diagnostic :=
  [suggesting [⟨1, "z"⟩, ⟨0, "unused"⟩], suggesting [⟨2, "é"⟩], suggesting [⟨1, "y"⟩],
    suggesting [⟨1, "z"⟩], suggesting []]

/-- The source `ab` becomes `ayzbé`, with three edits. -/
theorem applySuggestions_eq_flatMap_sampleSuggestions :
    (∀ d ∈ sampleSuggestions, ∀ s, d.suggestions.head? = some s →
        0 ≤ s.edit.offset ∧ s.edit.offset ≤ (([97, 98] : Bytes).length : Int)) ∧
      applySuggestions [97, 98] sampleSuggestions = ([97, 121, 122, 98, 195, 169], 3) := by
  have hrange : ∀ d ∈ sampleSuggestions, ∀ s, d.suggestions.head? = some s →
      0 ≤ s.edit.offset ∧ s.edit.offset ≤ (([97, 98] : Bytes).length : Int) := by
    simp [sampleSuggestions, suggesting]
  -- sets are computed but not their sorted lists, so these come from lemmas
  have hmiddle : (suggestedTexts sampleSuggestions 1).sort = ["y", "z"] := by
    have hset : suggestedTexts sampleSuggestions 1 = ["y", "z"].toFinset := by decide
    rw [hset, List.toFinset_sort _ (by decide)]
    decide
  have hend : (suggestedTexts sampleSuggestions 2).sort = ["é"] := by
    have hset : suggestedTexts sampleSuggestions 2 = {"é"} := by decide
    rw [hset, Finset.sort_singleton]
  have hstart : (suggestedTexts sampleSuggestions 0).sort = [] := by
    have hset : suggestedTexts sampleSuggestions 0 = ∅ := by decide
    rw [hset, Finset.sort_empty]
  have hcount : (suggestedEdits sampleSuggestions).card = 3 := by decide
  refine ⟨hrange, ?_⟩
  rw [(applySuggestions_eq_flatMap hrange).1, hcount]
  change ((suggestedTexts sampleSuggestions 0).sort.flatMap Utf8.encode ++ [97] ++
    ((suggestedTexts sampleSuggestions 1).sort.flatMap Utf8.encode ++ [98] ++
    ((suggestedTexts sampleSuggestions 2).sort.flatMap Utf8.encode ++ [] ++ [])), 3) = _
  rw [hstart, hmiddle, hend]
  decide

end SignalLint
