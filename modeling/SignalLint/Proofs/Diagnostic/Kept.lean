import Mathlib.Algebra.BigOperators.Group.Finset.Basic
import SignalLint.Proofs.Diagnostic.Suggested
import SignalLint.Proofs.Text.Utf8

/-!
# What edits leave in a buffer

Wherever the offset of an edit points, the buffer is cut at one place and the text is put between
its two parts (`TextEdit.exists_apply_eq_append`), so nothing is ever taken out. A text need not
stay in one piece, though. An offset that counts from the end counts from the end of what the buffer
is by then, and so it can fall into a text that an earlier edit has put there. What stays is the
order of its bytes.

* `Holds` — the invariant of a sequence of edits: the source and each text are in the buffer, and
  nothing else is. `Holds.apply` makes one more edit, `holds_foldr_apply` all of them.
* `applySuggestions_congr` — of the diagnostics only the set of their first edits counts.

The main statement is `applySuggestions_conserves`, for edits with any offsets. Where each byte
comes to stand, for offsets inside the source, is what `mergeEdits` tells.
-/

namespace SignalLint

/-! ### One edit -/

namespace TextEdit

/-- **An edit cuts a buffer in two** and puts its text between the parts, wherever its offset
points. -/
theorem exists_apply_eq_append (e : TextEdit) (buffer : Bytes) :
    ∃ front rest, buffer = front ++ rest ∧
      e.apply buffer = front ++ (Utf8.encode e.text ++ rest) := by
  let place := clampOffset buffer.length e.offset
  refine ⟨buffer.take place, buffer.drop place, ?_, ?_⟩
  · rw [List.take_append_drop]
  · rw [apply, List.append_assoc]

variable (e : TextEdit) (buffer : Bytes)

theorem sublist_apply : buffer.Sublist (e.apply buffer) := by
  obtain ⟨front, rest, rfl, happly⟩ := e.exists_apply_eq_append buffer
  rw [happly]
  exact (List.Sublist.refl front).append (List.sublist_append_right _ rest)

theorem encode_text_sublist_apply : (Utf8.encode e.text).Sublist (e.apply buffer) := by
  obtain ⟨front, rest, -, happly⟩ := e.exists_apply_eq_append buffer
  rw [happly]
  exact (List.sublist_append_left _ rest).trans (List.sublist_append_right front _)

theorem perm_apply : (e.apply buffer).Perm (Utf8.encode e.text ++ buffer) := by
  obtain ⟨front, rest, rfl, happly⟩ := e.exists_apply_eq_append buffer
  rw [happly]
  exact List.perm_append_comm_assoc front (Utf8.encode e.text) rest

end TextEdit

/-! ### Edits one after the other -/

/-- **What a buffer holds** after some edits: the bytes of the source and those of each text, in
their order though not in one piece, and no other bytes. -/
structure Holds (source : Bytes) (made : List TextEdit) (buffer : Bytes) : Prop where
  ofSource : source.Sublist buffer
  ofText : ∀ e ∈ made, (Utf8.encode e.text).Sublist buffer
  bytes : buffer.Perm (source ++ made.flatMap fun e => Utf8.encode e.text)

namespace Holds

variable {source buffer : Bytes} {made : List TextEdit}

theorem start (source : Bytes) : Holds source [] source where
  ofSource := List.Sublist.refl source
  ofText := nofun
  bytes := by rw [List.flatMap_nil, List.append_nil]

/-- One more edit keeps what is there and adds its own text. -/
theorem apply (h : Holds source made buffer) (e : TextEdit) :
    Holds source (e :: made) (e.apply buffer) where
  ofSource := h.ofSource.trans (e.sublist_apply buffer)
  ofText := by
    refine List.forall_mem_cons.2 ⟨e.encode_text_sublist_apply buffer, fun e' he' => ?_⟩
    exact (h.ofText e' he').trans (e.sublist_apply buffer)
  bytes := by
    rw [List.flatMap_cons]
    calc List.Perm (e.apply buffer) (Utf8.encode e.text ++ buffer) := e.perm_apply buffer
      List.Perm _ (Utf8.encode e.text ++ (source ++ made.flatMap fun e => Utf8.encode e.text)) :=
        h.bytes.append_left _
      List.Perm _ (source ++ (Utf8.encode e.text ++ made.flatMap fun e => Utf8.encode e.text)) :=
        List.perm_append_comm_assoc _ _ _

end Holds

/-- So do all edits, made from the last to the first. -/
theorem holds_foldr_apply (source : Bytes) (edits : List TextEdit) :
    Holds source edits (edits.foldr TextEdit.apply source) := by
  -- the offsets have no part in this, so the edits need not be sorted
  induction edits with
  | nil => exact Holds.start source
  | cons e edits ih => exact ih.apply e

/-! ### All suggestions -/

section Suggestions

variable {source : Bytes} {diagnostics others : List Diagnostic}

theorem holds_applySuggestions (source : Bytes) (diagnostics : List Diagnostic) :
    Holds source ((firstEdits diagnostics).mergeSort TextEdit.atMost)
      (applySuggestions source diagnostics).1 := by
  have hbytes : (applySuggestions source diagnostics).1 =
      ((firstEdits diagnostics).mergeSort TextEdit.atMost).foldr TextEdit.apply source :=
    List.foldl_reverse
  rw [hbytes]
  exact holds_foldr_apply source _

/-- Of the diagnostics only the set of their first edits has a part in the result. -/
theorem applySuggestions_congr (h : suggestedEdits others = suggestedEdits diagnostics) :
    applySuggestions source others = applySuggestions source diagnostics := by
  have hperm : (firstEdits others).Perm (firstEdits diagnostics) := by
    refine (List.perm_ext_iff_of_nodup (nodup_firstEdits _) (nodup_firstEdits _)).2 fun e => ?_
    rw [mem_firstEdits_iff_mem_suggestedEdits, mem_firstEdits_iff_mem_suggestedEdits, h]
  have hsorted : (firstEdits others).mergeSort TextEdit.atMost =
      (firstEdits diagnostics).mergeSort TextEdit.atMost :=
    TextEdit.eq_of_perm
      ((List.mergeSort_perm _ _).trans (hperm.trans (List.mergeSort_perm _ _).symm))
      (TextEdit.pairwise_mergeSort _) (TextEdit.pairwise_mergeSort _)
  rw [applySuggestions, applySuggestions, hsorted, hperm.length_eq]

/-- The same diagnostics, in any order and any number of times, suggest the same edits. -/
theorem suggestedEdits_congr (h : ∀ d, d ∈ others ↔ d ∈ diagnostics) :
    suggestedEdits others = suggestedEdits diagnostics := by
  ext e
  simp only [mem_suggestedEdits_iff, h]

end Suggestions

/-- **Nothing is lost when suggestions are applied**, whatever their offsets are. The bytes of the
source are all there in their order, and so are those of each text. The result is longer than the
source by the sizes of the texts of the distinct first edits, and the count is the number of these
edits. Neither the order of the diagnostics nor a repetition among them has a part in the result. -/
theorem applySuggestions_conserves (source : Bytes) (diagnostics : List Diagnostic) :
    source.Sublist (applySuggestions source diagnostics).1 ∧
      (∀ e ∈ suggestedEdits diagnostics,
        (Utf8.encode e.text).Sublist (applySuggestions source diagnostics).1) ∧
      (applySuggestions source diagnostics).1.length =
        source.length + ∑ e ∈ suggestedEdits diagnostics, e.text.utf8ByteSize ∧
      (applySuggestions source diagnostics).2 = (suggestedEdits diagnostics).card ∧
      ∀ others : List Diagnostic, (∀ d, d ∈ others ↔ d ∈ diagnostics) →
        applySuggestions source others = applySuggestions source diagnostics := by
  have hholds := holds_applySuggestions source diagnostics
  have hperm := List.mergeSort_perm (firstEdits diagnostics) TextEdit.atMost
  refine ⟨hholds.ofSource, fun e he => ?_, ?_, length_firstEdits diagnostics,
    fun others hothers => applySuggestions_congr (suggestedEdits_congr hothers)⟩
  · exact hholds.ofText e (hperm.mem_iff.2 (mem_firstEdits_iff_mem_suggestedEdits.2 he))
  · rw [hholds.bytes.length_eq, List.length_append, List.length_flatMap, (hperm.map _).sum_eq,
      ← toFinset_firstEdits, List.sum_toFinset _ (nodup_firstEdits diagnostics)]
    simp only [Utf8.length_encode]

/-- A text for the end, and one that goes in front of the last byte, which is then one of the
first text. A second suggestion and a diagnostic that suggests nothing have no part in it. -/
def splitSuggestions : List Diagnostic :=
  [suggesting [⟨-1, "é"⟩], suggesting [⟨5, "xy"⟩, ⟨0, "unused"⟩], suggesting []]

/-- The source `ab` becomes `abxéy`, also if the diagnostics come in reverse and then once more. -/
theorem applySuggestions_conserves_splitText :
    let others := splitSuggestions.reverse ++ splitSuggestions
    let result := ([97, 98, 120, 195, 169, 121], 2)
    (∀ d, d ∈ others ↔ d ∈ splitSuggestions) ∧
      applySuggestions [97, 98] others = result ∧
      [97, 98].Sublist result.1 ∧
      (∀ e ∈ suggestedEdits splitSuggestions, (Utf8.encode e.text).Sublist result.1) ∧
      result.1.length =
        [97, 98].length + ∑ e ∈ suggestedEdits splitSuggestions, e.text.utf8ByteSize ∧
      result.2 = (suggestedEdits splitSuggestions).card := by
  intro others result
  have hresult : applySuggestions [97, 98] splitSuggestions = result := by
    have hfirst : firstEdits splitSuggestions = [⟨-1, "é"⟩, ⟨5, "xy"⟩] := by decide
    have hsorted : (firstEdits splitSuggestions).Pairwise fun a b => a.atMost b = true := by
      rw [hfirst]
      decide
    rw [applySuggestions, List.mergeSort_of_pairwise hsorted, hfirst]
    decide
  have hothers : ∀ d, d ∈ others ↔ d ∈ splitSuggestions := fun d => by
    rw [List.mem_append, List.mem_reverse, or_self]
  obtain ⟨hsource, htext, hlength, hcount, hsame⟩ :=
    applySuggestions_conserves [97, 98] splitSuggestions
  rw [hresult] at hsource htext hlength hcount
  exact ⟨hothers, (hsame others hothers).trans hresult, hsource, htext, hlength, hcount⟩

end SignalLint
