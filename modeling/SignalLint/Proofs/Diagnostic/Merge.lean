import Mathlib.Data.Finset.Card
import SignalLint.Diagnostic.Edit

/-!
# Edits from right to left and from left to right

`applySuggestions` makes its edits one after the other, in descending order, and each of them shifts
what stands behind it. `mergeEdits` reads the source once from left to right and never looks back.
For offsets inside the source the two give the same bytes.

* `TextEdit.foldr_apply_eq_mergeEdits` — edits in ascending order, made from the last to the first,
  give the merge. The edits at the first offset are made last, when the bytes behind them are in
  place already, so that the source can be peeled off from the front.
* `foldl_apply_mergeSort_eq_mergeEdits` — the same for any edits, once they are sorted.
* `insertBefore` — the merge for edits that all have one text: the text stands before each byte
  whose offset is in a set. `take_drop_insertBefore` says what is found where: a stretch between two
  insertions has moved by as many texts as stand before it.
-/

namespace SignalLint

/-- What is left of a list without its repetitions has none. -/
theorem nodup_eraseDups {α : Type} [BEq α] [LawfulBEq α] : ∀ as : List α, as.eraseDups.Nodup
  | [] => List.nodup_nil
  | a :: as => by
    -- the head is filtered out of the tail before its repetitions are erased
    rw [List.eraseDups_cons, List.nodup_cons, List.mem_eraseDups]
    refine ⟨fun h => ?_, nodup_eraseDups _⟩
    have hne := (List.mem_filter.1 h).2
    rw [BEq.rfl] at hne
    cases hne
  termination_by as => as.length
  decreasing_by exact Nat.lt_succ_of_le (List.length_filter_le _ _)

namespace TextEdit

/-! ### The order of edits -/

theorem atMost_iff (a b : TextEdit) :
    a.atMost b = true ↔ a.offset < b.offset ∨ a.offset = b.offset ∧ a.text ≤ b.text := by
  unfold atMost before
  rw [Bool.not_eq_true', ← Bool.not_eq_true, Bool.or_eq_true, Bool.and_eq_true,
    decide_eq_true_eq, decide_eq_true_eq, decide_eq_true_eq, ← String.not_lt]
  constructor
  · intro h
    rcases Int.lt_trichotomy a.offset b.offset with hlt | heq | hlt
    · exact Or.inl hlt
    · exact Or.inr ⟨heq, fun ht => h (Or.inr ⟨heq.symm, ht⟩)⟩
    · exact absurd (Or.inl hlt) h
  · -- of two distinct edits only one is at most the other
    rintro (hlt | ⟨heq, ht⟩) (hlt' | ⟨heq', ht'⟩)
    · omega
    · omega
    · omega
    · exact ht ht'

theorem atMost_trans (a b c : TextEdit) (hab : a.atMost b = true) (hbc : b.atMost c = true) :
    a.atMost c = true := by
  rw [atMost_iff] at *
  rcases hab with hab | ⟨hab, htext⟩
  · rcases hbc with hbc | ⟨hbc, -⟩
    · exact Or.inl (Int.lt_trans hab hbc)
    · exact Or.inl (hbc ▸ hab)
  · rcases hbc with hbc | ⟨hbc, htext'⟩
    · exact Or.inl (hab ▸ hbc)
    · exact Or.inr ⟨hab.trans hbc, String.le_trans htext htext'⟩

theorem atMost_total (a b : TextEdit) : (a.atMost b || b.atMost a) = true := by
  rw [Bool.or_eq_true, atMost_iff, atMost_iff]
  rcases Int.lt_trichotomy a.offset b.offset with h | h | h
  · exact Or.inl (Or.inl h)
  · exact (String.le_total a.text b.text).imp (fun ht => Or.inr ⟨h, ht⟩)
      fun ht => Or.inr ⟨h.symm, ht⟩
  · exact Or.inr (Or.inl h)

theorem atMost_antisymm (a b : TextEdit) (hab : a.atMost b = true) (hba : b.atMost a = true) :
    a = b := by
  rw [atMost_iff] at hab hba
  have hoffset : a.offset = b.offset := by omega
  have htext : a.text = b.text := by
    rcases hab with hab | ⟨-, hab⟩
    · omega
    · rcases hba with hba | ⟨-, hba⟩
      · omega
      · exact String.le_antisymm hab hba
  cases a
  cases b
  exact congr (congrArg TextEdit.mk hoffset) htext

theorem pairwise_mergeSort (edits : List TextEdit) :
    (edits.mergeSort atMost).Pairwise fun a b => a.atMost b = true :=
  List.pairwise_mergeSort atMost_trans atMost_total edits

/-- The same edits have one ascending order. -/
theorem eq_of_perm {edits edits' : List TextEdit} (h : edits.Perm edits')
    (hsorted : edits.Pairwise fun a b => a.atMost b = true)
    (hsorted' : edits'.Pairwise fun a b => a.atMost b = true) : edits = edits' :=
  List.Perm.eq_of_pairwise (fun a b _ _ => atMost_antisymm a b) hsorted hsorted' h

end TextEdit

/-! ### From left to right -/

/-- The texts suggested at an offset, in ascending order. -/
def textsAt (edits : List TextEdit) (offset : Nat) : List String :=
  ((edits.filter (·.offset = (offset : Int))).mergeSort TextEdit.atMost).map (·.text)

/-- The bytes of `rest`, which starts at `offset` of the source, with the suggested texts put in
front of each byte and at the end. -/
def mergeEdits (edits : List TextEdit) (offset : Nat) : Bytes → Bytes
  | [] => (textsAt edits offset).flatMap Utf8.encode
  | b :: rest =>
    (textsAt edits offset).flatMap Utf8.encode ++ b :: mergeEdits edits (offset + 1) rest

/-- The texts at an offset are those of the sorted edits, in their order. -/
theorem textsAt_eq (edits : List TextEdit) (offset : Nat) :
    textsAt edits offset =
      ((edits.mergeSort TextEdit.atMost).filter (·.offset = (offset : Int))).map (·.text) := by
  -- both are sorted lists of the same edits
  have hsame : (edits.filter (·.offset = (offset : Int))).mergeSort TextEdit.atMost =
      (edits.mergeSort TextEdit.atMost).filter (·.offset = (offset : Int)) :=
    TextEdit.eq_of_perm
      ((List.mergeSort_perm _ _).trans ((List.mergeSort_perm edits _).filter _).symm)
      (TextEdit.pairwise_mergeSort _) ((TextEdit.pairwise_mergeSort _).filter _)
  rw [textsAt, hsame]

/-- The merge depends only on the texts at the offsets that it comes to. -/
theorem mergeEdits_congr {edits edits' : List TextEdit} {rest : Bytes} {offset : Nat}
    (h : ∀ k, offset ≤ k → textsAt edits k = textsAt edits' k) :
    mergeEdits edits offset rest = mergeEdits edits' offset rest := by
  induction rest generalizing offset with
  | nil => rw [mergeEdits, mergeEdits, h offset (Nat.le_refl _)]
  | cons b rest ih =>
    rw [mergeEdits, mergeEdits, h offset (Nat.le_refl _),
      ih fun k hk => h k (Nat.le_of_succ_le hk)]

/-! ### From right to left -/

namespace TextEdit

/-- An edit at the end of `front` puts its text there. -/
theorem apply_append {e : TextEdit} {front : Bytes} (h : e.offset = (front.length : Int))
    (rest : Bytes) : e.apply (front ++ rest) = front ++ (Utf8.encode e.text ++ rest) := by
  have hplace : clampOffset (front ++ rest).length e.offset = front.length := by
    rw [clampOffset, h, if_neg (by omega), Int.toNat_natCast, List.length_append]
    exact Nat.min_eq_left (Nat.le_add_right _ _)
  rw [apply, hplace, List.take_left, List.drop_left, List.append_assoc]

/-- Edits that all stand at one offset put their texts there, one behind the other. -/
theorem foldr_apply_of_offset_eq {edits : List TextEdit} {front : Bytes}
    (h : ∀ e ∈ edits, e.offset = (front.length : Int)) (rest : Bytes) :
    edits.foldr apply (front ++ rest) =
      front ++ ((edits.map (·.text)).flatMap Utf8.encode ++ rest) := by
  induction edits with
  | nil => rfl
  | cons e edits ih =>
    rw [List.foldr_cons, ih fun e' he' => h e' (List.mem_cons_of_mem e he'),
      apply_append (h e List.mem_cons_self), List.map_cons, List.flatMap_cons, List.append_assoc]

/-- Sorted edits, none of which stands before `n`, begin with those at `n`. -/
theorem exists_append_of_pairwise {edits : List TextEdit} {n : Nat}
    (hsorted : edits.Pairwise fun a b => a.atMost b = true)
    (hfirst : ∀ e ∈ edits, (n : Int) ≤ e.offset) :
    ∃ here later, here ++ later = edits ∧ (∀ e ∈ here, e.offset = (n : Int)) ∧
      ∀ e ∈ later, (n : Int) < e.offset := by
  induction edits with
  | nil => exact ⟨[], [], rfl, nofun, nofun⟩
  | cons e edits ih =>
    obtain ⟨hhead, htail⟩ := List.pairwise_cons.1 hsorted
    by_cases he : e.offset = (n : Int)
    · -- one more edit at `n`
      obtain ⟨here, later, rfl, hhere, hlater⟩ :=
        ih htail fun e' he' => hfirst e' (List.mem_cons_of_mem e he')
      exact ⟨e :: here, later, rfl, List.forall_mem_cons.2 ⟨he, hhere⟩, hlater⟩
    · -- all others stand at the first one or behind it
      have hlt : (n : Int) < e.offset := by
        have h := hfirst e List.mem_cons_self
        omega
      refine ⟨[], e :: edits, rfl, nofun, List.forall_mem_cons.2 ⟨hlt, fun e' he' => ?_⟩⟩
      rcases (atMost_iff e e').1 (hhead e' he') with h | ⟨h, -⟩
      · omega
      · omega

theorem textsAt_of_pairwise {edits : List TextEdit}
    (hsorted : edits.Pairwise fun a b => a.atMost b = true) (offset : Nat) :
    textsAt edits offset = (edits.filter (·.offset = (offset : Int))).map (·.text) := by
  rw [textsAt_eq, List.mergeSort_of_pairwise hsorted]

/-- **Right to left is left to right.** Sorted edits, made from the last to the first, give the
merge. -/
theorem foldr_apply_eq_mergeEdits {edits : List TextEdit} {front rest : Bytes}
    (hsorted : edits.Pairwise fun a b => a.atMost b = true)
    (hrange : ∀ e ∈ edits,
      (front.length : Int) ≤ e.offset ∧ e.offset ≤ (front.length : Int) + rest.length) :
    edits.foldr apply (front ++ rest) = front ++ mergeEdits edits front.length rest := by
  -- on the source that is left; the front grows by the bytes that were passed
  induction rest generalizing edits front with
  | nil =>
    -- no byte is left, so all edits stand at the end
    have hoffset : ∀ e ∈ edits, e.offset = (front.length : Int) := by
      intro e he
      have h := hrange e he
      rw [List.length_nil] at h
      omega
    have hall : edits.filter (·.offset = (front.length : Int)) = edits :=
      List.filter_eq_self.2 fun e he => decide_eq_true (hoffset e he)
    rw [foldr_apply_of_offset_eq hoffset, mergeEdits, textsAt_of_pairwise hsorted, hall,
      List.append_nil]
  | cons b rest ih =>
    obtain ⟨here, later, rfl, hhere, hlater⟩ :=
      exists_append_of_pairwise hsorted fun e he => (hrange e he).1
    obtain ⟨-, hsorted', -⟩ := List.pairwise_append.1 hsorted
    have hlength : (front ++ [b]).length = front.length + 1 := by
      rw [List.length_append, List.length_singleton]
    have hpeeled : ∀ bytes, front ++ b :: bytes = (front ++ [b]) ++ bytes := fun bytes => by
      rw [List.append_assoc]
      rfl
    -- the texts in front of `b` are those of the first edits, the texts behind it are the others'
    have hfront : textsAt (here ++ later) front.length = here.map (·.text) := by
      have hall : here.filter (·.offset = (front.length : Int)) = here :=
        List.filter_eq_self.2 fun e he => decide_eq_true (hhere e he)
      have hnone : later.filter (·.offset = (front.length : Int)) = [] :=
        List.filter_eq_nil_iff.2 fun e he h => by
          have hlt := hlater e he
          have heq := of_decide_eq_true h
          omega
      rw [textsAt_of_pairwise hsorted, List.filter_append, hall, hnone, List.append_nil]
    have hbehind : ∀ k, front.length + 1 ≤ k → textsAt later k = textsAt (here ++ later) k := by
      intro k hk
      have hnone : here.filter (·.offset = (k : Int)) = [] :=
        List.filter_eq_nil_iff.2 fun e he h => by
          have heq := hhere e he
          have heq' := of_decide_eq_true h
          omega
      rw [textsAt_of_pairwise hsorted', textsAt_of_pairwise hsorted, List.filter_append, hnone,
        List.nil_append]
    -- the later edits are made first, behind the byte `b`
    have hfirst : later.foldr apply (front ++ b :: rest) =
        front ++ b :: mergeEdits (here ++ later) (front.length + 1) rest := by
      rw [hpeeled, ih hsorted', hlength, mergeEdits_congr hbehind, ← hpeeled]
      intro e he
      have hlt := hlater e he
      have hend := (hrange e (List.mem_append_right here he)).2
      rw [List.length_cons] at hend
      rw [hlength]
      omega
    -- the others put their texts in front of it
    rw [List.foldr_append, hfirst, foldr_apply_of_offset_eq hhere, mergeEdits, hfront]

end TextEdit

/-- Edits inside the source, made in descending order, give the merge. -/
theorem foldl_apply_mergeSort_eq_mergeEdits {edits : List TextEdit} {source : Bytes}
    (hrange : ∀ e ∈ edits, 0 ≤ e.offset ∧ e.offset ≤ (source.length : Int)) :
    (edits.mergeSort TextEdit.atMost).reverse.foldl (fun buffer e => e.apply buffer) source =
      mergeEdits edits 0 source := by
  have hsame : ∀ k, 0 ≤ k → textsAt (edits.mergeSort TextEdit.atMost) k = textsAt edits k := by
    intro k _
    rw [TextEdit.textsAt_of_pairwise (TextEdit.pairwise_mergeSort edits), textsAt_eq]
  have hmerge : (edits.mergeSort TextEdit.atMost).foldr TextEdit.apply ([] ++ source) =
      [] ++ mergeEdits (edits.mergeSort TextEdit.atMost) ([] : Bytes).length source := by
    refine TextEdit.foldr_apply_eq_mergeEdits (TextEdit.pairwise_mergeSort edits) fun e he => ?_
    have h := hrange e (List.mem_mergeSort.1 he)
    rw [List.length_nil]
    omega
  rw [List.foldl_reverse, ← mergeEdits_congr hsame]
  exact hmerge

/-! ### Insertions of one text -/

/-- The bytes of a source, which starts at `offset`, with a text in front of each byte whose offset
is in `K`, and at the end if its offset is. -/
def insertBefore (text : Bytes) (K : Finset Nat) (offset : Nat) : Bytes → Bytes
  | [] => if offset ∈ K then text else []
  | b :: rest => (if offset ∈ K then text else []) ++ b :: insertBefore text K (offset + 1) rest

section InsertBefore

variable {K : Finset Nat}

/-- Distinct edits that have one text stand at distinct offsets. -/
theorem textsAt_of_text_eq {edits : List TextEdit} {text : String} (hnodup : edits.Nodup)
    (htext : ∀ e ∈ edits, e.text = text) (hK : ∀ k, k ∈ K ↔ ⟨(k : Int), text⟩ ∈ edits) (k : Nat) :
    textsAt edits k = if k ∈ K then [text] else [] := by
  -- an edit at `k` is the edit at `k`, which occurs once or not at all
  have hone : edits.filter (·.offset = (k : Int)) =
      List.replicate (edits.count ⟨(k : Int), text⟩) ⟨(k : Int), text⟩ := by
    rw [← List.filter_eq]
    refine List.filter_congr fun e he => decide_eq_decide.2 ?_
    rw [TextEdit.mk.injEq, and_iff_left (htext e he)]
  rw [textsAt, hone, hnodup.count]
  by_cases h : k ∈ K
  · rw [if_pos ((hK k).1 h), if_pos h, List.replicate_one, List.mergeSort_singleton]
    rfl
  · rw [if_neg fun h' => h ((hK k).2 h'), if_neg h, List.replicate_zero, List.mergeSort_nil]
    rfl

/-- There are as many distinct edits that have one text as offsets. -/
theorem length_eq_card_of_text_eq {edits : List TextEdit} {text : String} (hnodup : edits.Nodup)
    (htext : ∀ e ∈ edits, e.text = text) (hK : ∀ k, k ∈ K ↔ ⟨(k : Int), text⟩ ∈ edits)
    (hoffset : ∀ e ∈ edits, 0 ≤ e.offset) : edits.length = K.card := by
  have hinjective : Function.Injective fun k : Nat => TextEdit.mk k text :=
    fun a b h => Int.natCast_inj.1 (congrArg TextEdit.offset h)
  -- the offset of an edit says which one it is
  have himage : edits.toFinset = K.image fun k : Nat => TextEdit.mk k text := by
    ext e
    rw [List.mem_toFinset, Finset.mem_image]
    constructor
    · intro he
      have heq : TextEdit.mk (e.offset.toNat : Int) text = e := by
        rw [Int.toNat_of_nonneg (hoffset e he), ← htext e he]
      exact ⟨e.offset.toNat, (hK _).2 (heq ▸ he), heq⟩
    · rintro ⟨k, hk, rfl⟩
      exact (hK k).1 hk
  rw [← List.toFinset_card_of_nodup hnodup, himage, Finset.card_image_of_injective K hinjective]

theorem mergeEdits_eq_insertBefore {edits : List TextEdit} {text : String} (hnodup : edits.Nodup)
    (htext : ∀ e ∈ edits, e.text = text) (hK : ∀ k, k ∈ K ↔ ⟨(k : Int), text⟩ ∈ edits)
    (offset : Nat) (source : Bytes) :
    mergeEdits edits offset source = insertBefore (Utf8.encode text) K offset source := by
  have hhere : ∀ k, (textsAt edits k).flatMap Utf8.encode =
      if k ∈ K then Utf8.encode text else [] := by
    intro k
    rw [textsAt_of_text_eq hnodup htext hK]
    split
    · exact List.flatMap_singleton _ _
    · rfl
  induction source generalizing offset with
  | nil => rw [mergeEdits, insertBefore, hhere]
  | cons b source ih => rw [mergeEdits, insertBefore, hhere, ih]

variable {text : Bytes}

/-- The offsets of a stretch are its first one and those of the rest. -/
theorem card_filter_stretch (p i : Nat) :
    (K.filter fun j => p ≤ j ∧ j < p + (i + 1)).card =
      (if p ∈ K then 1 else 0) + (K.filter fun j => p + 1 ≤ j ∧ j < p + 1 + i).card := by
  by_cases h : p ∈ K
  · have hinsert : (K.filter fun j => p ≤ j ∧ j < p + (i + 1)) =
        insert p (K.filter fun j => p + 1 ≤ j ∧ j < p + 1 + i) := by
      ext j
      simp only [Finset.mem_filter, Finset.mem_insert]
      constructor
      · rintro ⟨hj, hle, hlt⟩
        rcases Nat.eq_or_lt_of_le hle with rfl | hgt
        · exact Or.inl rfl
        · exact Or.inr ⟨hj, hgt, by omega⟩
      · rintro (rfl | ⟨hj, hle, hlt⟩)
        · exact ⟨h, Nat.le_refl _, by omega⟩
        · exact ⟨hj, by omega, by omega⟩
    have hnew : p ∉ K.filter fun j => p + 1 ≤ j ∧ j < p + 1 + i := by
      intro hp
      have hle := (Finset.mem_filter.1 hp).2.1
      omega
    rw [hinsert, Finset.card_insert_of_notMem hnew, if_pos h, Nat.add_comm]
  · have hsame : (K.filter fun j => p ≤ j ∧ j < p + (i + 1)) =
        K.filter fun j => p + 1 ≤ j ∧ j < p + 1 + i := by
      refine Finset.filter_congr fun j hj => ?_
      have hne : p ≠ j := fun heq => h (heq ▸ hj)
      omega
    rw [hsame, if_neg h, Nat.zero_add]

/-- What stands behind the first `i` bytes of the source has moved by the texts in front of them. -/
theorem drop_insertBefore {p i : Nat} {source : Bytes} (h : i ≤ source.length) :
    (insertBefore text K p source).drop
        (i + text.length * (K.filter fun j => p ≤ j ∧ j < p + i).card) =
      insertBefore text K (p + i) (source.drop i) := by
  induction i generalizing p source with
  | zero =>
    have hempty : (K.filter fun j => p ≤ j ∧ j < p + 0) = ∅ :=
      Finset.filter_eq_empty_iff.2 fun j _ hj => by omega
    rw [hempty, Finset.card_empty, Nat.mul_zero, Nat.zero_add, List.drop_zero, List.drop_zero,
      Nat.add_zero]
  | succ i ih =>
    cases source with
    | nil => exact absurd h (Nat.not_succ_le_zero i)
    | cons b source =>
      have hrest := ih (p := p + 1) (Nat.le_of_succ_le_succ h)
      have hlength : (if p ∈ K then text else []).length =
          text.length * (if p ∈ K then 1 else 0) := by
        by_cases hp : p ∈ K
        · rw [if_pos hp, if_pos hp, Nat.mul_one]
        · rw [if_neg hp, if_neg hp, Nat.mul_zero, List.length_nil]
      -- the text in front of `b`, if there is one, and `b` itself are dropped first
      have hshift : i + 1 + text.length * (K.filter fun j => p ≤ j ∧ j < p + (i + 1)).card =
          (if p ∈ K then text else []).length + ((i + text.length *
            (K.filter fun j => p + 1 ≤ j ∧ j < p + 1 + i).card) + 1) := by
        rw [card_filter_stretch, hlength, Nat.mul_add]
        omega
      rw [insertBefore, hshift, List.drop_length_add_append, List.drop_succ_cons, hrest,
        List.drop_succ_cons]
      congr 1
      omega

/-- Between two insertions the source is as it was. -/
theorem take_insertBefore {p n : Nat} {source : Bytes} (h : n ≤ source.length)
    (hgap : ∀ j ∈ K, p ≤ j → p + n ≤ j) :
    (insertBefore text K p source).take n = source.take n := by
  induction n generalizing p source with
  | zero => rw [List.take_zero, List.take_zero]
  | succ n ih =>
    cases source with
    | nil => exact absurd h (Nat.not_succ_le_zero n)
    | cons b source =>
      have hp : p ∉ K := fun hp => by
        have hle := hgap p hp (Nat.le_refl _)
        omega
      have hrest : (insertBefore text K (p + 1) source).take n = source.take n := by
        refine ih (Nat.le_of_succ_le_succ h) fun j hj hle => ?_
        have hle' := hgap j hj (by omega)
        omega
      rw [insertBefore, if_neg hp, List.nil_append, List.take_succ_cons, List.take_succ_cons, hrest]

/-- Where a text is inserted, the source follows it up to the next insertion. -/
theorem take_insertBefore_of_mem {p n : Nat} {source : Bytes} (hp : p ∈ K)
    (h : n ≤ source.length) (hgap : ∀ j ∈ K, p < j → p + n ≤ j) :
    (insertBefore text K p source).take (text.length + n) = text ++ source.take n := by
  cases source with
  | nil =>
    obtain rfl : n = 0 := Nat.le_zero.1 h
    rw [insertBefore, if_pos hp, Nat.add_zero, List.take_length, List.take_nil, List.append_nil]
  | cons b source =>
    rw [insertBefore, if_pos hp, List.take_length_add_append]
    cases n with
    | zero => rfl
    | succ n =>
      have hrest : (insertBefore text K (p + 1) source).take n = source.take n := by
        refine take_insertBefore (Nat.le_of_succ_le_succ h) fun j hj hle => ?_
        have hle' := hgap j hj hle
        omega
      rw [List.take_succ_cons, List.take_succ_cons, hrest]

/-- **What is found where.** At an offset of `K`, moved by the texts inserted before it, stands the
text, and behind it the source from this offset on, at least up to the next offset of `K`. -/
theorem take_drop_insertBefore {k stop : Nat} {source : Bytes} (hk : k ∈ K) (hle : k ≤ stop)
    (hstop : stop ≤ source.length) (hgap : ∀ j ∈ K, k < j → stop ≤ j) :
    ((insertBefore text K 0 source).drop (k + text.length * (K.filter (· < k)).card)).take
        (text.length + (stop - k)) =
      text ++ (source.take stop).drop k := by
  have hbefore : (K.filter fun j => 0 ≤ j ∧ j < 0 + k) = K.filter (· < k) :=
    Finset.filter_congr fun j _ => by omega
  have hdrop : (insertBefore text K 0 source).drop
      (k + text.length * (K.filter fun j => 0 ≤ j ∧ j < 0 + k).card) =
        insertBefore text K (0 + k) (source.drop k) :=
    drop_insertBefore (Nat.le_trans hle hstop)
  rw [hbefore, Nat.zero_add] at hdrop
  rw [hdrop, take_insertBefore_of_mem hk, List.drop_take]
  · rw [List.length_drop]
    omega
  · intro j hj hlt
    have hle' := hgap j hj hlt
    omega

end InsertBefore

end SignalLint
