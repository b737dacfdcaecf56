import Mathlib.Data.List.Basic
import SignalLint.Report.BoxTable

/-!
# What marked-up texts are shown as

A console that draws in no colours fails to show a marked-up text only at a closing tag that closes
nothing. This module says for which texts that cannot happen, and so that this console does what is
relied on of any (`Console.ShowsStyles`).

* `Markup.joined_plain_append`, `Markup.joined_open`, `Markup.joined_close` — what plain characters
  and tags at the front of a text do to the tags that are open behind them.
* `Markup.toOption_joined_pieces` — whether a text is shown, and as what, does not depend on where
  it starts; a position is only told.
* `Markup.hasStrayTag_styled_append` — so a styled text in front of another one does not matter.
* `Markup.not_hasStrayTag_of_not_mem` — without an opening bracket nothing can go wrong.
* `Console.showsStyles_unstyled` — hence styled texts are shown.
-/

namespace SignalLint

namespace Markup

/-- A text cannot be shown: it has a closing tag that closes nothing. -/
def HasStrayTag (s : String) : Prop := ∃ t, plain? s = .error t

variable {c : Char} {cs rest body name style : List Char} {opened : List (List Char)}

/-! ### The front of a text -/

theorem readTag?_of_head?_ne (h : cs.head? ≠ some '[') : readTag? cs = none := by
  unfold readTag?
  split
  · exact absurd rfl h
  · rfl

/-- A character that is neither a bracket nor a backslash is a piece of its own. -/
theorem front_of_ne (position : Nat) (hbracket : c ≠ '[') (hslash : c ≠ '\\') :
    front position (c :: rest) = ([.text [c]], 1) := by
  have hslashes : escapes (c :: rest) = 0 := by
    rw [escapes, List.takeWhile_cons_of_neg (by simpa using hslash)]
    rfl
  have htag : readTag? (c :: rest) = none := readTag?_of_head?_ne (by simpa using hbracket)
  simp only [front, hslashes, List.drop_zero, htag]
  split
  · rename_i heq
    exact absurd (List.cons.inj heq).1 hslash
  · rfl

/-- Without a bracket behind it, a backslash is a character like any other. -/
theorem front_of_not_mem (position : Nat) (h : '[' ∉ c :: rest) :
    front position (c :: rest) = ([.text [c]], 1) := by
  have htag : readTag? ((c :: rest).drop (escapes (c :: rest))) = none :=
    readTag?_of_head?_ne fun hhead => h (List.mem_of_mem_drop (List.mem_of_head? hhead))
  simp only [front, htag]
  split
  · rename_i heq
    exact absurd (heq ▸ List.mem_cons_of_mem _ List.mem_cons_self) h
  · rfl

/-- What can stand between the brackets of a tag. -/
def isBody : List Char → Bool
  | [] => false
  | c :: rest => startsTag c && rest.all isInner

theorem front_tag (position : Nat) (h : isBody body = true) :
    front position ('[' :: (body ++ ']' :: rest)) =
      ([.text [], .tag body position], body.length + 2) := by
  cases body with
  | nil => cases h
  | cons c inner =>
    obtain ⟨hstart, hinner⟩ := Bool.and_eq_true_iff.1 h
    rw [List.all_eq_true] at hinner
    have hread : readTag? ('[' :: c :: (inner ++ ']' :: rest)) = some (c :: inner) := by
      simp only [readTag?, hstart, List.dropWhile_append_of_pos hinner,
        List.takeWhile_append_of_pos hinner]
      simp [isInner]
    have hslashes : escapes ('[' :: c :: (inner ++ ']' :: rest)) = 0 := rfl
    simp only [List.cons_append, front, hslashes, List.drop_zero, hread]
    simp

/-! ### The pieces of a text -/

theorem joined_pieces_of_front (opened : List (List Char)) (position : Nat)
    (h : front position (c :: rest) = ([.text [c]], 1)) :
    joined opened (pieces position (c :: rest)) =
      (joined opened (pieces (position + 1) rest)).map (c :: ·) := by
  rw [pieces, h]
  rfl

/-- Plain characters are shown, whatever tags are open. -/
theorem joined_plain_append (opened : List (List Char)) (position : Nat)
    (h : ∀ c ∈ cs, c ≠ '[' ∧ c ≠ '\\') :
    joined opened (pieces position (cs ++ rest)) =
      (joined opened (pieces (position + cs.length) rest)).map (cs ++ ·) := by
  induction cs generalizing position with
  | nil => exact (congrFun Except.map_id _).symm
  | cons c cs ih =>
    -- one character is a piece of its own, and the position moves by one
    obtain ⟨⟨hbracket, hslash⟩, hrest⟩ := List.forall_mem_cons.1 h
    rw [List.cons_append, joined_pieces_of_front _ _ (front_of_ne position hbracket hslash),
      ih _ hrest, List.length_cons, Nat.add_right_comm, Nat.add_assoc]
    cases joined opened (pieces _ rest) <;> rfl

/-- A text without an opening bracket is shown as it is. -/
theorem joined_of_not_mem (opened : List (List Char)) (position : Nat) (h : '[' ∉ cs) :
    joined opened (pieces position cs) = .ok cs := by
  induction cs generalizing position with
  | nil => rw [pieces, joined]
  | cons c cs ih =>
    rw [joined_pieces_of_front _ _ (front_of_not_mem position h),
      ih _ fun hmem => h (List.mem_cons_of_mem _ hmem)]
    rfl

theorem pieces_tag (position : Nat) (h : isBody body = true) :
    pieces position ('[' :: (body ++ ']' :: rest)) =
      .text [] :: .tag body position :: pieces (position + (body.length + 2)) rest := by
  have hdrop : (body ++ ']' :: rest).drop (body.length + 1) = rest := by
    rw [← List.drop_drop, List.drop_left]
    rfl
  rw [pieces, front_tag position h]
  simp only [List.cons_append, List.nil_append, Nat.add_one_sub_one, hdrop]

/-- A tag that does not close is open from there on. -/
theorem joined_open (opened : List (List Char)) (position : Nat) (h : isBody body = true)
    (hopens : (tagName body).head? ≠ some '/') :
    joined opened (pieces position ('[' :: (body ++ ']' :: rest))) =
      joined (matchName (tagName body) :: opened)
        (pieces (position + (body.length + 2)) rest) := by
  rw [pieces_tag position h, joined, joined]
  split
  · -- the tag would have to begin with a slash to close
    rename_i hname
    exact absurd (by rw [hname]; rfl) hopens
  · exact congrFun Except.map_id _

/-- A tag that closes the last open one leaves the others open. -/
theorem joined_close (opened : List (List Char)) (position : Nat)
    (h : isBody ('/' :: name) = true) (hname : tagName name = name)
    (hblank : (trimmed name).isEmpty = false) :
    joined (matchName name :: opened) (pieces position ('[' :: '/' :: (name ++ ']' :: rest))) =
      joined opened (pieces (position + (name.length + 3)) rest) := by
  have htag : tagName ('/' :: name) = '/' :: name := by
    rw [tagName, List.takeWhile_cons_of_pos (by decide), ← tagName, hname]
  rw [← List.cons_append, pieces_tag position h, joined, joined, htag]
  simp only [hblank, close?, if_true]
  exact congrFun Except.map_id _

/-- What can be the name of a style. -/
def IsStyle (style : List Char) : Prop :=
  isBody style = true ∧ isBody ('/' :: style) = true ∧ tagName style = style ∧
    style.head? ≠ some '/' ∧ (trimmed style).isEmpty = false

instance (style : List Char) : Decidable (IsStyle style) := inferInstanceAs (Decidable (_ ∧ _))

/-- **A styled text is shown as it is**, and the tags around it are closed behind it. -/
theorem joined_styled_append (opened : List (List Char)) (position : Nat) (rest : List Char)
    (hstyle : IsStyle style) (h : ∀ c ∈ cs, c ≠ '[' ∧ c ≠ '\\') :
    ∃ position', joined opened (pieces position
        ('[' :: (style ++ ']' :: (cs ++ '[' :: '/' :: (style ++ ']' :: rest))))) =
      (joined opened (pieces position' rest)).map (cs ++ ·) := by
  obtain ⟨hopen, hclose, hname, hhead, hblank⟩ := hstyle
  refine ⟨position + (style.length + 2) + cs.length + (style.length + 3), ?_⟩
  rw [joined_open opened position hopen (hname.symm ▸ hhead), joined_plain_append _ _ h, hname,
    joined_close opened _ hclose hname hblank]

/-! ### Positions are only told -/

/-- What stands at the front of a text, at whatever position. -/
theorem front_cases (cs : List Char) :
    (∃ t w, ∀ k, front k cs = ([.text t], w)) ∨
      (∃ t t' w, ∀ k, front k cs = ([.text t, .text t'], w)) ∨
      ∃ t body n w, ∀ k, front k cs = ([.text t, .tag body (k + n)], w) := by
  unfold front
  dsimp only
  split
  · by_cases hodd : escapes cs % 2 = 1
    · simp only [if_pos hodd]
      exact Or.inr (Or.inl ⟨_, _, _, fun _ => rfl⟩)
    · simp only [if_neg hodd]
      exact Or.inr (Or.inr ⟨_, _, _, _, fun _ => rfl⟩)
  · split
    · exact Or.inl ⟨_, _, fun _ => rfl⟩
    · exact Or.inl ⟨_, _, fun _ => rfl⟩

theorem toOption_map {ε α β : Type} (x : Except ε α) (f : α → β) :
    (x.map f).toOption = x.toOption.map f := by
  cases x <;> rfl

/-- **What is shown does not depend on where the text starts.** -/
theorem toOption_joined_pieces (opened : List (List Char)) (position position' : Nat)
    (cs : List Char) :
    (joined opened (pieces position cs)).toOption =
      (joined opened (pieces position' cs)).toOption := by
  -- the recursion of the reader is the induction; the other position goes along with it
  induction position, cs using pieces.induct generalizing opened position' with
  | case1 => rw [pieces, pieces]
  | case2 position c rest parts width hfront ih =>
    have hbehind : ∀ opened,
        (joined opened (pieces (position + width) (rest.drop (width - 1)))).toOption =
          (joined opened (pieces (position' + width) (rest.drop (width - 1)))).toOption :=
      fun opened => ih opened (position' + width)
    rw [pieces, hfront, pieces]
    rcases front_cases (c :: rest) with ⟨t, w, h⟩ | ⟨t, t', w, h⟩ | ⟨t, body, n, w, h⟩
    · obtain ⟨rfl, rfl⟩ := Prod.mk.inj (hfront.symm.trans (h position))
      simp only [h, List.cons_append, List.nil_append, joined, toOption_map, hbehind]
    · obtain ⟨rfl, rfl⟩ := Prod.mk.inj (hfront.symm.trans (h position))
      simp only [h, List.cons_append, List.nil_append, joined, toOption_map, hbehind]
    · obtain ⟨rfl, rfl⟩ := Prod.mk.inj (hfront.symm.trans (h position))
      simp only [h, List.cons_append, List.nil_append, joined, toOption_map]
      congr 1
      split
      · rename_i name hname
        -- a closing tag that closes nothing is an error at either position
        split
        · exact hbehind _
        · rfl
      · exact hbehind _

/-! ### Stray tags -/

theorem hasStrayTag_iff {s : String} :
    HasStrayTag s ↔ (joined [] (pieces 0 s.toList)).toOption = none := by
  unfold HasStrayTag plain?
  cases joined [] (pieces 0 s.toList) with
  | error t => simp [Except.map, Except.toOption]
  | ok cs => simp [Except.map, Except.toOption]

/-- A text without an opening bracket has no tags at all. -/
theorem not_hasStrayTag_of_not_mem {s : String} (h : '[' ∉ s.toList) : ¬ HasStrayTag s := by
  rw [hasStrayTag_iff, joined_of_not_mem [] 0 h]
  exact nofun

/-- **A styled text in front does not matter.** -/
theorem hasStrayTag_styled_append {style s t : String} (hstyle : IsStyle style.toList)
    (hs : ∀ c ∈ s.toList, c ≠ '[' ∧ c ≠ '\\') :
    HasStrayTag (styled style s ++ t) ↔ HasStrayTag t := by
  have htext : (styled style s ++ t).toList = '[' :: (style.toList ++ ']' ::
      (s.toList ++ '[' :: '/' :: (style.toList ++ ']' :: t.toList))) := by
    simp only [styled, String.toList_append, List.append_assoc]
    rfl
  obtain ⟨position, hjoined⟩ := joined_styled_append [] 0 t.toList hstyle hs
  rw [hasStrayTag_iff, hasStrayTag_iff, htext, hjoined, toOption_map, Option.map_eq_none_iff,
    toOption_joined_pieces [] position 0]

end Markup

/-! ### Consoles -/

namespace Console

/-- A console shows a marked-up text. -/
def Shows (c : Console) (s : String) : Prop := ∃ text, c.text s = .ok text

instance (c : Console) (s : String) : Decidable (c.Shows s) :=
  match h : c.text s with
  | .ok text => isTrue ⟨text, h⟩
  | .error _ => isFalse fun ⟨_, h'⟩ => nomatch h.symm.trans h'

/-- A text without tags. -/
def IsPlain (s : String) : Prop := ∀ c ∈ s.toList, c ≠ '[' ∧ c ≠ '\\'

instance (s : String) : Decidable (IsPlain s) := List.decidableBAll _ _

/-- **What is relied on of a console**: it shows a plain text between the tags of a style, whatever
plain text comes behind it. -/
def ShowsStyles (c : Console) : Prop :=
  ∀ style ∈ ["bold", "cyan", "green", "magenta", "red", "white", "yellow"], ∀ s t, IsPlain s →
    IsPlain t → c.Shows (styled style s ++ t)

/-- The console without colours shows what has no stray tag. -/
theorem shows_unstyled_iff {s : String} : unstyled.Shows s ↔ ¬ Markup.HasStrayTag s := by
  have htext : unstyled.text s = (Markup.shown? s).mapError StrayTag.toProblem := rfl
  unfold Shows Markup.HasStrayTag
  rw [htext, Markup.shown?]
  cases Markup.plain? s <;> simp [Except.map, Except.mapError]

theorem showsStyles_unstyled : unstyled.ShowsStyles := by
  intro style hstyle s t hs ht
  have hname : Markup.IsStyle style.toList := by
    simp only [List.mem_cons, List.not_mem_nil, or_false] at hstyle
    rcases hstyle with rfl | rfl | rfl | rfl | rfl | rfl | rfl <;> decide +kernel
  -- what is behind the styled text is plain, so it has no stray tag
  rw [shows_unstyled_iff, Markup.hasStrayTag_styled_append hname hs]
  exact Markup.not_hasStrayTag_of_not_mem fun hmem => (ht _ hmem).1 rfl

end Console

end SignalLint
