import Mathlib.Data.List.Infix
import Mathlib.Data.List.TakeWhile
import SignalLint.Text.Template

/-!
# Filling in a template once

Where placeholders stand in a template is settled before anything is filled in. This module says so
for every template that is put together from literals and placeholders (`Template.Parts`): each
placeholder is found where it was put, none is found across the seams, and what a value brings in is
not looked at again.

* `placeholder?_text_append` — a placeholder is found at the front of a text, whatever follows.
* `placeholder?_eq_none_of_not_opening`, `placeholder?_third_brace` — nothing begins in a literal; a
  literal may end in a brace, which is then one brace too many in front of the next placeholder.
* `fill_literal_append`, `fill_text_append` — one step each of the way through a template.

The main statement is `formatMessage_eq_filled`.
-/

namespace SignalLint

namespace Template

/-! ### The parts of a template -/

/-- Text without two opening braces in a row. It may begin or end in a single one. -/
structure Literal where
  text : List Char
  noOpening : ¬ ['\x7b', '\x7b'] <:+: text

/-- A placeholder as it is written: a name between blanks between braces. -/
structure Placeholder where
  before : List Char
  start : Char
  more : List Char
  after : List Char
  before_blank : ∀ c ∈ before, isBlank c = true
  start_name : isNameStart start = true
  more_name : ∀ c ∈ more, isNamePart c = true
  after_blank : ∀ c ∈ after, isBlank c = true

namespace Placeholder

/-- The name between the blanks. -/
def name (p : Placeholder) : String := String.ofList (p.start :: p.more)

/-- The placeholder with its blanks and braces. -/
def text (p : Placeholder) : List Char :=
  '\x7b' :: '\x7b' :: (p.before ++ p.start :: (p.more ++ (p.after ++ ['\x7d', '\x7d'])))

/-- What a placeholder is filled in with: the text of the value of its name, or itself. -/
def value (p : Placeholder) (data : List (String × Value)) : List Char :=
  match lookup? data p.name with
  | some v => v.plain.toList
  | none => p.text

end Placeholder

/-- A template in parts: literals with a placeholder between any two. -/
structure Parts where
  first : Literal
  more : List (Placeholder × Literal)

namespace Parts

/-- The template that is put together from its parts. -/
def text (t : Parts) : List Char :=
  t.first.text ++ t.more.flatMap fun part => part.1.text ++ part.2.text

/-- The parts with the value of each placeholder in its place. -/
def filled (t : Parts) (data : List (String × Value)) : List Char :=
  t.first.text ++ t.more.flatMap fun part => part.1.value data ++ part.2.text

end Parts

/-! ### Blanks and names -/

theorem isNamePart_of_isNameStart {c : Char} (h : isNameStart c = true) : isNamePart c = true := by
  unfold isNameStart at h
  unfold isNamePart Char.isAlphanum
  simp only [Bool.or_eq_true] at *
  exact h.imp_left Or.inl

/-- No character of a name is blank, so a name ends where blanks begin. -/
theorem isBlank_eq_false_of_isNamePart {c : Char} (h : isNamePart c = true) :
    isBlank c = false := by
  have hranges : (48 ≤ c.toNat ∧ c.toNat ≤ 57) ∨ (65 ≤ c.toNat ∧ c.toNat ≤ 90) ∨
      (97 ≤ c.toNat ∧ c.toNat ≤ 122) ∨ c.toNat = 95 := by
    have hparts : isNamePart c = ((('A'.val ≤ c.val ∧ c.val ≤ 'Z'.val) ||
      ('a'.val ≤ c.val && c.val ≤ 'z'.val)) || ('0'.val ≤ c.val && c.val ≤ '9'.val) || c = '_') := rfl
    simp only [hparts, Bool.or_eq_true, Bool.and_eq_true, decide_eq_true_eq,
      UInt32.le_iff_toNat_le] at h
    rcases h with ((h | h) | h) | rfl
    · exact Or.inr (Or.inl h)
    · exact Or.inr (Or.inr (Or.inl h))
    · exact Or.inl h
    · exact Or.inr (Or.inr (Or.inr rfl))
  simp only [isBlank, Bool.or_eq_false_iff, Bool.and_eq_false_iff, decide_eq_false_iff_not]
  omega

/-- What comes behind a name: blanks, if any, and the closing braces. -/
theorem Placeholder.head_after (p : Placeholder) (rest : List Char) :
    ∃ c cs, p.after ++ '\x7d' :: '\x7d' :: rest = c :: cs ∧ isNamePart c = false := by
  cases hafter : p.after with
  | nil => exact ⟨_, _, rfl, by decide⟩
  | cons c cs =>
    have hblank : isBlank c = true := p.after_blank c (hafter ▸ List.mem_cons_self)
    refine ⟨c, _, rfl, ?_⟩
    by_contra hname
    rw [isBlank_eq_false_of_isNamePart (eq_true_of_ne_false hname)] at hblank
    cases hblank

/-! ### Where a placeholder is found -/

/-- Without two opening braces there is no placeholder. -/
theorem placeholder?_eq_none_of_not_opening {cs : List Char}
    (h : ¬ ['\x7b', '\x7b'] <+: cs) : placeholder? cs = none := by
  unfold placeholder?
  split
  · exact absurd (List.prefix_append ['\x7b', '\x7b'] _) h
  · rfl

/-- With a third brace behind them there is none at the first two. -/
theorem placeholder?_third_brace (cs : List Char) :
    placeholder? ('\x7b' :: '\x7b' :: '\x7b' :: cs) = none := rfl

/-- **A placeholder is found where it is put**, whatever follows it. -/
theorem placeholder?_text_append (p : Placeholder) (rest : List Char) :
    placeholder? (p.text ++ rest) = some (p.name, rest) := by
  have hstart : isBlank p.start = false :=
    isBlank_eq_false_of_isNamePart (isNamePart_of_isNameStart p.start_name)
  have htext : p.text ++ rest = '\x7b' :: '\x7b' :: (p.before ++ p.start ::
      (p.more ++ (p.after ++ '\x7d' :: '\x7d' :: rest))) := by
    simp only [Placeholder.text, List.cons_append, List.append_assoc, List.nil_append]
  -- the blanks in front end at the name, the name at what is behind it, the blanks there at a brace
  have hbefore : (p.before ++ p.start :: (p.more ++ (p.after ++ '\x7d' :: '\x7d' :: rest))).dropWhile
      isBlank = p.start :: (p.more ++ (p.after ++ '\x7d' :: '\x7d' :: rest)) := by
    rw [List.dropWhile_append_of_pos p.before_blank,
      List.dropWhile_cons_of_neg (by simp [hstart])]
  obtain ⟨c, cs, hbehind, hc⟩ := p.head_after rest
  have hname : (p.more ++ (p.after ++ '\x7d' :: '\x7d' :: rest)).takeWhile isNamePart = p.more := by
    rw [hbehind, List.takeWhile_append_of_pos p.more_name,
      List.takeWhile_cons_of_neg (by simp [hc]), List.append_nil]
  have hmore : (p.more ++ (p.after ++ '\x7d' :: '\x7d' :: rest)).dropWhile isNamePart =
      p.after ++ '\x7d' :: '\x7d' :: rest := by
    rw [hbehind, List.dropWhile_append_of_pos p.more_name,
      List.dropWhile_cons_of_neg (by simp [hc])]
  have hafter : (p.after ++ '\x7d' :: '\x7d' :: rest).dropWhile isBlank =
      '\x7d' :: '\x7d' :: rest := by
    rw [List.dropWhile_append_of_pos p.after_blank]
    rfl
  rw [htext]
  simp only [placeholder?, hbefore, p.start_name, if_true, hname, hmore, hafter, Placeholder.name]

/-! ### One step through a template -/

section Steps

variable {data : List (String × Value)} {cs rest : List Char} {c : Char} {name : String}

theorem fill_nil : fill data [] = [] := by
  unfold fill
  rfl

theorem fill_cons_of_none (h : placeholder? (c :: cs) = none) :
    fill data (c :: cs) = c :: fill data cs := by
  rw [fill]
  split
  · rename_i heq
    cases h.symm.trans heq
  · rfl

theorem fill_of_known {v : Value} (h : placeholder? cs = some (name, rest))
    (hv : lookup? data name = some v) : fill data cs = v.plain.toList ++ fill data rest := by
  rw [fill]
  split
  · rename_i heq
    cases h.symm.trans heq
    rw [hv]
  · rename_i heq
    cases h.symm.trans heq

theorem fill_of_unknown (h : placeholder? cs = some (name, rest)) (hv : lookup? data name = none) :
    fill data cs = cs.take (cs.length - rest.length) ++ fill data rest := by
  rw [fill]
  split
  · rename_i heq
    cases h.symm.trans heq
    rw [hv]
  · rename_i heq
    cases h.symm.trans heq

end Steps

/-- A placeholder gives way to its value, and filling in goes on behind it. -/
theorem fill_text_append (data : List (String × Value)) (p : Placeholder) (rest : List Char) :
    fill data (p.text ++ rest) = p.value data ++ fill data rest := by
  have hfound := placeholder?_text_append p rest
  unfold Placeholder.value
  cases hv : lookup? data p.name with
  | some v => exact fill_of_known hfound hv
  | none =>
    -- what is kept is as long as the placeholder
    rw [fill_of_unknown hfound hv, List.length_append, Nat.add_sub_cancel, List.take_left]

/-- What can follow a literal: nothing, or a placeholder. -/
def EndsLiteral (rest : List Char) : Prop := rest = [] ∨ ['\x7b', '\x7b'] <+: rest

/-- No placeholder begins within a literal. -/
theorem placeholder?_literal_append {c : Char} {cs rest : List Char}
    (h : ¬ ['\x7b', '\x7b'] <:+: c :: cs) (hrest : EndsLiteral rest) :
    placeholder? (c :: cs ++ rest) = none := by
  by_cases hopening : ['\x7b', '\x7b'] <+: c :: cs ++ rest
  · -- the second of the two braces is not in the literal, so there are three
    cases cs with
    | cons c' cs =>
      refine absurd ?_ h
      obtain ⟨rfl, rfl⟩ : '\x7b' = c ∧ '\x7b' = c' := by simpa using hopening
      exact (List.prefix_append ['\x7b', '\x7b'] cs).isInfix
    | nil =>
      obtain ⟨rfl, hsecond⟩ : '\x7b' = c ∧ ['\x7b'] <+: rest := by simpa using hopening
      rcases hrest with rfl | ⟨behind, rfl⟩
      · simp at hsecond
      · exact placeholder?_third_brace behind
  · exact placeholder?_eq_none_of_not_opening hopening

/-- **A literal stays as it is**, and filling in goes on behind it. -/
theorem fill_literal_append (data : List (String × Value)) {cs rest : List Char}
    (h : ¬ ['\x7b', '\x7b'] <:+: cs) (hrest : EndsLiteral rest) :
    fill data (cs ++ rest) = cs ++ fill data rest := by
  induction cs with
  | nil => rfl
  | cons c cs ih =>
    have hcs : ¬ ['\x7b', '\x7b'] <:+: cs := fun hinfix => h (List.infix_cons hinfix)
    have hnone : placeholder? (c :: (cs ++ rest)) = none := placeholder?_literal_append h hrest
    rw [List.cons_append, List.cons_append, fill_cons_of_none hnone, ih hcs]

/-! ### A whole template -/

theorem fill_text (data : List (String × Value)) (t : Parts) :
    fill data t.text = t.filled data := by
  obtain ⟨first, more⟩ := t
  unfold Parts.text Parts.filled
  -- what is behind the first literal is again a template, with one placeholder in front
  induction more generalizing first with
  | nil =>
    rw [List.flatMap_nil, List.flatMap_nil, fill_literal_append data first.noOpening (Or.inl rfl),
      fill_nil]
  | cons part more ih =>
    obtain ⟨p, literal⟩ := part
    have hopening : EndsLiteral (p.text ++ (literal.text ++
        more.flatMap fun part => part.1.text ++ part.2.text)) :=
      Or.inr (List.prefix_append ['\x7b', '\x7b'] _)
    rw [List.flatMap_cons, List.flatMap_cons, List.append_assoc, List.append_assoc,
      fill_literal_append data first.noOpening hopening, fill_text_append, ih literal]

end Template

/-- **Placeholders are filled in once.** Let a template be put together from literals without two
opening braces in a row and a placeholder between any two of them. Its message is put together in
the same way, with the text of the value in place of each placeholder whose name has one; the others
stay as they are written. This is so whatever the values are: what they bring in is not read again,
also where it looks like a placeholder or makes one together with what stands beside it. -/
theorem formatMessage_eq_filled (t : Template.Parts) (data : List (String × Value)) :
    formatMessage (String.ofList t.text) data = String.ofList (t.filled data) := by
  rw [formatMessage, String.toList_ofList, Template.fill_text]

/-- The template `Use {{ type }} for {{key}}{{{a}}}`, in parts. The literal in front of the last
placeholder ends in a brace. -/
def sampleParts : Template.Parts where
  first := ⟨"Use ".toList, by decide⟩
  more := [
    (⟨[' '], 't', "ype".toList, [' '], List.all_eq_true.1 rfl, rfl, List.all_eq_true.1 rfl,
        List.all_eq_true.1 rfl⟩,
      ⟨" for ".toList, by decide⟩),
    (⟨[], 'k', "ey".toList, [], nofun, rfl, List.all_eq_true.1 rfl, nofun⟩,
      ⟨['\x7b'], by decide⟩),
    (⟨[], 'a', [], [], nofun, rfl, nofun, nofun⟩, ⟨['\x7d'], by decide⟩)]

/-- The name `key` is unknown, the value of `type` looks like a placeholder for `a`, and the value of
`a` makes one for `type` together with the braces around it. -/
theorem formatMessage_eq_filled_sampleParts :
    formatMessage
        "Use \x7b\x7b type \x7d\x7d for \x7b\x7bkey\x7d\x7d\x7b\x7b\x7ba\x7d\x7d\x7d"
        [("type", .text "\x7b\x7ba\x7d\x7d"), ("a", .text "\x7btype\x7d")] =
      "Use \x7b\x7ba\x7d\x7d for \x7b\x7bkey\x7d\x7d\x7b\x7btype\x7d\x7d" := by
  have hfilled := formatMessage_eq_filled sampleParts
    [("type", .text "\x7b\x7ba\x7d\x7d"), ("a", .text "\x7btype\x7d")]
  have htext : String.ofList sampleParts.text =
    "Use \x7b\x7b type \x7d\x7d for \x7b\x7bkey\x7d\x7d\x7b\x7b\x7ba\x7d\x7d\x7d" := by decide
  rw [← htext, hfilled]
  decide

end SignalLint
