import Mathlib.Logic.Function.Basic
import SignalLint.Report.Annotation

/-!
# Messages without line ends

A message is put into a workflow command character by character: percent signs and line ends are
written as escapes, and every other character stands for itself (`Annotation.escapeChar_cases`). The
same comes out of three replacements in the whole text, if the percent signs are replaced first:
neither of the later two finds anything in an escape, and neither makes up a percent sign that would
have been escaped (`Annotation.escape_eq_replaced`).

* `Annotation.IsEscaped` — what an escaped message looks like, said without escaping: each percent
  sign starts one of the three escapes, and there is no line end.
* `Annotation.unescapeChars_escaped` — messages come back whatever they are, also if they hold
  escapes themselves.
* `Annotation.escaped_unescapeChars_iff` — and so do escaped messages, and no other texts.

The main statement is `Annotation.escape_invertible`.
-/

namespace SignalLint

namespace Annotation

variable {c : Char} {t : List Char}

/-! ### One character -/

/-- A character that stands for itself: no percent sign and no line end. -/
def StandsForItself (c : Char) : Prop := c ≠ '%' ∧ c ≠ '\r' ∧ c ≠ '\n'

theorem escapeChar_of_standsForItself (h : StandsForItself c) : escapeChar c = [c] := by
  rw [escapeChar, if_neg h.1, if_neg h.2.1, if_neg h.2.2]

/-- There are three escapes; every other character stands for itself. -/
theorem escapeChar_cases (c : Char) :
    (c = '%' ∧ escapeChar c = "%25".toList) ∨ (c = '\r' ∧ escapeChar c = "%0D".toList) ∨
      (c = '\n' ∧ escapeChar c = "%0A".toList) ∨ (StandsForItself c ∧ escapeChar c = [c]) := by
  by_cases hpercent : c = '%'
  · exact Or.inl ⟨hpercent, hpercent ▸ rfl⟩
  by_cases hreturn : c = '\r'
  · exact Or.inr (Or.inl ⟨hreturn, hreturn ▸ rfl⟩)
  by_cases hfeed : c = '\n'
  · exact Or.inr (Or.inr (Or.inl ⟨hfeed, hfeed ▸ rfl⟩))
  have hself : StandsForItself c := ⟨hpercent, hreturn, hfeed⟩
  exact Or.inr (Or.inr (Or.inr ⟨hself, escapeChar_of_standsForItself hself⟩))

/-! ### Three replacements -/

/-- A text with another text in the place of each occurrence of a character. -/
def replaced (c : Char) (text s : String) : String :=
  String.ofList (s.toList.flatMap fun d => if d = c then text.toList else [d])

/-- **Escaping is three replacements**, one after the other. What the first two put in holds no
character that is still to be replaced. -/
theorem escape_eq_replaced (s : String) :
    escape s = replaced '\n' "%0A" (replaced '\r' "%0D" (replaced '%' "%25" s)) := by
  simp only [escape, replaced, String.toList_ofList, List.flatMap_assoc]
  congr 2
  funext d
  rcases escapeChar_cases d with ⟨hd, h⟩ | ⟨hd, h⟩ | ⟨hd, h⟩ | ⟨⟨hpercent, hreturn, hfeed⟩, h⟩
  · rw [h, hd]
    rfl
  · rw [h, hd]
    rfl
  · rw [h, hd]
    rfl
  · rw [h, if_neg hpercent, List.flatMap_singleton, if_neg hreturn, List.flatMap_singleton,
      if_neg hfeed]

/-! ### Escaped messages -/

/-- The characters of a message as they stand in a command. -/
def escaped (cs : List Char) : List Char := cs.flatMap escapeChar

theorem escaped_cons (c : Char) (cs : List Char) : escaped (c :: cs) = escapeChar c ++ escaped cs :=
  List.flatMap_cons

theorem toList_escape (s : String) : (escape s).toList = escaped s.toList :=
  String.toList_ofList

/-- **What an escaped message looks like.** -/
inductive IsEscaped : List Char → Prop
  | nil : IsEscaped []
  | percent {rest} (h : IsEscaped rest) : IsEscaped ('%' :: '2' :: '5' :: rest)
  | carriageReturn {rest} (h : IsEscaped rest) : IsEscaped ('%' :: '0' :: 'D' :: rest)
  | lineFeed {rest} (h : IsEscaped rest) : IsEscaped ('%' :: '0' :: 'A' :: rest)
  | character {c rest} (hc : StandsForItself c) (h : IsEscaped rest) : IsEscaped (c :: rest)

theorem isEscaped_escaped (cs : List Char) : IsEscaped (escaped cs) := by
  induction cs with
  | nil => exact .nil
  | cons c cs ih =>
    rw [escaped_cons]
    rcases escapeChar_cases c with ⟨-, h⟩ | ⟨-, h⟩ | ⟨-, h⟩ | ⟨hc, h⟩ <;> rw [h]
    · exact .percent ih
    · exact .carriageReturn ih
    · exact .lineFeed ih
    · exact .character hc ih

theorem IsEscaped.lineEnds_notMem (h : IsEscaped t) : '\r' ∉ t ∧ '\n' ∉ t := by
  induction h with
  | nil => exact ⟨List.not_mem_nil, List.not_mem_nil⟩
  | percent _ ih => simpa using ih
  | carriageReturn _ ih => simpa using ih
  | lineFeed _ ih => simpa using ih
  | character hc _ ih =>
    exact ⟨List.not_mem_cons_of_ne_of_not_mem hc.2.1.symm ih.1,
      List.not_mem_cons_of_ne_of_not_mem hc.2.2.symm ih.2⟩

/-- No message brings a line end into a command. -/
theorem newline_notMem_escaped (cs : List Char) : '\n' ∉ escaped cs :=
  (isEscaped_escaped cs).lineEnds_notMem.2

/-! ### Reading back -/

/-- Reads escapes back; a percent sign that starts none stands for itself. -/
def unescapeChars : List Char → List Char
  | '%' :: '2' :: '5' :: rest => '%' :: unescapeChars rest
  | '%' :: '0' :: 'D' :: rest => '\r' :: unescapeChars rest
  | '%' :: '0' :: 'A' :: rest => '\n' :: unescapeChars rest
  | c :: rest => c :: unescapeChars rest
  | [] => []

/-- The message that was escaped. -/
def unescape (s : String) : String := String.ofList (unescapeChars s.toList)

theorem toList_unescape (s : String) : (unescape s).toList = unescapeChars s.toList :=
  String.toList_ofList

/-- What is read behind a character other than the percent sign does not depend on it. -/
theorem unescapeChars_cons (h : c ≠ '%') (rest : List Char) :
    unescapeChars (c :: rest) = c :: unescapeChars rest := by
  rw [unescapeChars]
  · exact fun _ hc => absurd hc h
  · exact fun _ hc => absurd hc h
  · exact fun _ hc => absurd hc h

/-- **Escapes are read back**, whatever the message. -/
theorem unescapeChars_escaped (cs : List Char) : unescapeChars (escaped cs) = cs := by
  -- each character is read from what it was written as, in front of any rest
  induction cs with
  | nil => rfl
  | cons c cs ih =>
    rw [escaped_cons]
    rcases escapeChar_cases c with ⟨hc, h⟩ | ⟨hc, h⟩ | ⟨hc, h⟩ | ⟨hc, h⟩ <;> rw [h]
    · rw [hc]
      exact congrArg _ ih
    · rw [hc]
      exact congrArg _ ih
    · rw [hc]
      exact congrArg _ ih
    · rw [List.singleton_append, unescapeChars_cons hc.1, ih]

theorem escaped_injective : Function.Injective escaped :=
  Function.LeftInverse.injective unescapeChars_escaped

/-- What looks like an escaped message is one: it is escaped from what is read back from it. -/
theorem IsEscaped.escaped_unescapeChars (h : IsEscaped t) : escaped (unescapeChars t) = t := by
  induction h with
  | nil => rfl
  | percent _ ih => exact congrArg ("%25".toList ++ ·) ih
  | carriageReturn _ ih => exact congrArg ("%0D".toList ++ ·) ih
  | lineFeed _ ih => exact congrArg ("%0A".toList ++ ·) ih
  | character hc _ ih =>
    rw [unescapeChars_cons hc.1, escaped_cons, escapeChar_of_standsForItself hc, ih,
      List.singleton_append]

theorem escaped_unescapeChars_iff : escaped (unescapeChars t) = t ↔ IsEscaped t := by
  refine ⟨fun h => ?_, IsEscaped.escaped_unescapeChars⟩
  rw [← h]
  exact isEscaped_escaped _

/-- **Escaping loses nothing.** It is three replacements, percent signs first, and leaves neither
carriage return nor line feed. What was escaped is read back in one pass from left to right, so that
no two messages are escaped alike. The other way round, a text is escaped from what is read back
from it exactly if it looks like an escaped message. -/
theorem escape_invertible :
    (∀ s, escape s = replaced '\n' "%0A" (replaced '\r' "%0D" (replaced '%' "%25" s))) ∧
      (∀ s, '\r' ∉ (escape s).toList ∧ '\n' ∉ (escape s).toList) ∧
      (∀ s, unescape (escape s) = s) ∧
      Function.Injective escape ∧
      ∀ t, escape (unescape t) = t ↔ IsEscaped t.toList := by
  have hread : ∀ s, unescape (escape s) = s := fun s => by
    rw [← String.toList_inj, toList_unescape, toList_escape, unescapeChars_escaped]
  refine ⟨escape_eq_replaced, fun s => ?_, hread, Function.LeftInverse.injective hread, fun t => ?_⟩
  · rw [toList_escape]
    exact (isEscaped_escaped s.toList).lineEnds_notMem
  · rw [← String.toList_inj, toList_escape, toList_unescape, escaped_unescapeChars_iff]

-- an escape that is in a message already is not taken for a line end
example : escape "%0A\n" = "%250A%0A" := by decide

end Annotation

end SignalLint
