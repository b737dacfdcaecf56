import Mathlib.Data.List.Infix
import Mathlib.Tactic.Tauto
import SignalLint.Proofs.Report.Escape

/-!
# What workflow commands tell

A report as workflow commands is one text, and of its fields only the messages are escaped. These
come back whatever they are and bring in no line end (`Annotation.unescapeChars_escaped`,
`Annotation.newline_notMem_escaped`). This module says what can be read back from the text as a
whole, and where reading back fails.

* `Annotation.IsPlaced` — a path that holds something like the place of a diagnostic itself. In front
  of any other path a place is the first one (`Annotation.eq_nil_or_prefix_of_placing_append`).
* `Diagnostic.notice_eq_of_command_append` — the command of a diagnostic that is clear ends where
  the next one begins; `LintReport.notices_eq_of_commands` goes through all of them.

The main statement is `commands_unambiguous`. That the paths need the condition is
`commands_ambiguous`: a path with a line end makes two lines of one command, and a path with a place
in it is taken for a shorter one.
-/

namespace SignalLint

/-- What a workflow command tells of a diagnostic. -/
structure Notice where
  path : String
  line : Nat
  column : Nat
  rule : String
  message : String
  deriving DecidableEq, Repr

/-- What the command of a diagnostic is to tell. -/
def Diagnostic.notice (d : Diagnostic) : Notice where
  path := d.path
  line := d.span.startLine
  column := d.span.startColumn
  rule := d.rule
  message := d.message

/-- The command that tells this. -/
def Notice.command (n : Notice) : String :=
  s!"::warning file={n.path},line={n.line},col={n.column}," ++
    s!"title={n.rule}::{Annotation.escape n.message}"

/-- A command is made from what it tells alone. -/
theorem Diagnostic.command_eq (d : Diagnostic) : d.command = d.notice.command := rfl

namespace Annotation

/-! ### Texts cut at a character -/

section Cuts

variable {α : Type} {a : α} {xs xs' ys ys' : List α}

/-- A cut of a text is the first one, or it is behind the first one. -/
theorem eq_or_exists_of_append_cons_eq (h : xs ++ a :: ys = xs' ++ a :: ys') (hxs : a ∉ xs) :
    (xs' = xs ∧ ys' = ys) ∨ ∃ zs, xs' = xs ++ a :: zs ∧ ys = zs ++ a :: ys' := by
  rcases List.append_eq_append_iff.1 h with ⟨as, rfl, has⟩ | ⟨bs, rfl, hbs⟩
  -- `xs` is the shorter front, since a longer one would hold the other cut
  · cases as with
    | nil => exact Or.inl ⟨List.append_nil xs, (List.cons.inj has).2.symm⟩
    | cons b as =>
      obtain ⟨rfl, rfl⟩ := List.cons.inj has
      exact Or.inr ⟨as, rfl, rfl⟩
  · cases bs with
    | nil => exact Or.inl ⟨(List.append_nil xs').symm, (List.cons.inj hbs).2⟩
    | cons b bs =>
      obtain ⟨rfl, -⟩ := List.cons.inj hbs
      exact absurd (List.mem_append_right xs' List.mem_cons_self) hxs

/-- There is one first cut. -/
theorem eq_of_append_cons_eq (h : xs ++ a :: ys = xs' ++ a :: ys') (hxs : a ∉ xs) (hxs' : a ∉ xs') :
    xs = xs' ∧ ys = ys' := by
  rcases eq_or_exists_of_append_cons_eq h hxs with ⟨rfl, rfl⟩ | ⟨zs, rfl, -⟩
  · exact ⟨rfl, rfl⟩
  · exact absurd (List.mem_append_right xs List.mem_cons_self) hxs'

theorem notMem_of_mem_splitOn [BEq α] [LawfulBEq α] {l : List α} (h : l ∈ xs.splitOn a) :
    a ∉ l := by
  induction xs generalizing l with
  | nil =>
    rw [List.splitOn_nil, List.mem_singleton] at h
    rw [h]
    exact List.not_mem_nil
  | cons x xs ih =>
    rw [List.splitOn_cons_eq_if_modifyHead] at h
    split at h
    · rcases List.mem_cons.1 h with rfl | h
      · exact List.not_mem_nil
      · exact ih h
    · -- the character goes to the front of the first piece, and it is no cut
      rename_i hx
      have hx : a ≠ x := fun heq => hx (by rw [heq]; exact beq_self_eq_true x)
      cases hsplit : xs.splitOn a with
      | nil => exact absurd hsplit (List.splitOn_ne_nil a xs)
      | cons first rest =>
        rw [hsplit] at h ih
        rcases List.mem_cons.1 h with rfl | h
        · exact List.not_mem_cons_of_ne_of_not_mem hx (ih List.mem_cons_self)
        · exact ih (List.mem_cons_of_mem _ h)

/-- **Texts come back** from between the cuts that join them exactly if none has a cut in it. -/
theorem splitOn_intercalate_iff [BEq α] [LawfulBEq α] {ls : List (List α)} (hne : ls ≠ []) :
    ([a].intercalate ls).splitOn a = ls ↔ ∀ l ∈ ls, a ∉ l := by
  constructor
  · intro h l hl
    rw [← h] at hl
    exact notMem_of_mem_splitOn hl
  · intro h
    exact List.splitOn_intercalate a h hne

end Cuts

/-! ### Places -/

/-- What stands between the path and the rule. -/
def placing (line column : Nat) : List Char :=
  ',' :: ("line=".toList ++ Nat.toDigits 10 line ++
    ',' :: ("col=".toList ++ Nat.toDigits 10 column ++ ',' :: "title=".toList))

/-- A text that holds something like a place. -/
def IsPlaced (s : String) : Prop := ∃ line column, placing line column <:+: s.toList

/-- A place begins with a comma. -/
theorem not_isPlaced_of_comma_notMem {s : String} (h : ',' ∉ s.toList) : ¬ IsPlaced s :=
  fun ⟨_, _, hplace⟩ => h (hplace.subset List.mem_cons_self)

theorem comma_notMem_toDigits (n : Nat) : ',' ∉ Nat.toDigits 10 n := by
  intro h
  have hdigit := Nat.isDigit_of_mem_toDigits (by decide) (by decide) h
  exact absurd hdigit (by decide)

theorem comma_notMem_line (n : Nat) : ',' ∉ "line=".toList ++ Nat.toDigits 10 n := by
  rw [List.mem_append]
  exact not_or.2 ⟨by decide, comma_notMem_toDigits n⟩

theorem comma_notMem_column (n : Nat) : ',' ∉ "col=".toList ++ Nat.toDigits 10 n := by
  rw [List.mem_append]
  exact not_or.2 ⟨by decide, comma_notMem_toDigits n⟩

theorem toDigits_injective : Function.Injective (Nat.toDigits 10) := by
  have hread : Function.LeftInverse (Nat.ofDigitChars 10 · 0) (Nat.toDigits 10) :=
    fun _ => Nat.ofDigitChars_ten_toDigits
  exact hread.injective

section Placing

variable {line line' column column' : Nat} {s x x' : List Char}

theorem placing_append (line column : Nat) (x : List Char) : placing line column ++ x =
    ',' :: ("line=".toList ++ Nat.toDigits 10 line ++
      ',' :: ("col=".toList ++ Nat.toDigits 10 column ++ ',' :: ("title=".toList ++ x))) := by
  simp only [placing, List.cons_append, List.append_assoc]

/-- The numbers of a place are read up to the next comma. -/
theorem placing_append_inj (h : placing line column ++ x = placing line' column' ++ x') :
    line = line' ∧ column = column' ∧ x = x' := by
  rw [placing_append, placing_append] at h
  obtain ⟨hline, h⟩ := eq_of_append_cons_eq (List.cons.inj h).2 (comma_notMem_line line)
    (comma_notMem_line line')
  obtain ⟨hcolumn, h⟩ := eq_of_append_cons_eq h (comma_notMem_column column)
    (comma_notMem_column column')
  exact ⟨toDigits_injective (List.append_cancel_left hline),
    toDigits_injective (List.append_cancel_left hcolumn),
    List.append_cancel_left (List.cons.inj h).2⟩

/-- **Two places do not overlap.** Where a place begins, another one can begin only behind it: each
of the other commas in a place has the wrong letter behind it. -/
theorem eq_nil_or_prefix_of_placing_append
    (h : placing line column ++ x = s ++ (placing line' column' ++ x')) :
    s = [] ∨ placing line column <+: s := by
  cases s with
  | nil => exact Or.inl rfl
  | cons c s =>
    rw [placing_append, placing_append, List.cons_append] at h
    obtain ⟨hc, hline⟩ := List.cons.inj h
    rcases eq_or_exists_of_append_cons_eq hline (comma_notMem_line line) with
      ⟨-, hletter⟩ | ⟨s, rfl, hcolumn⟩
    · exact absurd (List.cons.inj hletter).1 (by decide)
    rcases eq_or_exists_of_append_cons_eq hcolumn (comma_notMem_column column) with
      ⟨-, hletter⟩ | ⟨s, rfl, htitle⟩
    · exact absurd (List.cons.inj hletter).1 (by decide)
    -- both commas inside are passed, and the rest of the place has none
    obtain ⟨s, rfl⟩ : ∃ s', s = "title=".toList ++ s' := by
      rcases List.append_eq_append_iff.1 htitle with ⟨as, rfl, -⟩ | ⟨bs, hbs, hbehind⟩
      · exact ⟨as, rfl⟩
      · cases bs with
        | nil => exact ⟨[], by rw [hbs, List.append_nil, List.append_nil]⟩
        | cons b bs =>
          refine absurd ?_ (by decide : ',' ∉ "title=".toList)
          rw [hbs, (List.cons.inj hbehind).1]
          exact List.mem_append_right s List.mem_cons_self
    refine Or.inr ⟨s, ?_⟩
    rw [placing_append, ← hc]

end Placing

/-! ### Titles -/

/-- A rule that ends where its title does: it has no two colons in a row, and none at its end. -/
def IsTitle (rule : String) : Prop := ¬ "::".toList <:+: rule.toList ++ [':']

instance (rule : String) : Decidable (IsTitle rule) := inferInstanceAs (Decidable (¬ _))

/-- The colons behind a title are the first two. -/
theorem eq_nil_of_colons_append {title s x x' : List Char}
    (h : "::".toList ++ x = s ++ ("::".toList ++ x'))
    (htitle : ¬ "::".toList <:+: title ++ s ++ [':']) : s = [] := by
  cases s with
  | nil => rfl
  | cons c s =>
    have hc : ':' = c := (List.cons.inj h).1
    -- what stands in between is a colon or begins with two, and the rule is read with it
    refine absurd ?_ htitle
    cases s with
    | nil => exact ⟨title, [], by rw [← hc]; simp⟩
    | cons c' s =>
      have hc' : ':' = c' := (List.cons.inj (List.cons.inj h).2).1
      exact ⟨title, s ++ [':'], by rw [← hc, ← hc']; simp⟩

/-! ### Line ends -/

/-- What can follow a command: nothing, or a line end. -/
def EndsLine (rest : List Char) : Prop := rest = [] ∨ ∃ behind, rest = '\n' :: behind

/-- A text without line ends is what stands in front of the first one. -/
theorem eq_of_append_endsLine {cs cs' rest rest' : List Char} (h : cs ++ rest = cs' ++ rest')
    (hcs : '\n' ∉ cs) (hcs' : '\n' ∉ cs') (hrest : EndsLine rest) (hrest' : EndsLine rest') :
    cs = cs' ∧ rest = rest' := by
  rcases hrest with rfl | ⟨behind, rfl⟩ <;> rcases hrest' with rfl | ⟨behind', rfl⟩
  · rw [List.append_nil, List.append_nil] at h
    exact ⟨h, rfl⟩
  · rw [List.append_nil] at h
    exact absurd (h ▸ List.mem_append_right cs' List.mem_cons_self) hcs
  · rw [List.append_nil] at h
    exact absurd (h ▸ List.mem_append_right cs List.mem_cons_self) hcs'
  · obtain ⟨hcs, rfl⟩ := eq_of_append_cons_eq h hcs hcs'
    exact ⟨hcs, rfl⟩

end Annotation

/-! ### One command -/

namespace Diagnostic

open Annotation

/-- **What is asked of a diagnostic** for its command to be read: its path holds no place, and its
rule is a title. Nothing is asked of its message. -/
structure IsClear (d : Diagnostic) : Prop where
  path : ¬ IsPlaced d.path
  rule : IsTitle d.rule

/-- The parts of a command, one after the other. -/
theorem toList_command (d : Diagnostic) :
    d.command.toList = "::warning file=".toList ++ (d.path.toList ++
      (placing d.span.startLine d.span.startColumn ++
        (d.rule.toList ++ ("::".toList ++ escaped d.message.toList)))) := by
  have hcommand : d.command = "::warning file=" ++ d.path ++ ",line=" ++ d.span.startLine.repr ++
      ",col=" ++ d.span.startColumn.repr ++ "," ++ ("title=" ++ d.rule ++ "::" ++
        escape d.message) := rfl
  have hline : ",line=".toList = ',' :: "line=".toList := rfl
  have hcolumn : ",col=".toList = ',' :: "col=".toList := rfl
  have htitle : ",".toList = [','] := rfl
  rw [hcommand, placing_append]
  simp only [String.toList_append, toList_escape, Nat.toList_repr, hline, hcolumn, htitle,
    List.append_assoc, List.cons_append, List.nil_append]

theorem newline_mem_command_iff (d : Diagnostic) :
    '\n' ∈ d.command.toList ↔ '\n' ∈ d.path.toList ∨ '\n' ∈ d.rule.toList := by
  have hnumber : ∀ n, '\n' ∉ Nat.toDigits 10 n := fun n h =>
    absurd (Nat.isDigit_of_mem_toDigits (by decide) (by decide) h) (by decide)
  have hplace : '\n' ∉ placing d.span.startLine d.span.startColumn := by
    simp [placing, hnumber]
  have hmessage : '\n' ∉ "::".toList ++ escaped d.message.toList := by
    simp [newline_notMem_escaped]
  have hstart : '\n' ∉ "::warning file=".toList := by decide
  simp only [toList_command, List.mem_append] at *
  tauto

/-- **A command is read back** where its diagnostic is clear, and so is where it ends. -/
theorem notice_eq_of_command_append {d d' : Diagnostic} {rest rest' : List Char}
    (h : d.command.toList ++ rest = d'.command.toList ++ rest') (hd : d.IsClear) (hd' : d'.IsClear)
    (hrest : EndsLine rest) (hrest' : EndsLine rest') :
    d.notice = d'.notice ∧ rest = rest' := by
  simp only [toList_command, List.append_assoc] at h
  have hparts := List.append_cancel_left h
  -- the place behind the path is the first place in the text, so it is behind the other path as well
  have hpath : d.path.toList = d'.path.toList := by
    rcases List.append_eq_append_iff.1 hparts with ⟨s, hs, hplace⟩ | ⟨s, hs, hplace⟩
    · rcases eq_nil_or_prefix_of_placing_append hplace with rfl | hprefix
      · rw [hs, List.append_nil]
      · exact absurd ⟨_, _, hs ▸ hprefix.isInfix.trans (List.suffix_append _ s).isInfix⟩ hd'.path
    · rcases eq_nil_or_prefix_of_placing_append hplace with rfl | hprefix
      · rw [hs, List.append_nil]
      · exact absurd ⟨_, _, hs ▸ hprefix.isInfix.trans (List.suffix_append _ s).isInfix⟩ hd.path
  rw [hpath] at hparts
  obtain ⟨hline, hcolumn, htitles⟩ := placing_append_inj (List.append_cancel_left hparts)
  -- the rule goes up to the first two colons, as the path did up to the first place
  have hrule : d.rule.toList = d'.rule.toList := by
    rcases List.append_eq_append_iff.1 htitles with ⟨s, hs, hcolons⟩ | ⟨s, hs, hcolons⟩
    · have htitle := hd'.rule
      rw [IsTitle, hs] at htitle
      rw [hs, eq_nil_of_colons_append hcolons htitle, List.append_nil]
    · have htitle := hd.rule
      rw [IsTitle, hs] at htitle
      rw [hs, eq_nil_of_colons_append hcolons htitle, List.append_nil]
  rw [hrule] at htitles
  obtain ⟨hmessage, hbehind⟩ := eq_of_append_endsLine
    (List.append_cancel_left (List.append_cancel_left htitles)) (newline_notMem_escaped _)
    (newline_notMem_escaped _) hrest hrest'
  refine ⟨?_, hbehind⟩
  rw [notice, notice, String.toList_inj.1 hpath, hline, hcolumn, String.toList_inj.1 hrule,
    String.toList_inj.1 (escaped_injective hmessage)]

/-- **A path with a place in it is misread**: there is a diagnostic with a shorter path and the same
command. -/
theorem exists_command_eq_of_isPlaced {d : Diagnostic} (h : IsPlaced d.path) :
    ∃ d' : Diagnostic, d'.command = d.command ∧ d'.notice ≠ d.notice := by
  obtain ⟨line, column, before, behind, hpath⟩ := h
  -- its path ends where the place begins, and all that is behind the place is its rule
  refine ⟨{ d with
    path := String.ofList before
    span := { d.span with startLine := line, startColumn := column }
    rule := String.ofList (behind ++ (placing d.span.startLine d.span.startColumn ++ d.rule.toList)) },
    ?_, ?_⟩
  · rw [← String.toList_inj, toList_command, toList_command, ← hpath]
    simp only [String.toList_ofList, List.append_assoc]
  · intro heq
    have hbefore : before = d.path.toList := by
      rw [← (Notice.mk.inj heq).1, String.toList_ofList]
    -- but then the path is longer than itself
    have hlength := congrArg List.length (hbefore ▸ hpath)
    simp [placing] at hlength

end Diagnostic

/-! ### All commands -/

namespace LintReport

open Annotation

/-- The commands of diagnostics behind that of another one. -/
def commandsBehind (ds : List Diagnostic) : List Char :=
  ds.flatMap fun d => '\n' :: d.command.toList

theorem endsLine_commandsBehind (ds : List Diagnostic) : EndsLine (commandsBehind ds) := by
  cases ds with
  | nil => exact Or.inl rfl
  | cons d ds => exact Or.inr ⟨_, rfl⟩

theorem toList_commands (r : LintReport) :
    r.commands.toList = ['\n'].intercalate (r.diagnostics.map (·.command.toList)) := by
  rw [commands, String.toList_intercalate, List.map_map]
  rfl

theorem intercalate_commands_cons (d : Diagnostic) (ds : List Diagnostic) :
    ['\n'].intercalate ((d :: ds).map (·.command.toList)) =
      d.command.toList ++ commandsBehind ds := by
  induction ds generalizing d with
  | nil => simp [commandsBehind]
  | cons d' ds ih =>
    have hrest := ih d'
    rw [List.map_cons] at hrest
    rw [List.map_cons, List.map_cons, List.intercalate_cons_cons, hrest, List.append_assoc]
    rfl

theorem notices_eq_of_commandsBehind {ds ds' : List Diagnostic}
    (h : commandsBehind ds = commandsBehind ds') (hds : ∀ d ∈ ds, d.IsClear)
    (hds' : ∀ d ∈ ds', d.IsClear) : ds.map (·.notice) = ds'.map (·.notice) := by
  induction ds generalizing ds' with
  | nil =>
    cases ds' with
    | nil => rfl
    | cons d' ds' => cases h
  | cons d ds ih =>
    cases ds' with
    | nil => cases h
    | cons d' ds' =>
      -- the first commands end at the same line end, so what is behind them is the same as well
      obtain ⟨hd, hds⟩ := List.forall_mem_cons.1 hds
      obtain ⟨hd', hds'⟩ := List.forall_mem_cons.1 hds'
      obtain ⟨hnotice, hbehind⟩ := Diagnostic.notice_eq_of_command_append
        (List.cons.inj h).2 hd hd' (endsLine_commandsBehind ds) (endsLine_commandsBehind ds')
      rw [List.map_cons, List.map_cons, hnotice, ih hbehind hds hds']

/-- **The commands of clear diagnostics are read back**, one after the other. -/
theorem notices_eq_of_commands {r r' : LintReport} (h : r.commands = r'.commands)
    (hr : ∀ d ∈ r.diagnostics, d.IsClear) (hr' : ∀ d ∈ r'.diagnostics, d.IsClear) :
    r.diagnostics.map (·.notice) = r'.diagnostics.map (·.notice) := by
  rw [← String.toList_inj, toList_commands, toList_commands] at h
  generalize r.diagnostics = ds at *
  generalize r'.diagnostics = ds' at *
  -- only a report without diagnostics is an empty text
  have hne : ∀ (d : Diagnostic) (ds : List Diagnostic),
      ['\n'].intercalate ((d :: ds).map (·.command.toList)) ≠ [] := by
    intro d ds hnil
    rw [intercalate_commands_cons, Diagnostic.toList_command] at hnil
    cases hnil
  cases ds with
  | nil =>
    cases ds' with
    | nil => rfl
    | cons d' ds' => exact absurd h.symm (hne d' ds')
  | cons d ds =>
    cases ds' with
    | nil => exact absurd h (hne d ds)
    | cons d' ds' =>
      rw [intercalate_commands_cons, intercalate_commands_cons] at h
      obtain ⟨hd, hds⟩ := List.forall_mem_cons.1 hr
      obtain ⟨hd', hds'⟩ := List.forall_mem_cons.1 hr'
      obtain ⟨hnotice, hbehind⟩ := Diagnostic.notice_eq_of_command_append h hd hd'
        (endsLine_commandsBehind ds) (endsLine_commandsBehind ds')
      rw [List.map_cons, List.map_cons, hnotice,
        notices_eq_of_commandsBehind hbehind hds hds']

/-- The commands tell no more than the notices. -/
theorem commands_congr {r r' : LintReport}
    (h : r.diagnostics.map (·.notice) = r'.diagnostics.map (·.notice)) :
    r.commands = r'.commands := by
  -- a command is made from its notice, so the commands are a map of the notices
  have hcommands (ds : List Diagnostic) :
      ds.map Diagnostic.command = (ds.map (·.notice)).map Notice.command := by
    rw [List.map_map]
    exact List.map_congr_left fun d _ => d.command_eq
  rw [commands, commands, hcommands, hcommands, h]

/-- The lines of a report are its commands exactly if no command has a line end in it. -/
theorem splitOn_commands_iff {r : LintReport} (hne : r.diagnostics ≠ []) :
    r.commands.toList.splitOn '\n' = r.diagnostics.map (·.command.toList) ↔
      ∀ d ∈ r.diagnostics, '\n' ∉ d.path.toList ∧ '\n' ∉ d.rule.toList := by
  rw [toList_commands, splitOn_intercalate_iff (mt List.map_eq_nil_iff.1 hne), List.forall_mem_map]
  refine forall₂_congr fun d _ => ?_
  rw [Diagnostic.newline_mem_command_iff, not_or]

end LintReport

/-- **What can be read back from workflow commands.** The lines of a report with diagnostics are its
commands, one for each diagnostic and in their order, exactly if no path and no rule has a line end
in it. If no path holds a place and all rules are titles, two reports have the same text exactly if
they tell the same paths, lines, columns, rules and messages in the same order, whatever the messages
are. A path that does hold a place always has another reading. -/
theorem commands_unambiguous (r r' : LintReport) :
    (r.diagnostics ≠ [] →
      (r.commands.toList.splitOn '\n' = r.diagnostics.map (·.command.toList) ↔
        ∀ d ∈ r.diagnostics, '\n' ∉ d.path.toList ∧ '\n' ∉ d.rule.toList)) ∧
    ((∀ d ∈ r.diagnostics ++ r'.diagnostics, d.IsClear) →
      (r.commands = r'.commands ↔ r.diagnostics.map (·.notice) = r'.diagnostics.map (·.notice))) ∧
    ∀ d ∈ r.diagnostics, Annotation.IsPlaced d.path →
      ∃ d' : Diagnostic, d'.command = d.command ∧ d'.notice ≠ d.notice := by
  refine ⟨LintReport.splitOn_commands_iff, fun hclear => ?_,
    fun d _ hplaced => Diagnostic.exists_command_eq_of_isPlaced hplaced⟩
  obtain ⟨hr, hr'⟩ := List.forall_mem_append.1 hclear
  exact ⟨fun h => LintReport.notices_eq_of_commands h hr hr', LintReport.commands_congr⟩

/-- A report on one file with one diagnostic, for what follows. -/
def singleReport (path : String) (line column : Nat) (message : String) : LintReport where
  files := [{
    path := path
    diagnostics := [{
      rule := ruleName, messageId := "preferReadonly", message := message, path := path
      span := { startLine := line, startColumn := column } }] }]

/-- A message with a line end and one with its escape are told apart, each on one line. -/
theorem commands_unambiguous_escapedMessage :
    let r := singleReport "src/a b.ts" 3 7 "50%\nmore"
    let r' := singleReport "src/a b.ts" 3 7 "50%25%0Amore"
    let d := singleReport "a.ts,line=1,col=1,title=x::m" 2 2 "n"
    r.diagnostics ≠ [] ∧ (∀ d ∈ r.diagnostics ++ r'.diagnostics, d.IsClear) ∧
      (r.commands.toList.splitOn '\n').length = 1 ∧ r.commands ≠ r'.commands ∧
      ∀ d₀ ∈ d.diagnostics, ∃ d' : Diagnostic,
        d'.command = d₀.command ∧ d'.notice ≠ d₀.notice := by
  intro r r' d
  have hclear : ∀ d ∈ r.diagnostics ++ r'.diagnostics, d.IsClear := by
    have hpath : ¬ Annotation.IsPlaced "src/a b.ts" :=
      Annotation.not_isPlaced_of_comma_notMem (by decide)
    have hrule : Annotation.IsTitle ruleName := by decide
    intro d hd
    rcases List.mem_cons.1 hd with rfl | hd
    · exact ⟨hpath, hrule⟩
    · rw [List.mem_singleton.1 hd]
      exact ⟨hpath, hrule⟩
  have hne : r.diagnostics ≠ [] := List.cons_ne_nil _ _
  obtain ⟨hlines, hread, -⟩ := commands_unambiguous r r'
  refine ⟨hne, hclear, ?_, ?_, ?_⟩
  · rw [(hlines hne).2 (by decide)]
    rfl
  · rw [Ne, hread hclear]
    decide
  · intro d₀ hd₀
    refine (commands_unambiguous d r).2.2 d₀ hd₀ ?_
    rw [List.mem_singleton.1 hd₀]
    exact ⟨1, 1, "a.ts".toList, "x::m".toList, by decide⟩

/-- One diagnostic makes two lines, and two reports that tell different things have the same text. -/
theorem commands_ambiguous :
    let broken := singleReport "a\nb.ts" 1 1 "m"
    let short := singleReport "a.ts" 1 1 "m,line=2,col=2,title=prefer-signals::n"
    let long := singleReport "a.ts,line=1,col=1,title=prefer-signals::m" 2 2 "n"
    (broken.diagnostics.length = 1 ∧ (broken.commands.toList.splitOn '\n').length = 2) ∧
      short.commands = long.commands ∧
      short.diagnostics.map (·.notice) ≠ long.diagnostics.map (·.notice) := by
  refine ⟨⟨rfl, ?_⟩, ?_, by decide⟩
  · decide
  · decide

end SignalLint
