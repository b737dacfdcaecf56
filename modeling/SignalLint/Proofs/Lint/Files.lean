import Mathlib.Data.List.Basic
import SignalLint.Lint.Run
import SignalLint.Proofs.Files.Write
import SignalLint.Proofs.Lint.Discovery
import SignalLint.Proofs.Lint.Fix
import SignalLint.Proofs.Lint.Selection
import SignalLint.Proofs.Rule.Demand
import SignalLint.Proofs.Text.Utf8

/-!
# Linting files one by one

A run over files reads, lints and perhaps rewrites one file after the other, in a store that changes
under it. This module says that the files do not notice each other. The main statement,
`lintPaths_independent`, gives the result of a run and the content of every file after it in terms
of the store before it only: each file that can be read as a text has the report that its own
original bytes give, a file that cannot be read or is no text is left out and left alone, and a run
that ends early has left alone the file at which it ended and all behind it.

* `Linter.stopAt?`, `Linter.ownReport?`, `Linter.ownContent` — what a file is worth on its own: the
  failure at which a run would end, its report, and its content afterwards.
* `Linter.family_of_lintSource` — linting a text never fails to access a file, so what is skipped are
  exactly the files that cannot be read.
* `Store.SameFile` — a path leads to the same bytes in two stores, also if they cannot be read.
* `Linter.Finished` — the invariant of a run: the files so far have their final content and every
  other path leads to what it led to at the start. `Finished.lintFile` is one file,
  `Finished.lintFiles` a list of them.
-/

namespace SignalLint

/-- What a report says of a source, whatever was written back. -/
def FileReport.findings (r : FileReport) : String × List Diagnostic := (r.path, r.diagnostics)

/-- Two paths lead to the same place. -/
def Store.SamePlace (s : Store) (p q : FilePath) : Prop :=
  ∃ place, s.resolve p = .ok place ∧ s.resolve q = .ok place

theorem Store.not_samePlace_of_resolve {s : Store} {p q : FilePath} {place place' : List String}
    (hp : s.resolve p = .ok place) (hq : s.resolve q = .ok place') (h : place ≠ place') :
    ¬ s.SamePlace p q := by
  rintro ⟨found, hp', hq'⟩
  exact h ((Except.ok.inj (hp.symm.trans hp')).trans (Except.ok.inj (hq'.symm.trans hq)))

/-- Nothing keeps the file that a path leads to from being changed. -/
def Store.IsUnsealed (s : Store) (p : FilePath) : Prop :=
  ∀ place, s.resolve p = .ok place → s.seal? place = none

/-- A path leads to a file with the same bytes in two stores, and can be read in both or in neither. -/
structure Store.SameFile (s s' : Store) (p : FilePath) : Prop where
  read : s'.read p = s.read p
  content : s'.content? p = s.content? p

namespace Store.SameFile

variable {s s' s'' : Store} {p q : FilePath} {old new : Bytes}

theorem refl (s : Store) (p : FilePath) : SameFile s s p := ⟨rfl, rfl⟩

theorem trans (h : SameFile s s' p) (h' : SameFile s' s'' p) : SameFile s s'' p :=
  ⟨h'.read.trans h.read, h'.content.trans h.content⟩

/-- A file that is written over is not seen at other places. -/
theorem of_write (h : s.read p = .ok old) (hw : s.write p new = .ok s')
    (hne : s.resolve q ≠ s.resolve p) : SameFile s s' q where
  read := by rw [read_write h hw, if_neg hne]
  content := by rw [content?_write h hw, if_neg hne]

end Store.SameFile

namespace Linter

/-! ### A file on its own -/

/-- What comes of bytes: nothing if they are no text, otherwise what linting the text gives. -/
def verdictOn? (l : Linter) (path : FilePath) (bytes : Bytes) :
    Option (Except Failure (List Diagnostic)) :=
  match Utf8.decode bytes with
  | .error _ => none
  | .ok text => some (l.lintSource text path.text).1

/-- The failure with which a run ends at a file, if it does. -/
def stopAt? (l : Linter) (store : Store) (path : FilePath) : Option Failure :=
  match store.read path with
  | .error _ => none
  | .ok bytes =>
    match l.verdictOn? path bytes with
    | some (.error e) => some e
    | _ => none

/-- The report of a file that can be read as a text and linted. -/
def ownReport? (l : Linter) (apply : Bool) (store : Store) (path : FilePath) : Option FileReport :=
  match store.read path with
  | .error _ => none
  | .ok bytes =>
    match l.verdictOn? path bytes with
    | some (.ok ds) => some ⟨path.text, ds, if apply then (applySuggestions bytes ds).2 else 0⟩
    | _ => none

/-- The content of a file once a run has been through with it. -/
def ownContent (l : Linter) (apply : Bool) (path : FilePath) (bytes : Bytes) : Bytes :=
  match l.verdictOn? path bytes with
  | some (.ok ds) => if apply then (applySuggestions bytes ds).1 else bytes
  | _ => bytes

section OneFile

variable {l : Linter} {path : FilePath} {s : Store} (apply : Bool)

/-- A source is refused for its language or by its grammar. -/
theorem family_of_parseSource {parser : Option Parser} {content name : String}
    {language : Option String} {e : Failure}
    (h : (parseSource parser content name language).1 = .error e) :
    ∃ err, e = .error err ∧ (err.family = .parsing ∨ err.family = .unsupportedLanguage) := by
  unfold parseSource at h
  dsimp only at h
  -- only the language is looked at before there is a parser to blame
  split at h
  · cases h
    exact ⟨_, rfl, Or.inr rfl⟩
  · split at h
    · cases h
      exact ⟨_, rfl, Or.inl rfl⟩
    · split at h
      · cases h
        exact ⟨_, rfl, Or.inl rfl⟩
      · split at h
        · cases h
          exact ⟨_, rfl, Or.inl rfl⟩
        · cases h

/-- A text is refused for what it is, or for want of types; not for its file. -/
theorem family_of_lintSource {content name : String} {language : Option String} {e : Failure}
    (h : (l.lintSource content name language).1 = .error e) :
    ∃ err, e = .error err ∧ (err.family = .parsing ∨ err.family = .unsupportedLanguage ∨
      err.family = .noTypeInformation) := by
  unfold lintSource Logged.andThen at h
  cases hparse : parseSource l.parser content name language with
  | mk result log =>
    rw [hparse] at h
    cases result with
    | error e' =>
      obtain rfl := Except.error.inj h
      obtain ⟨err, heq, hfamily⟩ := family_of_parseSource (congrArg Prod.fst hparse)
      exact ⟨err, heq, hfamily.imp id Or.inl⟩
    | ok unit =>
      dsimp only at h
      cases hrun : runRule l.options unit l.types with
      | mk result state =>
        rw [hrun] at h
        cases result with
        | error e' =>
          -- the rule itself fails for want of types only
          obtain rfl := Except.error.inj h
          obtain ⟨rfl, -⟩ := diagnostics_of_error (congrArg Prod.fst hrun)
          exact ⟨_, rfl, Or.inr (Or.inr rfl)⟩
        | ok _ => cases h

theorem lintFile_of_verdictOn?_eq_none {bytes : Bytes} (hread : s.read path = .ok bytes)
    (hverdict : l.verdictOn? path bytes = none) :
    ∃ reason, l.lintFile apply path s = ⟨.error (.error (.fileAccess path.text reason)), s, []⟩ := by
  unfold verdictOn? at hverdict
  split at hverdict
  · rename_i e hdecode
    refine ⟨e.message, ?_⟩
    simp only [lintFile, readSource, hread, hdecode, Except.mapError]
  · cases hverdict

theorem lintFile_of_read_eq_error {e : FileProblem} (hread : s.read path = .error e) :
    l.lintFile apply path s =
      ⟨.error (.error (.fileAccess path.text (e.message path))), s, []⟩ := by
  simp only [lintFile, readSource, hread]

/-- A file whose text is refused is left alone. -/
theorem lintFile_of_verdictOn?_eq_error {bytes : Bytes} {e : Failure}
    (hread : s.read path = .ok bytes) (hverdict : l.verdictOn? path bytes = some (.error e)) :
    (l.lintFile apply path s).result = .error e ∧ (l.lintFile apply path s).store = s := by
  unfold verdictOn? at hverdict
  split at hverdict
  · cases hverdict
  · rename_i text hdecode
    have hlint := Option.some.inj hverdict
    simp only [lintFile, readSource, hread, hdecode, Except.mapError, Outcome.andThen, hlint,
      and_self]

/-- A file that is linted is reported, and written if edits are asked for and there are any. If it
cannot be written, that is told instead. -/
theorem lintFile_of_verdictOn?_eq_ok {bytes : Bytes} {ds : List Diagnostic}
    (hread : s.read path = .ok bytes) (hverdict : l.verdictOn? path bytes = some (.ok ds)) :
    (l.lintFile apply path s).result =
          .ok ⟨path.text, ds, if apply then (applySuggestions bytes ds).2 else 0⟩ ∧
        (s.write path (l.ownContent apply path bytes) = .ok (l.lintFile apply path s).store ∨
          l.ownContent apply path bytes = bytes ∧ (l.lintFile apply path s).store = s) ∨
      (apply = true ∧ ¬ s.IsUnsealed path) ∧ (l.lintFile apply path s).store = s ∧
        ∃ e, (l.lintFile apply path s).result = .error (.error e) ∧ e.family = .fileAccess := by
  have hcontent : l.ownContent apply path bytes =
      if apply then (applySuggestions bytes ds).1 else bytes := by
    rw [ownContent, hverdict]
  unfold verdictOn? at hverdict
  split at hverdict
  · cases hverdict
  · rename_i text hdecode
    have hlint := Option.some.inj hverdict
    have hencode := Utf8.encode_of_decode hdecode
    rw [hcontent]
    cases apply with
    | false =>
      refine Or.inl ?_
      simp [lintFile, readSource, hread, hdecode, Except.mapError, Outcome.andThen, hlint]
    | true =>
      -- a file is written if there are edits, not if its content would change
      by_cases hcount : (applySuggestions bytes ds).2 = 0
      · -- without any edit the source comes back as it is
        have hnil : firstEdits ds = [] := List.eq_nil_of_length_eq_zero hcount
        have hsame : (applySuggestions bytes ds).1 = bytes := by
          simp [applySuggestions, hnil]
        refine Or.inl ?_
        simp [lintFile, readSource, hread, hdecode, Except.mapError, Outcome.andThen, hlint,
          writeBack, hencode, hcount, hsame]
      · obtain ⟨place, hplace, -, ⟨s', hwrite, -⟩ | ⟨r, hseal, hwrite⟩⟩ :=
          Store.write_of_read hread (applySuggestions bytes ds).1
        · refine Or.inl ?_
          simp [lintFile, readSource, hread, hdecode, Except.mapError, Outcome.andThen, hlint,
            writeBack, hencode, hcount, hwrite]
        · -- the only way in which a file that was read is not written
          have hsealed : ¬ s.IsUnsealed path := by
            intro h
            cases (h place hplace).symm.trans hseal
          refine Or.inr ⟨⟨rfl, hsealed⟩, ?_⟩
          simp [lintFile, readSource, hread, hdecode, Except.mapError, Outcome.andThen, hlint,
            writeBack, hencode, hcount, hwrite, LintError.family]

end OneFile

/-! ### The invariant of a run -/

/-- **Files that are finished.** Paths lead where they led at the start, and nothing else is sealed.
The files that were gone through have the content that their own bytes give, as far as they can be
read; all others, and whatever else a path leads to, are as they were. -/
structure Finished (l : Linter) (apply : Bool) (store : Store) (done : List FilePath) (s : Store) :
    Prop where
  resolve : ∀ q, s.resolve q = store.resolve q
  sealed : s.sealed = store.sealed
  read : ∀ p ∈ done, ∀ bytes, store.read p = .ok bytes →
    s.read p = .ok (l.ownContent apply p bytes)
  unread : ∀ p ∈ done, ∀ e, store.read p = .error e → store.SameFile s p
  frame : ∀ q, (∀ p ∈ done, ¬ store.SamePlace p q) → store.SameFile s q

namespace Finished

variable {l : Linter} {apply : Bool} {store s : Store} {done files : List FilePath}
  {path : FilePath}

theorem start (l : Linter) (apply : Bool) (store : Store) : Finished l apply store [] store where
  resolve _ := rfl
  sealed := rfl
  read _ hp := absurd hp List.not_mem_nil
  unread _ hp := absurd hp List.not_mem_nil
  frame q _ := .refl store q

/-- A file can be written if it could be at the start. -/
theorem isUnsealed (h : Finished l apply store done s) (hpath : store.IsUnsealed path) :
    s.IsUnsealed path := by
  intro place hplace
  rw [Store.seal?, h.sealed]
  exact hpath place ((h.resolve path).symm.trans hplace)

/-- A file that keeps its content is finished as it is. -/
theorem concat_of_eq (h : Finished l apply store done s)
    (hpath : ∀ p ∈ done, ¬ store.SamePlace p path)
    (hcontent : ∀ bytes, store.read path = .ok bytes → l.ownContent apply path bytes = bytes) :
    Finished l apply store (done ++ [path]) s where
  resolve := h.resolve
  sealed := h.sealed
  read p hp bytes hbytes := by
    rcases List.mem_append.1 hp with hp | hp
    · exact h.read p hp bytes hbytes
    · obtain rfl := List.mem_singleton.1 hp
      rw [hcontent bytes hbytes, (h.frame p hpath).read, hbytes]
  unread p hp e he := by
    rcases List.mem_append.1 hp with hp | hp
    · exact h.unread p hp e he
    · obtain rfl := List.mem_singleton.1 hp
      exact h.frame p hpath
  frame q hq := h.frame q fun p hp => hq p (List.mem_append_left _ hp)

/-- A file is finished by writing its content, since the write is seen at no other place. -/
theorem concat_of_write {s' : Store} {bytes : Bytes} (h : Finished l apply store done s)
    (hpath : ∀ p ∈ done, ¬ store.SamePlace p path) (hread : store.read path = .ok bytes)
    (hwrite : s.write path (l.ownContent apply path bytes) = .ok s') :
    Finished l apply store (done ++ [path]) s' := by
  have hread' : s.read path = .ok bytes := (h.frame path hpath).read.trans hread
  obtain ⟨place, hplace, -⟩ := Store.read_eq_ok_iff.1 hread
  obtain ⟨_, -, hover⟩ := Store.overwritten_of_write hread' hwrite
  -- only a path to the same place would see the write
  have hother : ∀ q, ¬ store.SamePlace path q → s.SameFile s' q := by
    intro q hq
    refine .of_write hread' hwrite fun heq => hq ⟨place, hplace, ?_⟩
    rw [← h.resolve, heq, h.resolve, hplace]
  have hdone : ∀ p ∈ done, s.SameFile s' p := fun p hp =>
    hother p fun ⟨place, hpl, hpl'⟩ => hpath p hp ⟨place, hpl', hpl⟩
  -- what was gone through before is elsewhere, so the new file is the only one to change
  refine ⟨fun q => (hover.resolve q).trans (h.resolve q), hover.sealed.trans h.sealed, ?_, ?_, ?_⟩
  · intro p hp bytes' hbytes'
    rcases List.mem_append.1 hp with hp | hp
    · rw [(hdone p hp).read, h.read p hp bytes' hbytes']
    · obtain rfl := List.mem_singleton.1 hp
      obtain rfl := Except.ok.inj (hread.symm.trans hbytes')
      rw [Store.read_write hread' hwrite, if_pos rfl]
  · intro p hp e he
    rcases List.mem_append.1 hp with hp | hp
    · exact (h.unread p hp e he).trans (hdone p hp)
    · obtain rfl := List.mem_singleton.1 hp
      cases hread.symm.trans he
  · intro q hq
    have hpathq := hq path (List.mem_append_right _ List.mem_cons_self)
    exact (h.frame q fun p hp => hq p (List.mem_append_left _ hp)).trans (hother q hpathq)

/-- **One file.** A file at which the run does not end is finished, and reported exactly if it can
be read as a text. -/
theorem lintFile (h : Finished l apply store done s) (hpath : ∀ p ∈ done, ¬ store.SamePlace p path)
    (hwrites : apply = true → store.IsUnsealed path) (hstop : l.stopAt? store path = none) :
    Finished l apply store (done ++ [path]) (l.lintFile apply path s).store ∧
      match l.ownReport? apply store path with
      | some report => (l.lintFile apply path s).result = .ok report
      | none => ∃ e, (l.lintFile apply path s).result = .error (.error e) ∧
          e.family = .fileAccess := by
  -- no file before it is at the same place, so the file still has its original bytes
  have hframe : s.read path = store.read path := (h.frame path hpath).read
  unfold stopAt? at hstop
  unfold ownReport?
  cases hread : store.read path with
  | error e =>
    rw [lintFile_of_read_eq_error apply (hframe.trans hread)]
    refine ⟨h.concat_of_eq hpath fun bytes hbytes => ?_, _, rfl, rfl⟩
    cases hread.symm.trans hbytes
  | ok bytes =>
    rw [hread] at hframe hstop
    dsimp only at hstop ⊢
    -- a file that keeps these bytes is finished as it is
    have hkept (hcontent : l.ownContent apply path bytes = bytes) :
        Finished l apply store (done ++ [path]) s := by
      refine h.concat_of_eq hpath fun bytes' hbytes' => ?_
      obtain rfl := Except.ok.inj (hread.symm.trans hbytes')
      exact hcontent
    cases hverdict : l.verdictOn? path bytes with
    | none =>
      obtain ⟨reason, heq⟩ := lintFile_of_verdictOn?_eq_none apply hframe hverdict
      rw [heq]
      exact ⟨hkept (by rw [ownContent, hverdict]), _, rfl, rfl⟩
    | some verdict =>
      cases verdict with
      | error e =>
        rw [hverdict] at hstop
        cases hstop
      | ok ds =>
        rcases lintFile_of_verdictOn?_eq_ok apply hframe hverdict with
          ⟨hresult, hwrite | ⟨hcontent, hstore⟩⟩ | ⟨⟨happly, hsealed⟩, -⟩
        · exact ⟨h.concat_of_write hpath hread hwrite, hresult⟩
        · rw [hstore]
          exact ⟨hkept hcontent, hresult⟩
        · -- nothing that was done so far has sealed the file
          exact absurd (h.isUnsealed (hwrites happly)) hsealed

end Finished

/-! ### Runs over lists of files -/

section Cons

variable {l : Linter} {apply : Bool} {path : FilePath} {s : Store} (rest : List FilePath)

theorem lintFiles_cons_of_ok {report : FileReport}
    (h : (l.lintFile apply path s).result = .ok report) :
    let next := l.lintFiles apply rest (l.lintFile apply path s).store
    (l.lintFiles apply (path :: rest) s).result = next.result.map (report :: ·) ∧
      (l.lintFiles apply (path :: rest) s).store = next.store := by
  intro next
  simp only [lintFiles, h]
  rw [Outcome.result_andThen, Outcome.store_andThen_of_ok h, h]
  refine ⟨Outcome.result_andThen next _, ?_⟩
  cases hnext : next.result with
  | error e => exact Outcome.store_andThen_of_error hnext _
  | ok reports => exact Outcome.store_andThen_of_ok hnext _

theorem lintFiles_cons_of_fileAccess {e : LintError}
    (h : (l.lintFile apply path s).result = .error (.error e)) (hfamily : e.family = .fileAccess) :
    let next := l.lintFiles apply rest (l.lintFile apply path s).store
    (l.lintFiles apply (path :: rest) s).result = next.result ∧
      (l.lintFiles apply (path :: rest) s).store = next.store := by
  simp only [lintFiles, h, if_pos hfamily, and_self]

theorem lintFiles_cons_of_error {e : LintError}
    (h : (l.lintFile apply path s).result = .error (.error e)) (hfamily : e.family ≠ .fileAccess) :
    (l.lintFiles apply (path :: rest) s).result = .error (.error e) ∧
      (l.lintFiles apply (path :: rest) s).store = (l.lintFile apply path s).store := by
  simp only [lintFiles, h, if_neg hfamily, and_self]

end Cons

/-- Whether a run goes past a file. -/
def goesPast (l : Linter) (store : Store) (path : FilePath) : Bool :=
  (l.stopAt? store path).isNone

/-- A text is refused with an error that is told, and that is not about the file. -/
theorem exists_of_verdictOn?_eq_error {l : Linter} {path : FilePath} {bytes : Bytes} {e : Failure}
    (h : l.verdictOn? path bytes = some (.error e)) :
    ∃ err, e = .error err ∧ (err.family = .parsing ∨ err.family = .unsupportedLanguage ∨
      err.family = .noTypeInformation) := by
  unfold verdictOn? at h
  split at h
  · cases h
  · exact family_of_lintSource (Option.some.inj h)

/-- A run ends at a file that can be read as a text, with the error for which that is refused. -/
theorem exists_of_stopAt?_eq_some {l : Linter} {store : Store} {path : FilePath} {e : Failure}
    (h : l.stopAt? store path = some e) :
    ∃ bytes err, store.read path = .ok bytes ∧ l.verdictOn? path bytes = some (.error (.error err)) ∧
      e = .error err ∧ (err.family = .parsing ∨ err.family = .unsupportedLanguage ∨
        err.family = .noTypeInformation) := by
  unfold stopAt? at h
  split at h
  · cases h
  · rename_i bytes hread
    split at h
    · rename_i e' hverdict
      obtain rfl := Option.some.inj h
      obtain ⟨err, rfl, hfamily⟩ := exists_of_verdictOn?_eq_error hverdict
      exact ⟨bytes, err, hread, hverdict, rfl, hfamily⟩
    · cases h

/-- **A list of files.** A run goes through the files up to the first at which it ends. -/
theorem Finished.lintFiles {l : Linter} {apply : Bool} {store s : Store}
    {done files : List FilePath} (h : Finished l apply store done s)
    (hdistinct : (done ++ files).Pairwise fun p q => ¬ store.SamePlace p q)
    (hwrites : apply = true → ∀ p ∈ files, store.IsUnsealed p) :
    (l.lintFiles apply files s).result =
        (match files.findSome? (l.stopAt? store) with
          | none => .ok (files.filterMap (l.ownReport? apply store))
          | some e => .error e) ∧
      Finished l apply store (done ++ files.takeWhile (l.goesPast store))
        (l.lintFiles apply files s).store := by
  -- the list behind `done` gets shorter, and the invariant is carried along with the store
  induction files generalizing done s with
  | nil => exact ⟨rfl, by rw [List.takeWhile_nil, List.append_nil]; exact h⟩
  | cons path rest ih =>
    have hpath : ∀ p ∈ done, ¬ store.SamePlace p path := fun p hp =>
      (List.pairwise_append.1 hdistinct).2.2 p hp path List.mem_cons_self
    rw [List.findSome?_cons, List.takeWhile_cons, goesPast]
    cases hstop : l.stopAt? store path with
    | some e =>
      -- the run ends here, in the store in which it came here
      obtain ⟨bytes, err, hread, hverdict, rfl, hfamily⟩ := exists_of_stopAt?_eq_some hstop
      obtain ⟨hresult, hstore⟩ := lintFile_of_verdictOn?_eq_error apply
        ((h.frame path hpath).read.trans hread) hverdict
      have hother : err.family ≠ .fileAccess := by
        rcases hfamily with hf | hf | hf <;> rw [hf] <;> decide
      obtain ⟨hres, hend⟩ := lintFiles_cons_of_error rest hresult hother
      rw [hres, hend, hstore]
      exact ⟨rfl, by rw [Option.isNone_some, if_neg Bool.false_ne_true, List.append_nil]; exact h⟩
    | none =>
      -- the file is finished, reported or not, and the rest starts in the store behind it
      obtain ⟨hdone, hreport⟩ :=
        h.lintFile hpath (fun happly => hwrites happly path List.mem_cons_self) hstop
      obtain ⟨hrest, hend⟩ := ih hdone (List.append_cons done path rest ▸ hdistinct)
        fun happly p hp => hwrites happly p (List.mem_cons_of_mem _ hp)
      rw [Option.isNone_none, if_pos rfl, List.append_cons]
      cases hown : l.ownReport? apply store path with
      | some report =>
        rw [hown] at hreport
        obtain ⟨hresult, hstore⟩ := lintFiles_cons_of_ok rest hreport
        rw [hresult, hstore, hrest, List.filterMap_cons_some hown]
        refine ⟨?_, hend⟩
        cases rest.findSome? (l.stopAt? store) <;> rfl
      | none =>
        -- what cannot be read is passed over
        rw [hown] at hreport
        obtain ⟨e, herror, hfamily⟩ := hreport
        obtain ⟨hresult, hstore⟩ := lintFiles_cons_of_fileAccess rest herror hfamily
        rw [hresult, hstore, hrest, List.filterMap_cons_none hown]
        exact ⟨rfl, hend⟩

/-- Nothing is written unless edits are asked for. -/
theorem store_lintFile_false (l : Linter) (path : FilePath) (s : Store) :
    (l.lintFile false path s).store = s := by
  unfold lintFile
  cases readSource s path with
  | error e => rfl
  | ok content =>
    cases hlint : l.lintSource content path.text with
    | mk result log =>
      cases result with
      | error e => simp only [hlint, Outcome.andThen]
      | ok ds => simp [hlint, Outcome.andThen]

theorem store_lintFiles_false (l : Linter) (files : List FilePath) (s : Store) :
    (l.lintFiles false files s).store = s := by
  induction files with
  | nil => rfl
  | cons path rest ih =>
    have hfirst := store_lintFile_false l path s
    rw [lintFiles]
    dsimp only
    split
    · rename_i report hresult
      rw [Outcome.store_andThen_of_ok hresult, hfirst]
      cases hnext : (l.lintFiles false rest s).result with
      | error e => rw [Outcome.store_andThen_of_error hnext, ih]
      | ok reports => rw [Outcome.store_andThen_of_ok hnext, ih]
    · -- a file that cannot be read is passed over, any other error ends the run
      split
      · rw [hfirst]
        exact ih
      · exact hfirst
    · exact hfirst

/-! ### Whatever the files are -/

section Any

variable (l : Linter) (apply : Bool) (path : FilePath) (files : List FilePath) (s : Store)

/-- A file is refused with an error that is told, and left alone, or it is there and written over at
most. -/
theorem lintFile_cases :
    (∃ e, (l.lintFile apply path s).result = .error (.error e) ∧
        (l.lintFile apply path s).store = s) ∨
      ∃ report, (l.lintFile apply path s).result = .ok report ∧
        s.KeepsFiles (l.lintFile apply path s).store := by
  cases hread : s.read path with
  | error e =>
    rw [lintFile_of_read_eq_error apply hread]
    exact Or.inl ⟨_, rfl, rfl⟩
  | ok bytes =>
    cases hverdict : l.verdictOn? path bytes with
    | none =>
      obtain ⟨reason, heq⟩ := lintFile_of_verdictOn?_eq_none apply hread hverdict
      rw [heq]
      exact Or.inl ⟨_, rfl, rfl⟩
    | some verdict =>
      cases verdict with
      | error e =>
        obtain ⟨hresult, hstore⟩ :=
          lintFile_of_verdictOn?_eq_error apply hread hverdict
        obtain ⟨err, rfl, -⟩ := exists_of_verdictOn?_eq_error hverdict
        exact Or.inl ⟨err, hresult, hstore⟩
      | ok ds =>
        rcases lintFile_of_verdictOn?_eq_ok apply hread hverdict with
          ⟨hresult, hwrite | ⟨-, hstore⟩⟩ | ⟨-, hstore, e, hresult, -⟩
        · exact Or.inr ⟨_, hresult, .of_write hread hwrite⟩
        · exact Or.inr ⟨_, hresult, hstore.symm ▸ .refl s⟩
        · exact Or.inl ⟨e, hresult, hstore⟩

/-- Files that are linted stay files. -/
theorem keepsFiles_lintFiles : s.KeepsFiles (l.lintFiles apply files s).store := by
  induction files generalizing s with
  | nil => exact .refl s
  | cons path rest ih =>
    rcases l.lintFile_cases apply path s with ⟨e, hresult, hstore⟩ | ⟨report, hresult, hkeeps⟩
    · by_cases hfamily : e.family = .fileAccess
      · rw [(lintFiles_cons_of_fileAccess rest hresult hfamily).2, hstore]
        exact ih s
      · rw [(lintFiles_cons_of_error rest hresult hfamily).2, hstore]
        exact .refl s
    · rw [(lintFiles_cons_of_ok rest hresult).2]
      exact hkeeps.trans (ih _)

/-- A run over files ends early with an error that is told. -/
theorem exists_of_lintFiles_eq_error {e : Failure}
    (h : (l.lintFiles apply files s).result = .error e) : ∃ err, e = .error err := by
  induction files generalizing s with
  | nil => cases h
  | cons path rest ih =>
    -- a run of the rest fails for a file further behind
    rcases l.lintFile_cases apply path s with ⟨err, hresult, -⟩ | ⟨report, hresult, -⟩
    · by_cases hfamily : err.family = .fileAccess
      · rw [(lintFiles_cons_of_fileAccess rest hresult hfamily).1] at h
        exact ih _ h
      · rw [(lintFiles_cons_of_error rest hresult hfamily).1] at h
        exact ⟨err, (Except.error.inj h).symm⟩
    · rw [(lintFiles_cons_of_ok rest hresult).1] at h
      cases hnext : (l.lintFiles apply rest (l.lintFile apply path s).store).result with
      | ok reports =>
        rw [hnext] at h
        cases h
      | error e' =>
        rw [hnext] at h
        obtain rfl := Except.error.inj h
        exact ih _ hnext

end Any

/-! ### Runs over paths -/

section Paths

variable {l : Linter} {paths : List FilePath} {store : Store} {d : Discovery}

/-- Once its files are found, a run over paths is one over these files. -/
theorem lintPaths_of_discover (apply : Bool) (hd : discover l.config store paths = .ok d) :
    (l.lintPaths apply paths store).result = (l.lintFiles apply d.files store).result.map .mk ∧
      (l.lintPaths apply paths store).store = (l.lintFiles apply d.files store).store := by
  unfold lintPaths
  rw [hd]
  dsimp only
  rw [Outcome.result_andThen, Outcome.store_andThen_of_ok rfl]
  refine ⟨Outcome.result_andThen _ _, ?_⟩
  cases hrun : (l.lintFiles apply d.files store).result with
  | error e => exact Outcome.store_andThen_of_error hrun _
  | ok reports => exact Outcome.store_andThen_of_ok hrun _

/-- What is reported of a file does not depend on whether edits are written back. -/
theorem map_findings_filterMap_ownReport? (apply : Bool) (files : List FilePath) :
    (files.filterMap (l.ownReport? apply store)).map FileReport.findings =
      (files.filterMap (l.ownReport? false store)).map FileReport.findings := by
  rw [List.map_filterMap, List.map_filterMap]
  refine List.filterMap_congr fun path _ => ?_
  unfold ownReport?
  cases store.read path with
  | error e => rfl
  | ok bytes =>
    dsimp only
    rcases l.verdictOn? path bytes with _ | _ | _ <;> rfl

/-- **Files do not notice each other.** Let a run over paths find files of which no two are the same
file, and let no write fail if edits are written back. Whether they are or not, the run ends early
exactly if some file can be read as a text and its text is refused, and then with the failure of the
first such file. Otherwise the reports are those that the files have on their own, in the order in
which they were found; a file that cannot be read, or not as a text, has none. Each file in front of
the one at which the run ends has the content that its own bytes give: the edits of its own
diagnostics made, if edits are written back; one that cannot be read has its old content. The file at
which the run ends, the files behind it, and whatever else there is in the store, are as before.
Without writing back the store stays the same, and the findings are those of a run that writes
back. -/
theorem lintPaths_independent (apply : Bool) (hd : discover l.config store paths = .ok d)
    (hdistinct : d.files.Pairwise fun p q => ¬ store.SamePlace p q)
    (hwrites : apply = true → ∀ p ∈ d.files, store.IsUnsealed p) :
    let outcome := l.lintPaths apply paths store
    let finished := d.files.takeWhile (l.goesPast store)
    outcome.result = (match d.files.findSome? (l.stopAt? store) with
        | none => .ok ⟨d.files.filterMap (l.ownReport? apply store)⟩
        | some e => .error e) ∧
      (∀ p ∈ d.files, ∃ bytes, store.content? p = some bytes) ∧
      (∀ p ∈ finished, ∀ bytes, store.read p = .ok bytes →
        outcome.store.read p = .ok (l.ownContent apply p bytes)) ∧
      (∀ p ∈ finished, ∀ e, store.read p = .error e → store.SameFile outcome.store p) ∧
      (∀ p ∈ d.files.dropWhile (l.goesPast store), store.SameFile outcome.store p) ∧
      (∀ q, (∀ p ∈ finished, ¬ store.SamePlace p q) → store.SameFile outcome.store q) ∧
      (apply = false → outcome.store = store) ∧
      outcome.result.map (·.files.map FileReport.findings) =
        (l.lintPaths false paths store).result.map (·.files.map FileReport.findings) ∧
      ∀ e, outcome.result = .error e → ∃ err, e = .error err ∧ (err.family = .parsing ∨
        err.family = .unsupportedLanguage ∨ err.family = .noTypeInformation) := by
  intro outcome finished
  obtain ⟨hresult, hstore⟩ := lintPaths_of_discover apply hd
  -- a run without writing back is needed as well, since its findings are compared
  obtain ⟨hreports, hend⟩ := (Finished.start l apply store).lintFiles hdistinct hwrites
  obtain ⟨hreports', -⟩ := (Finished.start l false store).lintFiles hdistinct nofun
  rw [List.nil_append] at hend
  have hmatch : outcome.result = (match d.files.findSome? (l.stopAt? store) with
      | none => .ok ⟨d.files.filterMap (l.ownReport? apply store)⟩
      | some e => .error e) := by
    change (l.lintPaths apply paths store).result = _
    rw [hresult, hreports]
    cases d.files.findSome? (l.stopAt? store) <;> rfl
  have hfinal : outcome.store = (l.lintFiles apply d.files store).store := hstore
  rw [hfinal]
  refine ⟨hmatch, fun p hp => ?_, hend.read, hend.unread, fun q hq => hend.frame q fun p hp => ?_,
    hend.frame, ?_, ?_, ?_⟩
  · exact Store.exists_content?_of_isFile (isFile_of_discover hd p hp)
  · -- the files behind are others than those in front
    rw [← List.takeWhile_append_dropWhile (p := l.goesPast store) (l := d.files)] at hdistinct
    exact (List.pairwise_append.1 hdistinct).2.2 p hp q hq
  · rintro rfl
    exact store_lintFiles_false l d.files store
  · rw [hmatch, (lintPaths_of_discover false hd).1, hreports']
    cases d.files.findSome? (l.stopAt? store) with
    | some e => rfl
    | none => exact congrArg Except.ok (map_findings_filterMap_ownReport? apply d.files)
  · intro e he
    rw [hmatch] at he
    split at he
    · cases he
    · rename_i hstop
      obtain rfl := Except.error.inj he
      obtain ⟨p, -, hp⟩ := List.exists_of_findSome?_eq_some hstop
      obtain ⟨-, err, -, -, heq, hfamily⟩ := exists_of_stopAt?_eq_some hp
      exact ⟨err, heq, hfamily⟩

end Paths

/-- A store with a source, a file that is no text, and a source that nobody may open. -/
def mixedStore : Store where
  root := .directory [("a.ts", .file (Utf8.encode "class A { n = signal(0); }")),
    ("b.ts", .file [0xFF]), ("c.ts", .file (Utf8.encode "class C { n = signal(0); }"))]
  barred := [(["c.ts"], .denied)]

/-- What `signalClassLinter` finds in its source. -/
theorem lintSource_signalClassLinter :
    let content := "class A { n = signal(0); }"
    let unit := SourceUnit.ofTree "a.ts" "typescript" (Utf8.encode content) signalClass false
    (signalClassLinter.lintSource content "a.ts").1 =
      .ok (runRule .default unit .declarations).2.diagnostics := by
  intro content unit
  have hlanguage : (FilePath.ofString "a.ts").language? = some "typescript" := by decide +kernel
  have hparse : (parseSource signalClassLinter.parser content "a.ts" none).1 = .ok unit := by
    simp only [parseSource, Option.filter_none, Option.none_or, hlanguage]
    rfl
  exact lintSource_eq_ok_iff.2 ⟨unit, hparse, runRule_ok_iff.2 fun _ _ _ => rfl, rfl⟩

theorem resolve_mixedStore {name : String} (h : name ∈ ["a.ts", "b.ts", "c.ts"]) :
    mixedStore.resolve ⟨"", [name]⟩ = .ok [name] := by
  simp only [List.mem_cons, List.not_mem_nil, or_false] at h
  rcases h with rfl | rfl | rfl <;> exact Store.resolve_of_isDirect rfl

theorem pairwise_not_samePlace_mixedStore :
    [FilePath.mk "" ["a.ts"], ⟨"", ["b.ts"]⟩, ⟨"", ["c.ts"]⟩].Pairwise
      fun p q => ¬ mixedStore.SamePlace p q := by
  have hnames : ["a.ts", "b.ts", "c.ts"].Pairwise (· ≠ ·) := by decide
  have hpaths : (["a.ts", "b.ts", "c.ts"].map fun name => FilePath.mk "" [name]).Pairwise
      fun p q => ¬ mixedStore.SamePlace p q :=
    List.pairwise_map.2 (hnames.imp_of_mem fun hn hm hne =>
      Store.not_samePlace_of_resolve (resolve_mixedStore hn) (resolve_mixedStore hm)
        (mt List.head_eq_of_cons_eq hne))
  exact hpaths

/-- The files are found in order, in whatever order they are given. -/
theorem discover_mixedStore :
    discover {} mixedStore [⟨"", ["c.ts"]⟩, ⟨"", ["b.ts"]⟩, ⟨"", ["a.ts"]⟩] =
      .ok { files := [⟨"", ["a.ts"]⟩, ⟨"", ["b.ts"]⟩, ⟨"", ["c.ts"]⟩] } := by
  let given : List FilePath := [⟨"", ["c.ts"]⟩, ⟨"", ["b.ts"]⟩, ⟨"", ["a.ts"]⟩]
  have hfiles : ∀ p ∈ given, mixedStore.isFile p = true ∧ Discovery.hasLanguage p = true := by
    intro p hp
    simp only [given, List.mem_cons, List.not_mem_nil, or_false] at hp
    rcases hp with rfl | rfl | rfl <;>
      exact ⟨by rw [Store.isFile, Store.find_of_isDirect rfl rfl], by decide +kernel⟩
  have hsorted : Discovery.sorted { files := given } = given.reverse := by
    have hproper : ∀ p ∈ given, p.Proper := by
      intro p hp
      simp only [given, List.mem_cons, List.not_mem_nil, or_false] at hp
      rcases hp with rfl | rfl | rfl <;> exact ⟨.inl rfl, by decide +kernel⟩
    -- sorting does not compute, but a sorted list is told by its members
    refine eq_of_pairwise_text (Discovery.pairwise_sorted hproper) (by decide +kernel) fun p => ?_
    rw [Discovery.mem_sorted, List.mem_reverse]
  rw [discover_of_forall_file hfiles, hsorted]
  rfl

/-- Of three files one is reported and fixed; one that is no text and one that nobody may open are
left out and left alone. -/
theorem lintPaths_independent_mixedStore :
    let content := "class A { n = signal(0); }"
    let outcome := signalClassLinter.lintPaths true
      [⟨"", ["c.ts"]⟩, ⟨"", ["b.ts"]⟩, ⟨"", ["a.ts"]⟩] mixedStore
    ∃ ds, (signalClassLinter.lintSource content "a.ts").1 = .ok ds ∧
      outcome.result = .ok ⟨[⟨"a.ts", ds, (applySuggestions (Utf8.encode content) ds).2⟩]⟩ ∧
      outcome.store.read ⟨"", ["a.ts"]⟩ = .ok (applySuggestions (Utf8.encode content) ds).1 ∧
      outcome.store.read ⟨"", ["b.ts"]⟩ = .ok [0xFF] ∧
      outcome.store.read ⟨"", ["c.ts"]⟩ = .error (.refused .denied) ∧
      outcome.store.content? ⟨"", ["c.ts"]⟩ =
        some (Utf8.encode "class C { n = signal(0); }") := by
  intro content outcome
  let a : FilePath := ⟨"", ["a.ts"]⟩
  let b : FilePath := ⟨"", ["b.ts"]⟩
  let c : FilePath := ⟨"", ["c.ts"]⟩
  let unit := SourceUnit.ofTree "a.ts" "typescript" (Utf8.encode content) signalClass false
  let ds := (runRule .default unit .declarations).2.diagnostics
  have hc : mixedStore.resolve c = .ok ["c.ts"] := resolve_mixedStore (by decide)
  have hread : mixedStore.read a = .ok (Utf8.encode content) ∧ mixedStore.read b = .ok [0xFF] ∧
      mixedStore.read c = .error (.refused .denied) := by
    rw [Store.read_eq, Store.read_eq, Store.read_eq, resolve_mixedStore (by decide),
      resolve_mixedStore (by decide), hc]
    exact ⟨rfl, rfl, rfl⟩
  have hdiscover : discover signalClassLinter.config mixedStore [c, b, a] =
      .ok { files := [a, b, c] } := discover_mixedStore
  have hwrites : true = true → ∀ p ∈ [a, b, c], mixedStore.IsUnsealed p := fun _ _ _ _ _ => rfl
  have hlint : (signalClassLinter.lintSource content "a.ts").1 = .ok ds :=
    lintSource_signalClassLinter
  have htext : a.text = "a.ts" := by decide +kernel
  have hverdict : signalClassLinter.verdictOn? a (Utf8.encode content) = some (.ok ds) := by
    have hdecode : Utf8.decode (Utf8.encode content) = .ok content := by decide +kernel
    rw [verdictOn?, hdecode, htext]
    exact congrArg some hlint
  have hnone : signalClassLinter.verdictOn? b [0xFF] = none := by
    have hdecode : Utf8.decode [0xFF] = .error ⟨.badStart, 0, 1, 0xFF⟩ := by decide +kernel
    rw [verdictOn?, hdecode]
  obtain ⟨hresult, -, hfinished, hunread, -⟩ :=
    lintPaths_independent true hdiscover pairwise_not_samePlace_mixedStore hwrites
  have hgoes : ([a, b, c].takeWhile (signalClassLinter.goesPast mixedStore)) = [a, b, c] := by
    simp [goesPast, stopAt?, hread, hverdict, hnone]
  have hcFile := hunread c (by simp [hgoes]) _ hread.2.2
  refine ⟨ds, hlint, ?_, ?_, ?_, ?_, ?_⟩
  · refine hresult.trans ?_
    simp [stopAt?, ownReport?, hread, hverdict, hnone, htext]
  · rw [hfinished a (by simp [hgoes]) _ hread.1]
    simp [ownContent, hverdict]
  · rw [hfinished b (by simp [hgoes]) _ hread.2.1]
    simp [ownContent, hnone]
  · exact hcFile.read.trans hread.2.2
  · refine hcFile.content.trans ?_
    rw [Store.content?_eq, hc]
    rfl

end Linter

end SignalLint
