import SignalLint.Lint.Discovery
import SignalLint.Proofs.Failing
import SignalLint.Proofs.Files.Write

/-!
# How a search for files ends

A search over paths ends early at a path that does not exist, at one to which the way is barred, at
patterns that are no list of texts, and at a size limit without bytes (`searchFailure_of_discover`). The
first is an error that is told. The last two are faults of the settings, which are not looked at
before a file below a directory is. What is found by a search that does not end early are files
(`isFile_of_discover`), whether they can be opened or not.
-/

namespace SignalLint

/-- The failures of a search in a store with some settings. -/
inductive SearchFailure (config : LintConfig) (store : Store) : Failure → Prop where
  | invalidPath (path reason : String) :
      SearchFailure config store (.error (.invalidPath path reason))
  /-- The way to a path is barred. -/
  | barred {path : FilePath} {r : Refusal} (h : store.find path = .error (.refused r)) :
      SearchFailure config store (.fault (.refused r path))
  /-- The patterns are no collection. -/
  | noPatterns {f : Fault} (h : config.excludePatterns.items = .error f) :
      SearchFailure config store (.fault f)
  /-- A pattern is no text. -/
  | noText {patterns : List Value} {v : Value} (h : config.excludePatterns.items = .ok patterns)
      (hv : v ∈ patterns) (htext : ∀ s, v ≠ .text s) :
      SearchFailure config store (.fault (.notPathLike v.typeName))
  /-- The size limit has no bytes. -/
  | noLimit {f : Fault} (h : config.maxBytes = .error f) : SearchFailure config store (.fault f)

/-- Only a pattern that is no text cannot be matched. -/
theorem exists_of_isExcluded_eq_error {relative name : String} {patterns : List Value} {f : Fault}
    (h : isExcluded relative name patterns = .error f) :
    ∃ v ∈ patterns, (∀ s, v ≠ .text s) ∧ f = .notPathLike v.typeName := by
  fun_induction isExcluded relative name patterns with
  | case1 => cases h
  | case2 => cases h
  | case3 pattern rest hmiss ih =>
    obtain ⟨v, hv, hrest⟩ := ih h
    exact ⟨v, List.mem_cons_of_mem _ hv, hrest⟩
  | case4 v rest hv =>
    exact ⟨v, List.mem_cons_self, hv, (Except.error.inj h).symm⟩

namespace SearchFailure

variable {config : LintConfig} {store : Store} {root file path : FilePath} {d d' : Discovery}
  {e : Failure}

theorem of_weigh (h : d.weigh config store file = .error (e, d')) : SearchFailure config store e := by
  unfold Discovery.weigh at h
  split at h
  · cases h
  · split at h
    · rename_i hlimit
      cases h
      exact .noLimit hlimit
    · split at h <;> cases h

theorem of_visitFile (h : Discovery.visitFile config store root d file = .error (e, d')) :
    SearchFailure config store e := by
  unfold Discovery.visitFile at h
  dsimp only at h
  -- the patterns are looked at first, and then the size
  split at h
  · rename_i hitems
    cases h
    exact .noPatterns hitems
  · rename_i patterns hitems
    split at h
    · rename_i hexcluded
      cases h
      obtain ⟨v, hv, htext, rfl⟩ := exists_of_isExcluded_eq_error hexcluded
      exact .noText hitems hv htext
    · cases h
    · exact of_weigh h

theorem of_visitPath (h : Discovery.visitPath config store d path = .error (e, d')) :
    SearchFailure config store e := by
  unfold Discovery.visitPath at h
  split at h
  · rename_i hprobe
    cases h
    exact .barred (Store.probe_eq_error_iff.1 hprobe)
  · cases h
    exact .invalidPath _ _
  · split at h
    · cases h
    · -- below a directory some file ended the search
      obtain ⟨_, _, -, hfile⟩ := Except.exists_of_foldlM_eq_error h
      exact of_visitFile hfile

end SearchFailure

/-- **Why a search ends early.** -/
theorem searchFailure_of_discover {config : LintConfig} {store : Store} {paths : List FilePath}
    {d : Discovery} {e : Failure} (h : discover config store paths = .error (e, d)) :
    SearchFailure config store e := by
  unfold discover at h
  cases hfold : paths.foldlM (Discovery.visitPath config store) {} with
  | ok d' =>
    rw [hfold] at h
    cases h
  | error p =>
    rw [hfold] at h
    obtain rfl := Except.error.inj h
    obtain ⟨_, _, -, hpath⟩ := Except.exists_of_foldlM_eq_error hfold
    exact .of_visitPath hpath

/-! ### What is found -/

namespace Discovery

variable {config : LintConfig} {store : Store} {root file path : FilePath} {d d' : Discovery}

/-- Nothing but files has been found. -/
def HasFiles (d : Discovery) (store : Store) : Prop := ∀ f ∈ d.files, store.isFile f = true

theorem HasFiles.add (h : d.HasFiles store) (hfile : store.isFile file = true) :
    (d.add file).HasFiles store := by
  intro f hf
  rcases List.mem_append.1 hf with hf | hf
  · exact h f hf
  · exact List.mem_singleton.1 hf ▸ hfile

/-- Only a file has a size. -/
theorem isFile_of_sizeOf {size : Nat} (h : store.sizeOf file = .ok size) :
    store.isFile file = true := by
  unfold Store.sizeOf at h
  unfold Store.isFile
  split at h
  · rename_i hfind
    rw [hfind]
  · cases h
  · cases h

theorem HasFiles.of_weigh (h : d.HasFiles store) (hweigh : d.weigh config store file = .ok d') :
    d'.HasFiles store := by
  unfold weigh at hweigh
  split at hweigh
  · exact Except.ok.inj hweigh ▸ h
  · rename_i size hsize
    split at hweigh
    · cases hweigh
    · split at hweigh
      · exact Except.ok.inj hweigh ▸ h
      · exact Except.ok.inj hweigh ▸ h.add (isFile_of_sizeOf hsize)

theorem HasFiles.of_visitFile (h : d.HasFiles store)
    (hvisit : visitFile config store root d file = .ok d') : d'.HasFiles store := by
  unfold visitFile at hvisit
  dsimp only at hvisit
  split at hvisit
  · cases hvisit
  · split at hvisit
    · cases hvisit
    · exact Except.ok.inj hvisit ▸ h
    · exact h.of_weigh hvisit

theorem HasFiles.of_visitPath (h : d.HasFiles store)
    (hvisit : visitPath config store d path = .ok d') : d'.HasFiles store := by
  unfold visitPath at hvisit
  split at hvisit
  · cases hvisit
  · cases hvisit
  · split at hvisit
    · rename_i hfile
      split at hvisit
      · exact Except.ok.inj hvisit ▸ h.add hfile
      · exact Except.ok.inj hvisit ▸ h
    · -- each file below the directory keeps what was found
      exact Except.foldlM_induction (P := (HasFiles · store)) hvisit h
        fun _ _ _ _ h hvisit => h.of_visitFile hvisit

end Discovery

/-- **What a search finds are files.** -/
theorem isFile_of_discover {config : LintConfig} {store : Store} {paths : List FilePath}
    {d : Discovery} (h : discover config store paths = .ok d) :
    ∀ f ∈ d.files, store.isFile f = true := by
  obtain ⟨d', hfold, rfl⟩ := Except.map_eq_ok_iff.1 h
  have hfiles : d'.HasFiles store :=
    Except.foldlM_induction (P := (Discovery.HasFiles · store)) hfold (List.forall_mem_nil _)
      fun _ _ _ _ h hvisit => h.of_visitPath hvisit
  intro f hf
  exact hfiles f (List.mem_eraseDups.1 (List.mem_mergeSort.1 hf))

/-! ### Two searches -/

section Searches

variable {config : LintConfig} {store : Store}

theorem Discovery.foldlM_visitPath_of_forall_file {paths : List FilePath}
    (h : ∀ p ∈ paths, store.isFile p = true ∧ hasLanguage p = true) (d : Discovery) :
    paths.foldlM (visitPath config store) d = .ok { d with files := d.files ++ paths } := by
  induction paths generalizing d with
  | nil => rw [List.append_nil]; rfl
  | cons p paths ih =>
    obtain ⟨⟨hfile, hlanguage⟩, hrest⟩ := List.forall_mem_cons.1 h
    have hvisit : visitPath config store d p = .ok (d.add p) := by
      rw [visitPath, Store.probe_of_isFile hfile]
      simp only [hfile, hlanguage, if_true]
    rw [List.foldlM_cons, hvisit]
    refine (ih hrest (d.add p)).trans ?_
    rw [add, List.append_assoc]
    rfl

/-- Source files that are given are found, whatever the settings are. -/
theorem discover_of_forall_file {paths : List FilePath}
    (h : ∀ p ∈ paths, store.isFile p = true ∧ Discovery.hasLanguage p = true) :
    discover config store paths = .ok { files := Discovery.sorted { files := paths } } := by
  rw [discover, Discovery.foldlM_visitPath_of_forall_file h, List.nil_append]
  rfl

/-- Patterns that are no collection end the search at the first source file below a directory. -/
theorem discover_of_items_eq_error {root file : FilePath} {rest : List FilePath} {f : Fault}
    (hprobe : store.probe root = .ok true) (hdirectory : store.isFile root = false)
    (hfiles : (store.filesUnder config.followSymlinks.isTruthy root).filter Discovery.hasLanguage =
      file :: rest)
    (hitems : config.excludePatterns.items = .error f) :
    discover config store [root] = .error (.fault f, {}) := by
  have hvisit : Discovery.visitPath config store {} root = .error (.fault f, {}) := by
    rw [Discovery.visitPath, hprobe, hdirectory, hfiles, List.foldlM_cons, Discovery.visitFile]
    simp only [hitems]
    rfl
  rw [discover, List.foldlM_cons, hvisit]
  rfl

end Searches

end SignalLint
