import Mathlib.Data.List.Sort
import Mathlib.Data.String.Basic
import SignalLint.Lint.Discovery
import SignalLint.Proofs.Diagnostic.Merge
import SignalLint.Proofs.Files.Walk

/-!
# Which files a search finds

A search goes over the paths that are given, and at each of them over the files below it. What it
takes at one path does not depend on what it took before, so the files that it finds are told by the
set of the given paths: `Selects` says which files one path brings in, and `discover_selects` that
these are the ones that are found, sorted and without repetition.

* `isExcluded_texts`, `Discovery.exists_visitFile` — one file below a directory.
* `Discovery.exists_visitPath` — one path that exists; `Discovery.visitPath_missing` one that does
  not.
* `Discovery.exists_foldlM` — steps that each add to what was found.
* `Discovery.pairwise_sorted` — in what is found no text of a path comes twice.
-/

namespace SignalLint

/-! ### Selected files -/

/-- Settings whose patterns are texts and whose size limit is a number of bytes. -/
structure LintConfig.Sifts (config : LintConfig) (patterns : List String) (limit : Int) :
    Prop where
  patterns : config.excludePatterns = .list (patterns.map .text)
  limit : config.maxBytes = .ok limit

/-- The patterns of settings that nobody gives. -/
def defaultPatterns : List String :=
  ["node_modules/*", "dist/*", "build/*", ".angular/*", ".git/*", "coverage/*", "*.d.ts"]

theorem sifts_default : LintConfig.Sifts {} defaultPatterns 2097152 := ⟨rfl, rfl⟩

/-- The suffixes of source files, in any case. -/
def IsSourceSuffix (suffix : String) : Prop := lowerCase suffix ∈ [".ts", ".mts", ".cts", ".tsx"]

instance (suffix : String) : Decidable (IsSourceSuffix suffix) :=
  inferInstanceAs (Decidable (_ ∈ _))

/-- What is asked of a file below a directory that is given: its suffix is right, no pattern stands
for its path from there or for its name, and it is not too large. -/
structure Passes (patterns : List String) (limit : Int) (dirs : List String) (name : String)
    (content : Bytes) : Prop where
  suffix : IsSourceSuffix (FilePath.suffixOf name)
  notExcluded : ∀ pattern ∈ patterns,
    Glob.admits pattern (String.intercalate "/" (dirs ++ [name])) = false ∧
      Glob.admits pattern name = false
  small : (content.length : Int) ≤ limit

/-- The files that a given path brings in. -/
inductive Selects (store : Store) (patterns : List String) (limit : Int) :
    FilePath → FilePath → Prop where
  /-- Itself, if it is a source file. -/
  | given {file : FilePath} (isFile : store.isFile file = true)
      (suffix : IsSourceSuffix file.suffix) : Selects store patterns limit file file
  /-- A file below it, with no skipped directory on the way. -/
  | below {root : FilePath} {n : FileNode} {dirs : List String} {name : String} {content : Bytes}
      (isRoot : store.find root = .ok n) (below : n.Below dirs name content)
      (passes : Passes patterns limit dirs name content) :
      Selects store patterns limit root ⟨root.anchor, root.names ++ (dirs ++ [name])⟩

theorem hasLanguage_iff {file : FilePath} :
    Discovery.hasLanguage file = true ↔ IsSourceSuffix file.suffix := by
  unfold Discovery.hasLanguage FilePath.language? languageOfSuffix? IsSourceSuffix
  rw [Option.isSome_map, List.find?_isSome]
  simp only [suffixLanguages, List.mem_cons, List.not_mem_nil, or_false, decide_eq_true_eq]
  constructor
  · rintro ⟨e, rfl | rfl | rfl | rfl, he⟩ <;> simp [← he]
  · rintro (h | h | h | h) <;> simp [h]

theorem name_concat (anchor name : String) (names dirs : List String) :
    FilePath.name ⟨anchor, names ++ (dirs ++ [name])⟩ = name := by
  rw [FilePath.name, ← List.append_assoc, List.getLast?_concat]
  rfl

theorem suffix_concat (anchor name : String) (names dirs : List String) :
    FilePath.suffix ⟨anchor, names ++ (dirs ++ [name])⟩ = FilePath.suffixOf name := by
  rw [FilePath.suffix, name_concat]

/-- Patterns that are texts can all be matched. -/
theorem isExcluded_texts (relative name : String) (patterns : List String) :
    isExcluded relative name (patterns.map .text) =
      .ok (patterns.any fun p => Glob.admits p relative || Glob.admits p name) := by
  induction patterns with
  | nil => rfl
  | cons pattern patterns ih =>
    rw [List.map_cons, isExcluded, ih, List.any_cons]
    cases Glob.admits pattern relative || Glob.admits pattern name <;> rfl

section Selection

variable {config : LintConfig} {store : Store} {patterns : List String} {limit : Int}
  {root path file : FilePath} {n : FileNode}

/-- A directory brings in a file below it exactly if it passes. -/
theorem selects_below_iff {dirs : List String} {name : String} {content : Bytes}
    (hroot : store.find root = .ok n) (hbelow : n.Below dirs name content) :
    Selects store patterns limit root ⟨root.anchor, root.names ++ (dirs ++ [name])⟩ ↔
      Passes patterns limit dirs name content := by
  refine ⟨fun h => ?_, .below hroot hbelow⟩
  generalize hfile : FilePath.mk root.anchor (root.names ++ (dirs ++ [name])) = file at h
  cases h with
  | given isFile suffix =>
    -- the root itself is not below the root: there is a name more
    have hnames : root.names ++ (dirs ++ [name]) = root.names ++ [] :=
      (congrArg FilePath.names hfile).trans (List.append_nil _).symm
    exact absurd (List.append_cancel_left hnames) (by simp)
  | below isRoot below passes =>
    obtain rfl := Except.ok.inj (hroot.symm.trans isRoot)
    obtain ⟨rfl, hname⟩ :=
      List.append_inj' (List.append_cancel_left (congrArg FilePath.names hfile)) rfl
    obtain rfl := List.singleton_inj.1 hname
    -- the place is the same, and so is the file there
    cases hbelow.stands.symm.trans below.stands
    exact passes

/-- A file has nothing below it. -/
theorem isFile_eq_false_of_below {dirs : List String} {name : String} {content : Bytes}
    (hroot : store.find root = .ok n) (hbelow : n.Below dirs name content) :
    store.isFile root = false := by
  obtain ⟨es, rfl⟩ := hbelow.exists_entries
  rw [Store.isFile, hroot]

/-- What a proper path brings in is a proper path. -/
theorem Selects.proper (hplain : store.root.IsPlain) (hpath : path.Proper)
    (h : Selects store patterns limit path file) : file.Proper := by
  cases h with
  | given => exact hpath
  | below isRoot below passes =>
    have hn := Store.isPlain_of_find hplain isRoot
    exact hpath.append fun name hname => (hn.names_of_at? below.stands name hname).1

/-! ### Steps of a search -/

namespace Discovery

variable {d : Discovery}

/-- **Steps that add to what was found** and do not fail: what is found in the end is what was there
before and what some step adds. -/
theorem exists_foldlM {α : Type} {step : Discovery → α → Search} {Adds : α → FilePath → Prop}
    {xs : List α}
    (h : ∀ d, ∀ x ∈ xs, ∃ d', step d x = .ok d' ∧ ∀ f, f ∈ d'.files ↔ f ∈ d.files ∨ Adds x f)
    (d : Discovery) :
    ∃ d', xs.foldlM step d = .ok d' ∧
      ∀ f, f ∈ d'.files ↔ f ∈ d.files ∨ ∃ x ∈ xs, Adds x f := by
  induction xs generalizing d with
  | nil => exact ⟨d, rfl, fun f => ⟨Or.inl, fun h => h.resolve_right nofun⟩⟩
  | cons x xs ih =>
    obtain ⟨d₁, hstep, hd₁⟩ := h d x List.mem_cons_self
    obtain ⟨d₂, hfold, hd₂⟩ := ih (fun d y hy => h d y (List.mem_cons_of_mem _ hy)) d₁
    refine ⟨d₂, by rw [List.foldlM_cons, hstep]; exact hfold, fun f => ?_⟩
    rw [hd₂, hd₁, or_assoc, List.exists_mem_cons_iff]

theorem exists_weigh {content : Bytes} (hsifts : config.Sifts patterns limit)
    (h : store.sizeOf file = .ok content.length) (d : Discovery) :
    ∃ d', d.weigh config store file = .ok d' ∧
      ∀ f, f ∈ d'.files ↔ f ∈ d.files ∨ f = file ∧ (content.length : Int) ≤ limit := by
  unfold weigh
  rw [h, hsifts.limit]
  dsimp only
  split
  · rename_i hlarge
    exact ⟨_, rfl, fun f => (or_iff_left fun hf => absurd hf.2 (Int.not_le.2 hlarge)).symm⟩
  · rename_i hsmall
    refine ⟨_, rfl, fun f => ?_⟩
    rw [add, List.mem_append, List.mem_singleton, and_iff_left (Int.not_lt.1 hsmall)]

/-- **One file below a directory** is taken if the directory brings it in. -/
theorem exists_visitFile (hplain : store.root.IsPlain) (hopen : store.IsPassable)
    (hsifts : config.Sifts patterns limit) (hroot : store.find root = .ok n)
    (h : file ∈ (store.filesUnder config.followSymlinks.isTruthy root).filter hasLanguage)
    (d : Discovery) :
    ∃ d', visitFile config store root d file = .ok d' ∧
      ∀ f, f ∈ d'.files ↔ f ∈ d.files ∨ f = file ∧ Selects store patterns limit root file := by
  obtain ⟨hunder, hlanguage⟩ := List.mem_filter.1 h
  obtain ⟨dirs, name, content, hbelow, rfl⟩ := (Store.mem_filesUnder_iff hplain hopen hroot).1 hunder
  rw [hasLanguage_iff, suffix_concat] at hlanguage
  have hsize : store.sizeOf ⟨root.anchor, root.names ++ (dirs ++ [name])⟩ =
      .ok content.length := by
    rw [Store.sizeOf, Store.find_append hplain hopen hroot hbelow.stands]
  unfold visitFile
  dsimp only
  rw [hsifts.patterns, Value.items, List.drop_left, name_concat]
  dsimp only
  rw [isExcluded_texts, selects_below_iff hroot hbelow]
  cases hany : patterns.any fun p =>
      Glob.admits p (String.intercalate "/" (dirs ++ [name])) || Glob.admits p name with
  | true =>
    obtain ⟨p, hp, hadmits⟩ := List.any_eq_true.1 hany
    -- a pattern stands for the file, so it does not pass and nothing is added
    refine ⟨_, rfl, fun f => (or_iff_left fun ⟨_, hpasses⟩ => ?_).symm⟩
    obtain ⟨hrelative, hname⟩ := hpasses.notExcluded p hp
    rw [hrelative, hname] at hadmits
    cases hadmits
  | false =>
    -- of what is asked of the file only its size is left
    obtain ⟨d', hweigh, hd'⟩ := exists_weigh hsifts hsize d
    refine ⟨d', hweigh, fun f => ?_⟩
    rw [hd']
    refine or_congr_right (and_congr_right fun _ => ⟨fun hsmall => ?_, Passes.small⟩)
    refine ⟨hlanguage, fun p hp => ?_, hsmall⟩
    simpa using List.any_eq_false.1 hany p hp

/-- A path that does not exist ends the search. -/
theorem visitPath_missing (hopen : store.IsPassable) (h : store.hasPath path = false)
    (d : Discovery) :
    visitPath config store d path =
      .error (.error (.invalidPath path.text "does not exist"), d) := by
  rw [visitPath, hopen.probe_eq, h]

/-- **One path that exists** adds what it brings in. -/
theorem exists_visitPath (hplain : store.root.IsPlain) (hopen : store.IsPassable)
    (hsifts : config.Sifts patterns limit) (h : store.hasPath path = true) (d : Discovery) :
    ∃ d', visitPath config store d path = .ok d' ∧
      ∀ f, f ∈ d'.files ↔ f ∈ d.files ∨ Selects store patterns limit path f := by
  obtain ⟨n, hfind⟩ : ∃ n, store.find path = .ok n := by
    unfold Store.hasPath at h
    split at h
    · exact ⟨_, ‹_›⟩
    · cases h
  rw [visitPath, hopen.probe_eq, h]
  dsimp only
  split
  · -- a file brings in nothing but itself
    rename_i hfile
    have honly : ∀ f, Selects store patterns limit path f ↔
        f = path ∧ hasLanguage path = true := by
      intro f
      rw [hasLanguage_iff]
      constructor
      · rintro (⟨-, hsuffix⟩ | ⟨isRoot, below, -⟩)
        · exact ⟨rfl, hsuffix⟩
        · have hdir := isFile_eq_false_of_below isRoot below
          exact absurd hfile (hdir ▸ nofun)
      · rintro ⟨rfl, hsuffix⟩
        exact .given hfile hsuffix
    split
    · rename_i hlanguage
      refine ⟨_, rfl, fun f => ?_⟩
      rw [honly, add, List.mem_append, List.mem_singleton, and_iff_left hlanguage]
    · rename_i hlanguage
      exact ⟨_, rfl, fun f => (or_iff_left fun hf => hlanguage ((honly f).1 hf).2).symm⟩
  · rename_i hfile
    obtain ⟨d', hfold, hd'⟩ := exists_foldlM
      (fun d file hmem => exists_visitFile hplain hopen hsifts hfind hmem d) d
    refine ⟨d', hfold, fun f => (hd' f).trans (or_congr_right ⟨?_, fun hf => ?_⟩)⟩
    · rintro ⟨x, -, rfl, hx⟩
      exact hx
    · -- the walk comes to every file that is brought in
      refine ⟨f, ?_, rfl, hf⟩
      cases hf with
      | given isFile suffix => exact absurd isFile hfile
      | @below _ dirs name content isRoot below passes =>
        rw [List.mem_filter, Store.mem_filesUnder_iff hplain hopen isRoot, hasLanguage_iff,
          suffix_concat]
        exact ⟨⟨dirs, name, content, below, rfl⟩, passes.suffix⟩

/-- **Paths that all exist** add what each of them brings in. -/
theorem exists_foldlM_visitPath (hplain : store.root.IsPlain) (hopen : store.IsPassable)
    (hsifts : config.Sifts patterns limit) {paths : List FilePath}
    (h : ∀ p ∈ paths, store.hasPath p = true) (d : Discovery) :
    ∃ d', paths.foldlM (visitPath config store) d = .ok d' ∧
      ∀ f, f ∈ d'.files ↔ f ∈ d.files ∨ ∃ p ∈ paths, Selects store patterns limit p f :=
  exists_foldlM (fun d p hp => exists_visitPath hplain hopen hsifts (h p hp) d) d

/-! ### The order of what is found -/

/-- The order in which files are sorted. -/
def atMost (a b : FilePath) : Bool := !(b.text < a.text)

theorem atMost_iff (a b : FilePath) : atMost a b = true ↔ a.text ≤ b.text := by
  simp only [atMost, Bool.not_eq_true', decide_eq_false_iff_not, not_lt]

theorem mem_sorted {f : FilePath} : f ∈ d.sorted ↔ f ∈ d.files := by
  rw [sorted, List.mem_mergeSort, List.mem_eraseDups]

/-- **What is found is in ascending order**, and no text comes twice: proper paths with the same
text are the same. -/
theorem pairwise_sorted (h : ∀ f ∈ d.files, f.Proper) :
    d.sorted.Pairwise fun a b => a.text < b.text := by
  have hsorted : d.sorted.Pairwise fun a b => a.text ≤ b.text := by
    have htrans (a b c : FilePath) (hab : atMost a b = true) (hbc : atMost b c = true) :
        atMost a c = true :=
      (atMost_iff a c).2 (((atMost_iff a b).1 hab).trans ((atMost_iff b c).1 hbc))
    have htotal (a b : FilePath) : (atMost a b || atMost b a) = true := by
      rw [Bool.or_eq_true, atMost_iff, atMost_iff]
      exact le_total a.text b.text
    exact (List.pairwise_mergeSort htrans htotal d.files.eraseDups).imp (atMost_iff _ _).1
  have hnodup : d.sorted.Nodup :=
    (List.mergeSort_perm _ _).nodup_iff.2 (nodup_eraseDups d.files)
  -- equal texts would be equal paths, and no path comes twice
  refine (hsorted.and hnodup).imp_of_mem fun {a b} ha hb hab => lt_of_le_of_ne hab.1 fun heq => ?_
  exact hab.2 ((h a (mem_sorted.1 ha)).eq_of_text_eq (h b (mem_sorted.1 hb)) heq)

end Discovery

/-- Lists of paths in ascending order are told by what is in them. -/
theorem eq_of_pairwise_text {files files' : List FilePath}
    (h : files.Pairwise fun a b => a.text < b.text)
    (h' : files'.Pairwise fun a b => a.text < b.text) (hmem : ∀ f, f ∈ files ↔ f ∈ files') :
    files = files' := by
  have hirrefl : Std.Irrefl fun a b : FilePath => a.text < b.text := ⟨fun a => lt_irrefl a.text⟩
  have hantisymm : Std.Antisymm fun a b : FilePath => a.text < b.text :=
    ⟨fun a b hab hba => absurd hab (lt_asymm hba)⟩
  exact h.eq_of_mem_iff h' hmem

/-! ### The whole search -/

/-- The first path that does not exist ends the search. -/
theorem discover_missing (hplain : store.root.IsPlain) (hopen : store.IsPassable)
    (hsifts : config.Sifts patterns limit) {paths : List FilePath}
    (h : paths.find? (!store.hasPath ·) = some path) :
    ∃ d, discover config store paths =
      .error (.error (.invalidPath path.text "does not exist"), d) := by
  obtain ⟨hmissing, before, after, rfl, hbefore⟩ := List.find?_eq_some_iff_append.1 h
  have hexist : ∀ p ∈ before, store.hasPath p = true := fun p hp => by simpa using hbefore p hp
  obtain ⟨d, hfold, -⟩ := Discovery.exists_foldlM_visitPath hplain hopen hsifts hexist {}
  refine ⟨d, ?_⟩
  rw [discover, List.foldlM_append, hfold]
  change Except.map _ ((path :: after).foldlM _ d) = _
  rw [List.foldlM_cons, Discovery.visitPath_missing hopen (by simpa using hmissing)]
  rfl

/-- Paths that all exist bring in what is found. -/
theorem exists_discover (hplain : store.root.IsPlain) (hopen : store.IsPassable)
    (hsifts : config.Sifts patterns limit) {paths : List FilePath} (hproper : ∀ p ∈ paths, p.Proper)
    (h : ∀ p ∈ paths, store.hasPath p = true) :
    ∃ d, discover config store paths = .ok d ∧
      d.files.Pairwise (fun a b => a.text < b.text) ∧
      ∀ f, f ∈ d.files ↔ ∃ p ∈ paths, Selects store patterns limit p f := by
  obtain ⟨d, hfold, hd⟩ := Discovery.exists_foldlM_visitPath hplain hopen hsifts h {}
  have hfiles : ∀ f, f ∈ d.files ↔ ∃ p ∈ paths, Selects store patterns limit p f := fun f =>
    (hd f).trans (or_iff_right List.not_mem_nil)
  refine ⟨_, by rw [discover, hfold]; rfl, Discovery.pairwise_sorted fun f hf => ?_,
    fun f => Discovery.mem_sorted.trans (hfiles f)⟩
  obtain ⟨p, hp, hselects⟩ := (hfiles f).1 hf
  exact hselects.proper hplain (hproper p hp)

end Selection

/-- **Which files a search finds.** Take a store without links in which every directory can be
opened, and settings whose patterns are texts and whose size limit is a number. The first given path
that does not exist is the error of the search. If all exist, the search finds the files that some
given path brings in, in strictly ascending order of the texts of their paths; so it finds the same
for all paths that are the same up to order and repetition. -/
theorem discover_selects {config : LintConfig} {store : Store} {patterns : List String}
    {limit : Int} (hplain : store.root.IsPlain) (hopen : store.IsPassable)
    (hsifts : config.Sifts patterns limit) (texts : List String) :
    let paths := texts.map FilePath.ofString
    (∀ p, paths.find? (!store.hasPath ·) = some p →
        ∃ d, discover config store paths =
          .error (.error (.invalidPath p.text "does not exist"), d)) ∧
      ((∀ p ∈ paths, store.hasPath p = true) →
        ∃ d, discover config store paths = .ok d ∧
          d.files.Pairwise (fun a b => a.text < b.text) ∧
          (∀ f, f ∈ d.files ↔ ∃ p ∈ paths, Selects store patterns limit p f) ∧
          ∀ texts' : List String, (∀ p, p ∈ texts'.map FilePath.ofString ↔ p ∈ paths) →
            ∃ d', discover config store (texts'.map FilePath.ofString) = .ok d' ∧
              d'.files = d.files) := by
  intro paths
  have hproper : ∀ texts : List String, ∀ p ∈ texts.map FilePath.ofString, p.Proper := by
    intro texts p hp
    obtain ⟨text, -, rfl⟩ := List.mem_map.1 hp
    exact FilePath.proper_ofString text
  refine ⟨fun p hp => discover_missing hplain hopen hsifts hp, fun hexist => ?_⟩
  obtain ⟨d, hd, hsorted, hfiles⟩ := exists_discover hplain hopen hsifts (hproper texts) hexist
  refine ⟨d, hd, hsorted, hfiles, fun texts' hsame => ?_⟩
  obtain ⟨d', hd', hsorted', hfiles'⟩ := exists_discover hplain hopen hsifts (hproper texts')
    fun p hp => hexist p ((hsame p).1 hp)
  refine ⟨d', hd', eq_of_pairwise_text hsorted' hsorted fun f => ?_⟩
  -- what is found speaks of the paths only through which ones are given
  rw [hfiles, hfiles']
  exact exists_congr fun p => and_congr_left fun _ => hsame p

/-- A store with two source files, one of which the default patterns exclude. -/
def sampleStore : Store where
  root := .directory [("src", .directory [("b.ts", .file []), ("types.d.ts", .file [])])]

theorem isPlain_sampleStore : sampleStore.root.IsPlain := by
  refine .directory (by decide) (List.forall_mem_singleton.2 (.directory (by decide) ?_))
  exact List.forall_mem_cons.2 ⟨.file _, List.forall_mem_singleton.2 (.file _)⟩

/-- What is excluded below a directory is found if it is given as well. -/
theorem discover_selects_sampleStore :
    (∃ d, discover {} sampleStore (["src"].map FilePath.ofString) = .ok d ∧
      .ofString "src/b.ts" ∈ d.files ∧ .ofString "src/types.d.ts" ∉ d.files) ∧
    ∃ d, discover {} sampleStore (["src", "src/types.d.ts"].map FilePath.ofString) = .ok d ∧
      .ofString "src/b.ts" ∈ d.files ∧ .ofString "src/types.d.ts" ∈ d.files := by
  have hplain := isPlain_sampleStore
  have hopen : sampleStore.IsPassable := fun _ _ _ => rfl
  have hhere : sampleStore.find .here = .ok sampleStore.root := by
    unfold Store.find Store.locate Store.resolve FilePath.here
    rw [Store.follow]
    rfl
  let src : FilePath := .ofString "src"
  let types : FilePath := .ofString "src/types.d.ts"
  let entries : FileNode := .directory [("b.ts", .file []), ("types.d.ts", .file [])]
  have hsrc : sampleStore.find src = .ok entries :=
    Store.find_append hplain hopen hhere (rfl : sampleStore.root.at? ["src"] = _)
  have htypes : sampleStore.find types = .ok (.file []) :=
    Store.find_append hplain hopen hhere (rfl : sampleStore.root.at? ["src", "types.d.ts"] = _)
  have hsrcPath : sampleStore.hasPath src = true := by rw [Store.hasPath, hsrc]
  have htypesPath : sampleStore.hasPath types = true := by rw [Store.hasPath, htypes]
  have hbBelow : entries.Below [] "b.ts" [] := FileNode.below_nil_iff.2 rfl
  have htypesBelow : entries.Below [] "types.d.ts" [] := FileNode.below_nil_iff.2 rfl
  have hb : Selects sampleStore defaultPatterns 2097152 src (.ofString "src/b.ts") :=
    .below hsrc hbBelow ⟨by decide +kernel, by decide +kernel, by decide⟩
  constructor
  · obtain ⟨-, hfound⟩ := discover_selects hplain hopen sifts_default ["src"]
    obtain ⟨d, hd, -, hfiles, -⟩ := hfound (List.forall_mem_singleton.2 hsrcPath)
    refine ⟨d, hd, (hfiles _).2 ⟨src, List.mem_singleton_self _, hb⟩, fun hmem => ?_⟩
    obtain ⟨p, hp, hselects⟩ := (hfiles _).1 hmem
    obtain rfl : p = src := List.mem_singleton.1 hp
    -- the last pattern stands for the name
    have hpasses := (selects_below_iff hsrc htypesBelow).1 hselects
    have hmiss := (hpasses.notExcluded "*.d.ts" (by decide)).2
    exact absurd hmiss (by decide +kernel)
  · obtain ⟨-, hfound⟩ := discover_selects hplain hopen sifts_default ["src", "src/types.d.ts"]
    obtain ⟨d, hd, -, hfiles, -⟩ :=
      hfound (List.forall_mem_cons.2 ⟨hsrcPath, List.forall_mem_singleton.2 htypesPath⟩)
    refine ⟨d, hd, (hfiles _).2 ⟨src, List.mem_cons_self, hb⟩, (hfiles _).2 ⟨types, ?_, ?_⟩⟩
    · exact List.mem_cons_of_mem _ (List.mem_singleton_self _)
    · exact .given (by rw [Store.isFile, htypes]) (by decide +kernel)

end SignalLint
