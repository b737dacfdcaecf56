import SignalLint.Files.Walk
import SignalLint.Proofs.Code.FirstEntry
import SignalLint.Proofs.Files.Path
import SignalLint.Proofs.Files.Write

/-!
# What a walk finds

In a store without links, whose directories can all be opened, a path leads on name by name, so what
a walk below a directory finds can be told from the node of this directory alone: the files in it, at
any depth, that no skipped directory is above. The files themselves need not be such that they can
be opened.

* `FileNode.IsPlain` — no links, and every name in a directory counts.
* `Store.IsPassable` — every directory can be opened; then it can be told of every path whether it
  leads to something (`Store.IsPassable.probe_eq`).
* `Store.find_append` — to lead on from a path is to look further into the node that it leads to.
* `FileNode.height_lt_of_child?` — each step down uses up one level, and the limit of a walk
  is more than there are (`FileNode.height_le_of_at?`).
* `Store.mem_filesWithin_iff` — one walk of limited depth; `Store.mem_filesUnder_iff` is the walk
  that is done.
-/

namespace SignalLint

namespace FileNode

/-! ### Trees without links -/

/-- A tree of files and directories in which all names count and none leads up. -/
inductive IsPlain : FileNode → Prop where
  | file (content : Bytes) : IsPlain (.file content)
  | directory {entries : List (String × FileNode)}
      (names : ∀ e ∈ entries, ProperName e.1 ∧ e.1 ≠ "..")
      (nodes : ∀ e ∈ entries, IsPlain e.2) : IsPlain (.directory entries)

variable {n m : FileNode} {name : String} {place : List String}

theorem mem_entries_of_child? (h : n.child? name = some m) : (name, m) ∈ n.entries := by
  obtain ⟨e, he, rfl⟩ := Option.map_eq_some_iff.1 h
  have hname : e.1 = name := by simpa using List.find?_some he
  exact hname ▸ List.mem_of_find?_eq_some he

/-- There is something under every name in a directory. -/
theorem exists_child?_of_mem (h : name ∈ n.entries.map (·.1)) : ∃ m, n.child? name = some m := by
  cases hchild : n.child? name with
  | some m => exact ⟨m, rfl⟩
  | none => exact absurd h (Table.get?_eq_none_iff.1 hchild)

theorem exists_entries_of_child? (h : n.child? name = some m) : ∃ es, n = .directory es := by
  have hout := outline_eq_directory_of_child? h
  cases n with
  | directory es => exact ⟨es, rfl⟩
  | _ => cases hout

namespace IsPlain

theorem ne_link (h : n.IsPlain) (target : FilePath) : n ≠ .link target := by
  rintro rfl
  cases h

theorem of_child? (h : n.IsPlain) (hchild : n.child? name = some m) : m.IsPlain := by
  have hmem := mem_entries_of_child? hchild
  cases h with
  | file content => cases hmem
  | directory names nodes => exact nodes _ hmem

theorem name_of_child? (h : n.IsPlain) (hchild : n.child? name = some m) :
    ProperName name ∧ name ≠ ".." := by
  have hmem := mem_entries_of_child? hchild
  cases h with
  | file content => cases hmem
  | directory names nodes => exact names _ hmem

theorem of_at? (h : n.IsPlain) (hat : n.at? place = some m) : m.IsPlain := by
  -- the induction is on the place, one entry after the other
  induction place generalizing n with
  | nil => exact Option.some.inj hat ▸ h
  | cons name place ih =>
    obtain ⟨c, hc, hrest⟩ := Option.bind_eq_some_iff.1 hat
    exact ih (h.of_child? hc) hrest

/-- The names on a way through the tree count. -/
theorem names_of_at? (h : n.IsPlain) (hat : n.at? place = some m) :
    ∀ name ∈ place, ProperName name ∧ name ≠ ".." := by
  induction place generalizing n with
  | nil => exact List.forall_mem_nil _
  | cons name place ih =>
    obtain ⟨c, hc, hrest⟩ := Option.bind_eq_some_iff.1 hat
    exact List.forall_mem_cons.2 ⟨h.name_of_child? hc, ih (h.of_child? hc) hrest⟩

end IsPlain

/-! ### Heights -/

theorem height_le_entriesHeight {entries : List (String × FileNode)} {e : String × FileNode}
    (h : e ∈ entries) : e.2.height ≤ entriesHeight entries := by
  induction entries with
  | nil => cases h
  | cons f entries ih =>
    rw [entriesHeight]
    rcases List.mem_cons.1 h with rfl | h
    · exact Nat.le_max_left _ _
    · exact Nat.le_trans (ih h) (Nat.le_max_right _ _)

/-- What is in a directory is less high. -/
theorem height_lt_of_child? (h : n.child? name = some m) : m.height < n.height := by
  obtain ⟨es, rfl⟩ := exists_entries_of_child? h
  rw [height]
  exact Nat.lt_succ_of_le (height_le_entriesHeight (mem_entries_of_child? h))

theorem height_le_of_at? (h : n.at? place = some m) : m.height ≤ n.height := by
  induction place generalizing n with
  | nil => exact Option.some.inj h ▸ Nat.le_refl _
  | cons name place ih =>
    obtain ⟨c, hc, hrest⟩ := Option.bind_eq_some_iff.1 h
    exact Nat.le_trans (ih hrest) (Nat.le_of_lt (height_lt_of_child? hc))

/-! ### Files below a node -/

/-- A file that a walk from a node comes to: through directories that are not skipped. -/
structure Below (n : FileNode) (dirs : List String) (name : String) (content : Bytes) : Prop where
  stands : n.at? (dirs ++ [name]) = some (.file content)
  entered : ∀ d ∈ dirs, d ∉ skippedDirectories

theorem below_nil_iff {name : String} {content : Bytes} :
    Below n [] name content ↔ n.child? name = some (.file content) := by
  have hat : n.at? [name] = n.child? name := Option.bind_fun_some _
  constructor
  · exact fun h => hat.symm.trans h.stands
  · exact fun h => ⟨hat.trans h, List.forall_mem_nil _⟩

theorem below_cons_iff {d name : String} {dirs : List String} {content : Bytes} :
    Below n (d :: dirs) name content ↔
      d ∉ skippedDirectories ∧ ∃ m, n.child? d = some m ∧ Below m dirs name content := by
  -- the first directory is entered, and the rest is below its node
  have hat : n.at? (d :: dirs ++ [name]) = (n.child? d).bind (·.at? (dirs ++ [name])) := rfl
  constructor
  · rintro ⟨hstands, hentered⟩
    obtain ⟨hd, hdirs⟩ := List.forall_mem_cons.1 hentered
    obtain ⟨m, hm, hrest⟩ := Option.bind_eq_some_iff.1 (hat.symm.trans hstands)
    exact ⟨hd, m, hm, hrest, hdirs⟩
  · rintro ⟨hd, m, hm, hstands, hdirs⟩
    exact ⟨hat.trans (Option.bind_eq_some_iff.2 ⟨m, hm, hstands⟩),
      List.forall_mem_cons.2 ⟨hd, hdirs⟩⟩

/-- Only directories have something below them. -/
theorem Below.exists_entries {dirs : List String} {content : Bytes}
    (h : Below n dirs name content) : ∃ es, n = .directory es := by
  cases dirs with
  | nil => exact exists_entries_of_child? (below_nil_iff.1 h)
  | cons d dirs =>
    obtain ⟨-, _, hc, -⟩ := below_cons_iff.1 h
    exact exists_entries_of_child? hc

end FileNode

namespace Store

open FileNode

variable {s : Store} {p dir : FilePath} {n m : FileNode}

/-! ### Paths that lead on -/

/-- Every directory can be opened. -/
def IsPassable (s : Store) : Prop :=
  ∀ place es, s.root.at? place = some (.directory es) → s.refusal? place = none

/-- Whether a path leads to something. -/
def hasPath (s : Store) (p : FilePath) : Bool :=
  match s.find p with
  | .ok _ => true
  | .error _ => false

/-- Where every directory can be opened no way is barred, and one need only ask. -/
theorem IsPassable.follow_ne_refused (h : s.IsPassable) {create : Bool} {links : Nat}
    {place names : List String} (r : Refusal) :
    s.follow create links place names ≠ .error (.refused r) := by
  -- only an obstacle refuses, and here none does; the other cases end otherwise or go on
  fun_induction s.follow create links place names with
  | case2 links place name rest e hplace =>
    intro heq
    rw [Except.error.inj heq] at hplace
    obtain ⟨⟨es, hdir⟩, hrefusal⟩ := obstacle?_eq_refused_iff.1 hplace
    rw [h place es hdir] at hrefusal
    cases hrefusal
  | case3 links place rest hplace ih => exact ih
  | case7 place name rest hplace hname target hchild links start ih => exact ih
  | case8 links place name rest hplace hname val hnolink hchild ih => exact ih
  | _ =>
    intro heq
    cases heq

theorem IsPassable.probe_eq (h : s.IsPassable) (p : FilePath) :
    s.probe p = .ok (s.hasPath p) := by
  have hway : ∀ r, s.find p ≠ .error (.refused r) := by
    intro r
    have hres : s.resolve p ≠ .error (.refused r) := h.follow_ne_refused r
    unfold find locate
    cases hfound : s.resolve p with
    | error e =>
      rw [hfound] at hres
      exact fun heq => hres (congrArg _ (Except.error.inj heq))
    | ok place =>
      dsimp only [Except.map]
      cases s.root.at? place <;> exact nofun
  unfold probe hasPath
  cases hfind : s.find p with
  | ok n => rfl
  | error e =>
    cases e with
    | refused r => exact absurd hfind (hway r)
    | _ => rfl

/-- Without links a way can be gone in two parts. -/
theorem follow_append (hplain : s.root.IsPlain) {links : Nat}
    {place found front : List String} (h : s.follow false links place front = .ok found)
    (back : List String) :
    s.follow false links place (front ++ back) = s.follow false links found back := by
  -- the way is gone again, with the names behind waiting; links are where that would fail
  fun_induction s.follow false links place front with
  | case1 => rw [Except.ok.inj h, List.nil_append]
  | case2 => cases h
  | case3 links place rest hplace ih =>
    rw [List.cons_append, follow, hplace]
    simp only [if_true, ih h]
  | case4 links place name rest hplace hname hchild hcreate => cases hcreate
  | case5 => cases h
  | case6 => cases h
  | case7 place name rest hplace hname target hchild links start ih =>
    exact absurd rfl ((hplain.of_at? hchild).ne_link target)
  | case8 links place name rest hplace hname val hnolink hchild ih =>
    rw [List.cons_append, follow_cons_of_at? hplace hname hchild hnolink, ih h]

theorem find_eq_ok_iff :
    s.find p = .ok n ↔ ∃ place, s.resolve p = .ok place ∧ s.root.at? place = some n := by
  unfold find locate
  cases s.resolve p with
  | error e => exact ⟨nofun, fun ⟨_, h, _⟩ => nomatch h⟩
  | ok place =>
    simp only [Except.ok.injEq, exists_eq_left']
    cases s.root.at? place with
    | none => exact ⟨nofun, nofun⟩
    | some m =>
      exact ⟨fun h => congrArg _ (Except.ok.inj h), fun h => congrArg _ (Option.some.inj h)⟩

theorem isPlain_of_find (hplain : s.root.IsPlain) (h : s.find p = .ok n) : n.IsPlain := by
  obtain ⟨place, -, hat⟩ := find_eq_ok_iff.1 h
  exact hplain.of_at? hat

/-- **One name on** from a directory leads to the entry of that name. -/
theorem find_child (hplain : s.root.IsPlain) (hopen : s.IsPassable) {name : String}
    (h : s.find dir = .ok n) (hchild : n.child? name = some m) : s.find (dir.child name) = .ok m := by
  obtain ⟨place, hres, hat⟩ := find_eq_ok_iff.1 h
  have hn : n.IsPlain := hplain.of_at? hat
  obtain ⟨es, rfl⟩ := exists_entries_of_child? hchild
  have hat' : s.root.at? (place ++ [name]) = some m := by
    rw [at?_append, hat, Option.bind_some, at?, hchild]
    rfl
  refine find_eq_ok_iff.2 ⟨place ++ [name], ?_, hat'⟩
  have hplace : s.obstacle? place = none := obstacle?_eq_none_iff.2 ⟨⟨es, hat⟩, hopen place es hat⟩
  change s.follow false linkLimit (s.start dir) (dir.names ++ [name]) = _
  rw [follow_append hplain hres, follow_cons_of_at? hplace (hn.name_of_child? hchild).2 hat'
    (hn.of_child? hchild).ne_link, follow]

/-- **To lead on from a path** is to look further into what it leads to. -/
theorem find_append (hplain : s.root.IsPlain) (hopen : s.IsPassable) {names : List String}
    (h : s.find dir = .ok n) (hat : n.at? names = some m) :
    s.find ⟨dir.anchor, dir.names ++ names⟩ = .ok m := by
  -- one name after the other, each time from what is found so far
  induction names generalizing dir n with
  | nil =>
    rw [List.append_nil]
    exact Option.some.inj hat ▸ h
  | cons name names ih =>
    obtain ⟨c, hc, hrest⟩ := Option.bind_eq_some_iff.1 hat
    have hfound := ih (find_child hplain hopen h hc) hrest
    rwa [FilePath.child, List.append_assoc, List.singleton_append] at hfound

/-- Without links no path ends at one. -/
theorem isLink_eq_false (hplain : s.root.IsPlain) (p : FilePath) : s.isLink p = false := by
  unfold isLink
  cases s.resolve { p with names := p.names.dropLast } with
  | error e => rfl
  | ok place =>
    dsimp only
    split
    · rename_i target hat
      exact absurd rfl ((hplain.of_at? hat).ne_link target)
    · rfl

/-! ### Walks -/

theorem mem_sortedTexts {texts : List String} {text : String} :
    text ∈ sortedTexts texts ↔ text ∈ texts := List.mem_mergeSort

/-- Nothing that is barred has names in it, so opening makes no difference for them. -/
theorem list_eq (hopen : s.IsPassable) (h : s.find dir = .ok n) :
    s.list dir = n.entries.map (·.1) := by
  obtain ⟨place, hres, hat⟩ := find_eq_ok_iff.1 h
  unfold list opened locate
  simp only [hres, hat]
  cases n with
  | directory es => rw [hopen place es hat]
  | _ => cases s.refusal? place <;> rfl

theorem mem_list_iff (hopen : s.IsPassable) (h : s.find dir = .ok n) {name : String} :
    name ∈ s.list dir ↔ ∃ m, n.child? name = some m := by
  rw [list_eq hopen h]
  refine ⟨exists_child?_of_mem, fun ⟨m, hm⟩ => ?_⟩
  exact List.mem_map.2 ⟨_, mem_entries_of_child? hm, rfl⟩

theorem isDirectory_iff (h : s.find p = .ok n) :
    s.isDirectory p = true ↔ ∃ es, n = .directory es := by
  unfold isDirectory
  rw [h]
  cases n with
  | directory es => exact ⟨fun _ => ⟨es, rfl⟩, fun _ => rfl⟩
  | _ => exact ⟨nofun, nofun⟩

/-- **One level of a walk**: the files in the directory, and the walks below its directories. -/
theorem mem_filesWithin_succ_iff (hplain : s.root.IsPlain) (hopen : s.IsPassable)
    {followLinks : Bool} {depth : Nat} (h : s.find dir = .ok n) {f : FilePath} :
    f ∈ s.filesWithin followLinks (depth + 1) dir ↔
      (∃ name content, n.child? name = some (.file content) ∧ f = dir.child name) ∨
        ∃ name m, n.child? name = some m ∧ name ∉ skippedDirectories ∧
          (∃ es, m = .directory es) ∧ f ∈ s.filesWithin followLinks depth (dir.child name) := by
  have hplainDir : n.IsPlain := isPlain_of_find hplain h
  -- what the walk asks by a path is answered by the node that the path leads to
  have hnodir {name : String} {content : Bytes} (hchild : n.child? name = some (.file content)) :
      s.isDirectory (dir.child name) = false := by
    rw [← Bool.not_eq_true, isDirectory_iff (find_child hplain hopen h hchild)]
    exact nofun
  rw [filesWithin]
  simp only [List.mem_append, List.mem_map, List.mem_flatMap, List.mem_filter, mem_sortedTexts,
    mem_list_iff hopen h, isLink_eq_false hplain, Bool.not_false, Bool.or_true, Bool.and_true,
    Bool.and_eq_true, Bool.not_eq_true', List.contains_eq_mem, decide_eq_false_iff_not]
  constructor
  · rintro (⟨name, ⟨⟨m, hm⟩, hno⟩, rfl⟩ | ⟨-, ⟨name, ⟨⟨m, hm⟩, hdir, hentered⟩, rfl⟩, hf⟩)
    · refine Or.inl ⟨name, ?_⟩
      have hno : ¬ s.isDirectory (dir.child name) = true := by rw [hno]; exact nofun
      rw [isDirectory_iff (find_child hplain hopen h hm)] at hno
      cases m with
      | file content => exact ⟨content, hm, rfl⟩
      | link target => exact absurd rfl ((hplainDir.of_child? hm).ne_link target)
      | directory es => exact absurd ⟨es, rfl⟩ hno
    · have hes := (isDirectory_iff (find_child hplain hopen h hm)).1 hdir
      exact Or.inr ⟨name, m, hm, hentered, hes, hf⟩
  · rintro (⟨name, content, hm, rfl⟩ | ⟨name, m, hm, hentered, hes, hf⟩)
    · exact Or.inl ⟨name, ⟨⟨_, hm⟩, hnodir hm⟩, rfl⟩
    · have hdir := (isDirectory_iff (find_child hplain hopen h hm)).2 hes
      exact Or.inr ⟨_, ⟨name, ⟨⟨m, hm⟩, hdir, hentered⟩, rfl⟩, hf⟩

/-- **What a walk finds**, if it goes as deep as there are directories. -/
theorem mem_filesWithin_iff (hplain : s.root.IsPlain) (hopen : s.IsPassable)
    {followLinks : Bool} {depth : Nat} (h : s.find dir = .ok n) (hdepth : n.height ≤ depth)
    {f : FilePath} :
    f ∈ s.filesWithin followLinks depth dir ↔
      ∃ dirs name content, Below n dirs name content ∧
        f = ⟨dir.anchor, dir.names ++ (dirs ++ [name])⟩ := by
  induction depth generalizing dir n with
  | zero =>
    -- nothing is in a node without height
    have hnone : ∀ name m, n.child? name ≠ some m := fun name m hm =>
      absurd (height_lt_of_child? hm) (by omega)
    refine ⟨nofun, ?_⟩
    rintro ⟨_ | ⟨d, dirs⟩, name, content, hbelow, -⟩
    · exact absurd (below_nil_iff.1 hbelow) (hnone _ _)
    · obtain ⟨-, m, hm, -⟩ := below_cons_iff.1 hbelow
      exact absurd hm (hnone _ _)
  | succ depth ih =>
    rw [mem_filesWithin_succ_iff hplain hopen h]
    -- the walk below an entry is the one below its node
    have hwalk : ∀ {d m}, n.child? d = some m →
        (f ∈ s.filesWithin followLinks depth (dir.child d) ↔
          ∃ dirs name content, Below m dirs name content ∧
            f = ⟨dir.anchor, dir.names ++ (d :: dirs ++ [name])⟩) := by
      intro d m hm
      have hlow : m.height ≤ depth := by
        have := height_lt_of_child? hm
        omega
      rw [ih (find_child hplain hopen h hm) hlow]
      simp only [FilePath.child, List.append_assoc, List.cons_append, List.nil_append]
    constructor
    · rintro (⟨name, content, hm, rfl⟩ | ⟨d, m, hm, hentered, -, hf⟩)
      · exact ⟨[], name, content, below_nil_iff.2 hm, rfl⟩
      · obtain ⟨dirs, name, content, hbelow, rfl⟩ := (hwalk hm).1 hf
        exact ⟨d :: dirs, name, content, below_cons_iff.2 ⟨hentered, m, hm, hbelow⟩, rfl⟩
    · rintro ⟨_ | ⟨d, dirs⟩, name, content, hbelow, rfl⟩
      · exact Or.inl ⟨name, content, below_nil_iff.1 hbelow, rfl⟩
      · obtain ⟨hentered, m, hm, hbelow⟩ := below_cons_iff.1 hbelow
        exact Or.inr ⟨d, m, hm, hentered, hbelow.exists_entries,
          (hwalk hm).2 ⟨dirs, name, content, hbelow, rfl⟩⟩

/-- **What the walk below a directory finds.** -/
theorem mem_filesUnder_iff (hplain : s.root.IsPlain) (hopen : s.IsPassable)
    {followLinks : Bool} (h : s.find dir = .ok n) {f : FilePath} :
    f ∈ s.filesUnder followLinks dir ↔
      ∃ dirs name content, Below n dirs name content ∧
        f = ⟨dir.anchor, dir.names ++ (dirs ++ [name])⟩ := by
  refine mem_filesWithin_iff hplain hopen h ?_
  obtain ⟨place, -, hat⟩ := find_eq_ok_iff.1 h
  have hle : n.height ≤ s.root.height := height_le_of_at? hat
  unfold depthLimit linkLimit
  omega

/-- A walk below a directory in which there are no others does not go on. -/
theorem filesUnder_of_forall_file {followLinks : Bool}
    (h : ∀ name ∈ s.list dir, s.isDirectory (dir.child name) = false) :
    s.filesUnder followLinks dir = (sortedTexts (s.list dir)).map dir.child := by
  have hfiles : ∀ name ∈ sortedTexts (s.list dir), s.isDirectory (dir.child name) = false :=
    fun name hname => h name (mem_sortedTexts.1 hname)
  rw [filesUnder, depthLimit, filesWithin]
  dsimp only
  -- all names are taken as files, and none is entered
  rw [List.filter_eq_self.2 fun name hname => by rw [hfiles name hname, Bool.not_false],
    List.filter_eq_nil_iff.2 fun name hname => by simp [hfiles name hname], List.map_nil,
    List.flatMap_nil, List.append_nil]

end Store

end SignalLint
