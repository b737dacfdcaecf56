import Mathlib.Data.List.Basic
import SignalLint.Files.Store

/-!
# What writing a file changes

A path is resolved by looking at directories and links only, and a write to a file that is there
replaces its content and nothing else. So after such a write every path leads to the place that it
led to before, and reads what it read before, unless it leads to the very place that was written.
A file that is made is an entry more; at least its own path leads to it.

* `FileNode.outlineAt?` — what stands at a place, without the entries of directories;
  `FileNode.outlineAt?_put` says what putting a file changes of it.
* `Store.follow_of_isDirect` — where names lead if none is that of a link or leads up, which can be
  computed (`Store.isDirect`).
* `Store.follow_congr` — paths are resolved alike in stores that have nodes of the same kinds at the
  same places and the same of them barred (`Store.SameWays`).
* `Store.write_of_read` — a file that can be read is written over at its place (`Store.Overwritten`),
  unless that is sealed.
* `Store.read_write`, `Store.content?_write` — every path after a file is written over.
* `Store.exists_resolve_of_write` — what was written is there, also if the file was made for it.
* `Store.KeepsFiles` — the files that can be read stay ones that can be read, and so what was added
  to once can be added to again (`Store.exists_append_of_append`).
-/

namespace SignalLint

namespace FileNode

/-! ### Outlines -/

/-- What a node is, without what is in a directory. -/
inductive Outline where
  | file (content : Bytes)
  | link (target : FilePath)
  | directory
  deriving DecidableEq, Repr

/-- What reading finds there, if it is not kept from it. -/
def Outline.content : Option Refusal → Option Outline → Except FileProblem Bytes
  | _, none => .error .missing
  | some r, some _ => .error (.refused r)
  | none, some (.file content) => .ok content
  | none, some _ => .error .isADirectory

/-- The bytes of a file. -/
def Outline.bytes? : Outline → Option Bytes
  | file content => some content
  | _ => none

/-- The outline of a node. -/
def outline : FileNode → Outline
  | file content => .file content
  | link target => .link target
  | directory _ => .directory

/-- What stands at a place, in outline. -/
def outlineAt? (n : FileNode) (place : List String) : Option Outline := (n.at? place).map outline

theorem outlineAt?_cons (n : FileNode) (name : String) (place : List String) :
    n.outlineAt? (name :: place) = (n.child? name).bind (·.outlineAt? place) := by
  rw [outlineAt?, at?, Option.map_bind]
  rfl

/-- Only a directory has entries. -/
theorem outline_eq_directory_of_child? {n m : FileNode} {name : String}
    (h : n.child? name = some m) : n.outline = .directory := by
  cases n with
  | directory entries => rfl
  | file content => cases h
  | link target => cases h

theorem child?_put_cons (content n : FileNode) (name other : String) (place : List String) :
    (put content (name :: place) n).child? other =
      if other = name then some (put content place ((n.child? name).getD (directory [])))
      else n.child? other :=
  Table.get?_insert ⟨n.entries⟩ name other _

/-- There is room for a file: there is one already, or nothing in a directory. -/
def HasRoom (n : FileNode) (place : List String) : Prop :=
  (∃ old, n.outlineAt? place = some (.file old)) ∨
    n.outlineAt? place = none ∧ n.outlineAt? place.dropLast = some .directory

theorem HasRoom.ne_directory {n : FileNode} {place : List String} (h : n.HasRoom place) :
    n.outlineAt? place ≠ some .directory := by
  rcases h with ⟨old, h⟩ | ⟨h, -⟩ <;> rw [h] <;> exact nofun

theorem HasRoom.ne_link {n : FileNode} {place : List String} (h : n.HasRoom place)
    (target : FilePath) : n.outlineAt? place ≠ some (.link target) := by
  rcases h with ⟨old, h⟩ | ⟨h, -⟩ <;> rw [h] <;> exact nofun

/-- Room below an entry is room in it, unless the entry is to be made. -/
theorem HasRoom.cons {n : FileNode} {name : String} {place : List String}
    (h : n.HasRoom (name :: place)) :
    (∃ m, n.child? name = some m ∧ m.HasRoom place) ∨
      n.child? name = none ∧ place = [] ∧ n.outline = .directory := by
  -- an entry of this name has the room in it; without one the file is to be made, and here
  cases hm : n.child? name with
  | some m =>
    refine Or.inl ⟨m, rfl, ?_⟩
    rcases h with ⟨old, h⟩ | ⟨hnone, hparent⟩
    · rw [outlineAt?_cons, hm] at h
      exact Or.inl ⟨old, h⟩
    · rw [outlineAt?_cons, hm] at hnone
      cases place with
      | nil => cases hnone
      | cons x place =>
        rw [List.dropLast_cons_cons, outlineAt?_cons, hm] at hparent
        exact Or.inr ⟨hnone, hparent⟩
  | none =>
    refine Or.inr ⟨rfl, ?_⟩
    rcases h with ⟨old, h⟩ | ⟨-, hparent⟩
    · rw [outlineAt?_cons, hm] at h
      cases h
    · cases place with
      | nil => exact ⟨rfl, Option.some.inj hparent⟩
      | cons x place =>
        rw [List.dropLast_cons_cons, outlineAt?_cons, hm] at hparent
        cases hparent

/-- **Putting a file where there is room** changes what stands at this place, and what stands at
every other place at most in the entries of directories. -/
theorem outlineAt?_put {n : FileNode} {place : List String} (new : Bytes) (h : n.HasRoom place)
    (other : List String) : (put (file new) place n).outlineAt? other =
      if other = place then some (.file new) else n.outlineAt? other := by
  -- the induction is on the place, which `put` goes down; other places leave it at some name
  induction place generalizing n other with
  | nil =>
    rcases h with ⟨old, h⟩ | ⟨h, -⟩
    · cases n with
      | file content => cases other <;> rfl
      | link target => cases h
      | directory entries => cases h
    · cases h
  | cons name place ih =>
    cases other with
    | nil =>
      -- the tree itself was a directory, since it has or gets an entry, and it still is one
      change some Outline.directory = some n.outline
      rcases h.cons with ⟨m, hm, -⟩ | ⟨-, -, hdir⟩
      · rw [outline_eq_directory_of_child? hm]
      · rw [hdir]
    | cons x other =>
      rw [outlineAt?_cons, outlineAt?_cons, child?_put_cons]
      -- a place below another entry has not been touched
      by_cases hx : x = name
      · subst hx
        rw [if_pos rfl, Option.bind_some]
        rcases h.cons with ⟨m, hm, hroom⟩ | ⟨hm, rfl, -⟩
        · rw [hm, Option.getD_some, Option.bind_some, ih hroom]
          simp only [List.cons.injEq, true_and]
        · rw [hm]
          cases other with
          | nil => rw [if_pos rfl]; rfl
          | cons y other => rw [if_neg (by simp)]; rfl
      · rw [if_neg hx, if_neg fun heq => hx (List.cons.inj heq).1]

/-- A place that a file was put at has it, whatever was there. -/
theorem at?_put_self (content n : FileNode) (place : List String) :
    (put content place n).at? place = some content := by
  induction place generalizing n with
  | nil => rfl
  | cons name place ih =>
    rw [at?, child?_put_cons, if_pos rfl, Option.bind_some]
    exact ih _

/-- Two nodes are alike for whoever passes them: both are missing, both are files, both are links to
the same path, or both are directories. -/
inductive SameKind : Option FileNode → Option FileNode → Prop where
  | none : SameKind none none
  | file (c d : Bytes) : SameKind (some (.file c)) (some (.file d))
  | link (target : FilePath) : SameKind (some (.link target)) (some (.link target))
  | directory (es fs : List (String × FileNode)) :
      SameKind (some (.directory es)) (some (.directory fs))

namespace SameKind

variable {x y : Option FileNode}

theorem of_outline_eq (h : x.map outline = y.map outline) : SameKind x y := by
  rcases x with _ | _ | _ | _ <;> rcases y with _ | _ | _ | _ <;> cases h <;> constructor

theorem eq_none (h : SameKind x y) (hx : x = .none) : y = .none := by
  subst hx
  cases h
  rfl

theorem eq_link {target : FilePath} (h : SameKind x y) (hx : x = some (.link target)) :
    y = some (.link target) := by
  subst hx
  cases h
  rfl

theorem exists_eq_directory {es : List (String × FileNode)} (h : SameKind x y)
    (hx : x = some (.directory es)) : ∃ fs, y = some (.directory fs) := by
  subst hx
  cases h with
  | directory _ fs => exact ⟨fs, rfl⟩

theorem exists_eq_file {c : Bytes} (h : SameKind x y) (hx : x = some (.file c)) :
    ∃ d, y = some (.file d) := by
  subst hx
  cases h with
  | file _ d => exact ⟨d, rfl⟩

end SameKind

/-- Two trees have nodes of the same kind at every place. -/
def SameShape (m n : FileNode) : Prop := ∀ place, SameKind (m.at? place) (n.at? place)

theorem sameShape_put {n : FileNode} {place : List String} {old : Bytes} (new : Bytes)
    (h : n.outlineAt? place = some (.file old)) : SameShape n (put (file new) place n) := by
  intro other
  have hput := outlineAt?_put new (Or.inl ⟨old, h⟩) other
  by_cases heq : other = place
  · rw [if_pos heq] at hput
    obtain ⟨x, hx, hout⟩ := Option.map_eq_some_iff.1 hput
    obtain ⟨y, hy, hout'⟩ := Option.map_eq_some_iff.1 (heq ▸ h)
    rw [hx, hy]
    cases x <;> cases hout
    cases y <;> cases hout'
    exact .file _ _
  · rw [if_neg heq] at hput
    exact .of_outline_eq hput.symm

end FileNode

namespace Store

open FileNode

variable {s t : Store} {n : FileNode} {create : Bool} {links : Nat} {place : List String}
  {names : List String}

/-! ### Ways through a store -/

/-- A way leads on from directories that can be opened. -/
theorem obstacle?_eq_none_iff : s.obstacle? place = none ↔
    (∃ es, s.root.at? place = some (.directory es)) ∧ s.refusal? place = none := by
  unfold obstacle?
  rcases s.root.at? place with _ | _ | _ | es <;> simp

/-- What bars a way is a directory that cannot be opened. -/
theorem obstacle?_eq_refused_iff {r : Refusal} : s.obstacle? place = some (.refused r) ↔
    (∃ es, s.root.at? place = some (.directory es)) ∧ s.refusal? place = some r := by
  unfold obstacle?
  rcases s.root.at? place with _ | _ | _ | es <;> simp

/-- A name that leads on, to something that is no link. -/
theorem follow_cons_of_at? {name : String} (hplace : s.obstacle? place = none) (hname : name ≠ "..")
    (hchild : s.root.at? (place ++ [name]) = some n) (hnolink : ∀ target, n ≠ .link target) :
    s.follow create links place (name :: names) = s.follow create links (place ++ [name]) names := by
  rw [follow, hplace]
  simp only [if_neg hname, hchild]

/-- A name of which there is nothing leads nowhere. -/
theorem follow_cons_of_missing {name : String} (hplace : s.obstacle? place = none)
    (hname : name ≠ "..") (hmissing : s.root.at? (place ++ [name]) = none) :
    s.follow false links place (name :: names) = .error .missing := by
  rw [follow, hplace]
  simp only [if_neg hname, hmissing, Bool.false_and, Bool.false_eq_true, if_false]

/-- Whether names lead on one by one, from directories that can be opened, and none of them is that
of a link or leads up. -/
def isDirect (s : Store) : (place names : List String) → Bool
  | _, [] => true
  | place, name :: names =>
    let isPassed : Bool :=
      match s.root.at? (place ++ [name]) with
      | some (.file _) | some (.directory _) => true
      | _ => false
    (s.obstacle? place).isNone && name != ".." && isPassed && isDirect s (place ++ [name]) names

/-- **A direct way** leads to the place that has its names. -/
theorem follow_of_isDirect (h : s.isDirect place names = true) :
    s.follow create links place names = .ok (place ++ names) := by
  -- the induction is on the names, and the place moves on with them
  induction names generalizing place with
  | nil => rw [follow, List.append_nil]
  | cons name names ih =>
    simp only [isDirect, Bool.and_eq_true, Option.isNone_iff_eq_none, bne_iff_ne, ne_eq] at h
    obtain ⟨⟨⟨hplace, hname⟩, hpassed⟩, hrest⟩ := h
    rw [List.append_cons, ← ih hrest]
    cases hchild : s.root.at? (place ++ [name]) with
    | none => simp [hchild] at hpassed
    | some n =>
      refine follow_cons_of_at? hplace hname hchild fun target hlink => ?_
      simp [hchild, hlink] at hpassed

theorem resolve_of_isDirect {p : FilePath} (h : s.isDirect (s.start p) p.names = true) :
    s.resolve p = .ok (s.start p ++ p.names) := follow_of_isDirect h

theorem find_of_isDirect {p : FilePath} {n : FileNode} (h : s.isDirect (s.start p) p.names = true)
    (hplace : s.root.at? (s.start p ++ p.names) = some n) : s.find p = .ok n := by
  rw [find, locate, resolve_of_isDirect h]
  dsimp only
  rw [hplace]
  rfl

/-- A path of one name leads to nothing if there is nothing of this name where it starts. -/
theorem find_of_missing {p : FilePath} {name : String} (hnames : p.names = [name])
    (hstart : s.obstacle? (s.start p) = none) (hname : name ≠ "..")
    (hmissing : s.root.at? (s.start p ++ [name]) = none) : s.find p = .error .missing := by
  rw [find, locate, resolve, hnames, follow_cons_of_missing hstart hname hmissing]
  rfl

theorem probe_of_find_missing {p : FilePath} (h : s.find p = .error .missing) :
    s.probe p = .ok false := by
  rw [probe, h]

/-- Two stores are alike for whoever passes them. -/
structure SameWays (s t : Store) : Prop where
  shape : SameShape s.root t.root
  barred : t.barred = s.barred

theorem obstacle?_congr (h : SameWays s t) (place : List String) :
    t.obstacle? place = s.obstacle? place := by
  have hkind := h.shape place
  have hrefusal : t.refusal? place = s.refusal? place := by rw [refusal?, refusal?, h.barred]
  unfold obstacle?
  rw [hrefusal]
  generalize s.root.at? place = x at hkind ⊢
  generalize t.root.at? place = y at hkind ⊢
  cases hkind <;> rfl

/-- **Contents do not matter for the way.** -/
theorem follow_congr (h : SameWays s t) :
    s.follow create links place names = t.follow create links place names := by
  -- the recursion of the way is the induction; each test has the same answer in the other store
  fun_induction s.follow create links place names with
  | case1 => rw [follow]
  | case2 links place name rest e hplace =>
    rw [follow, obstacle?_congr h, hplace]
  | case3 links place rest hplace ih =>
    rw [follow, obstacle?_congr h, hplace]
    simp only [if_true, ih]
  | case4 links place name rest hplace hname hchild hcreate =>
    have hchild' := (h.shape (place ++ [name])).eq_none hchild
    rw [follow, obstacle?_congr h, hplace]
    simp only [if_neg hname, hchild', hcreate, if_true]
  | case5 links place name rest hplace hname hchild hcreate =>
    have hchild' := (h.shape (place ++ [name])).eq_none hchild
    rw [follow, obstacle?_congr h, hplace]
    simp only [if_neg hname, hchild', if_neg hcreate]
  | case6 place name rest hplace hname target hchild =>
    have hchild' := (h.shape (place ++ [name])).eq_link hchild
    rw [follow, obstacle?_congr h, hplace]
    simp only [if_neg hname, hchild']
  | case7 place name rest hplace hname target hchild links start ih =>
    have hchild' := (h.shape (place ++ [name])).eq_link hchild
    rw [follow, obstacle?_congr h, hplace]
    simp only [if_neg hname, hchild']
    exact ih
  | case8 links place name rest hplace hname val hnolink hchild ih =>
    rw [follow, obstacle?_congr h, hplace]
    simp only [if_neg hname]
    cases val with
    | link target => exact absurd rfl (hnolink target)
    | file content =>
      obtain ⟨d, hchild'⟩ := (h.shape (place ++ [name])).exists_eq_file hchild
      simp only [hchild', ih]
    | directory es =>
      obtain ⟨fs, hchild'⟩ := (h.shape (place ++ [name])).exists_eq_directory hchild
      simp only [hchild', ih]

/-- A way that is there is also the way on which something would be made. -/
theorem follow_create {found : List String} (h : s.follow false links place names = .ok found) :
    s.follow true links place names = .ok found := by
  -- a way that ends never comes to the one test that the two differ in
  fun_induction s.follow false links place names with
  | case1 => rw [follow, h]
  | case2 => cases h
  | case3 links place rest hplace ih =>
    rw [follow, hplace]
    simp only [if_true, ih h]
  | case4 links place name rest hplace hname hchild hcreate => cases hcreate
  | case5 => cases h
  | case6 => cases h
  | case7 place name rest hplace hname target hchild links start ih =>
    rw [follow, hplace]
    simp only [if_neg hname, hchild]
    exact ih h
  | case8 links place name rest hplace hname val hnolink hchild ih =>
    rw [follow_cons_of_at? hplace hname hchild hnolink, ih h]

theorem at?_append (n : FileNode) (place rest : List String) :
    n.at? (place ++ rest) = (n.at? place).bind (·.at? rest) := by
  induction place generalizing n with
  | nil => rfl
  | cons name place ih =>
    rw [List.cons_append, at?, at?, Option.bind_assoc]
    exact congrArg _ (funext fun m => ih m)

/-- What is above something is a directory, up to the tree itself. -/
theorem outlineAt?_eq_directory {rest : List String} {x : FileNode}
    (h : n.at? (place ++ rest) = some x) (hrest : rest ≠ []) :
    n.outlineAt? place = some .directory := by
  obtain ⟨m, hm, hx⟩ := Option.bind_eq_some_iff.1 (at?_append n place rest ▸ h)
  cases rest with
  | nil => exact absurd rfl hrest
  | cons name rest =>
    obtain ⟨c, hc, -⟩ := Option.bind_eq_some_iff.1 hx
    rw [outlineAt?, hm]
    exact congrArg some (outline_eq_directory_of_child? hc)

/-- **A way on which something may be made** ends at a directory, or where there is room for a
file. -/
theorem hasRoom_of_follow {found : List String}
    (hstart : s.root.HasRoom place ∨ s.root.outlineAt? place = some .directory)
    (h : s.follow create links place names = .ok found) :
    s.root.HasRoom found ∨ s.root.outlineAt? found = some .directory := by
  -- the way stands at a directory or at its last file; only its last name may be missing
  fun_induction s.follow create links place names with
  | case1 => exact Except.ok.inj h ▸ hstart
  | case2 => cases h
  | case3 links place rest hplace ih =>
    obtain ⟨⟨es, hdir⟩, -⟩ := obstacle?_eq_none_iff.1 hplace
    refine ih (Or.inr ?_) h
    -- above the root there is only the root
    rcases List.eq_nil_or_concat place with rfl | ⟨init, last, rfl⟩
    · rw [outlineAt?, List.dropLast_nil, hdir]
      rfl
    · rw [List.concat_eq_append] at hdir ⊢
      rw [List.dropLast_concat]
      exact outlineAt?_eq_directory hdir (List.cons_ne_nil _ _)
  | case4 links place name rest hplace hname hchild hcreate =>
    obtain ⟨⟨es, hdir⟩, -⟩ := obstacle?_eq_none_iff.1 hplace
    obtain rfl := Except.ok.inj h
    refine Or.inl (Or.inr ⟨by rw [outlineAt?, hchild]; rfl, ?_⟩)
    rw [List.dropLast_concat, outlineAt?, hdir]
    rfl
  | case5 => cases h
  | case6 => cases h
  | case7 place name rest hplace hname target hchild links start ih =>
    -- a link is followed from the root, or from the directory that it stands in
    refine ih (Or.inr ?_) h
    dsimp only [start]
    split
    · exact outlineAt?_eq_directory hchild (List.cons_ne_nil _ _)
    · exact outlineAt?_eq_directory ((List.nil_append _).symm ▸ hchild) (by simp)
  | case8 links place name rest hplace hname val hnolink hchild ih =>
    refine ih ?_ h
    rw [HasRoom, outlineAt?, hchild]
    cases val with
    | link target => exact absurd rfl (hnolink target)
    | file content => exact Or.inl (Or.inl ⟨content, rfl⟩)
    | directory es => exact Or.inr rfl

/-- **The way to a file that was put at its end** leads there. -/
theorem follow_put {found : List String} (new : Bytes) (hroom : s.root.HasRoom found)
    (h : s.follow true links place names = .ok found) :
    { s with root := put (.file new) found s.root }.follow false links place names = .ok found := by
  -- what the way passes are directories and links, and there is none of these where a file is put
  have hother : ∀ {other}, other ≠ found →
      SameKind (s.root.at? other) ((put (.file new) found s.root).at? other) := fun {other} hne =>
    .of_outline_eq ((outlineAt?_put new hroom other).trans (if_neg hne)).symm
  have hpasses : ∀ {other}, s.obstacle? other = none →
      { s with root := put (.file new) found s.root }.obstacle? other = none := by
    intro other hfree
    obtain ⟨⟨es, hes⟩, hrefusal⟩ := obstacle?_eq_none_iff.1 hfree
    refine obstacle?_eq_none_iff.2 ⟨(hother fun heq => hroom.ne_directory ?_).exists_eq_directory hes,
      hrefusal⟩
    rw [← heq, outlineAt?, hes]
    rfl
  have hself := at?_put_self (.file new) s.root found
  generalize htree : { s with root := put (.file new) found s.root } = t at hpasses ⊢
  have hroot : put (.file new) found s.root = t.root := by rw [← htree]
  rw [hroot] at hself
  simp only [hroot] at hother
  fun_induction s.follow true links place names with
  | case1 => rw [follow, h]
  | case2 => cases h
  | case3 links place rest hplace ih =>
    rw [follow, hpasses hplace]
    simp only [if_true, ih h]
  | case4 links place name rest hplace hname hchild hcreate =>
    obtain rfl := Except.ok.inj h
    have hrest : rest = [] := by simpa using hcreate
    rw [follow, hpasses hplace]
    simp only [if_neg hname, hself, hrest]
    rw [follow]
  | case5 => cases h
  | case6 => cases h
  | case7 place name rest hplace hname target hchild links start ih =>
    have hne : place ++ [name] ≠ found := by
      intro heq
      refine hroom.ne_link target ?_
      rw [← heq, outlineAt?, hchild]
      rfl
    rw [follow, hpasses hplace]
    simp only [if_neg hname, (hother hne).eq_link hchild]
    exact ih h
  | case8 links place name rest hplace hname val hnolink hchild ih =>
    rw [follow, hpasses hplace]
    simp only [if_neg hname]
    by_cases heq : place ++ [name] = found
    · simp only [heq, hself]
      exact heq ▸ ih h
    · cases val with
      | link target => exact absurd rfl (hnolink target)
      | file content =>
        obtain ⟨d, hchild'⟩ := (hother heq).exists_eq_file hchild
        simp only [hchild', ih h]
      | directory es =>
        obtain ⟨fs, hchild'⟩ := (hother heq).exists_eq_directory hchild
        simp only [hchild', ih h]

/-! ### Reading and writing -/

variable {s' : Store} {p q : FilePath} {old new : Bytes}

/-- The bytes of the file that a path leads to, whether it can be opened or not. -/
def content? (s : Store) (p : FilePath) : Option Bytes :=
  match s.find p with
  | .ok (.file content) => some content
  | _ => none

theorem exists_content?_of_isFile (h : s.isFile p = true) : ∃ bytes, s.content? p = some bytes := by
  unfold isFile at h
  cases hfind : s.find p with
  | error e =>
    rw [hfind] at h
    cases h
  | ok n =>
    rw [hfind] at h
    cases n with
    | file content => exact ⟨content, by rw [content?, hfind]⟩
    | _ => cases h

/-- Reading looks at what stands at the place that the path leads to. -/
theorem read_eq (s : Store) (p : FilePath) : s.read p =
    (s.resolve p).bind fun place =>
      Outline.content (s.refusal? place) (s.root.outlineAt? place) := by
  unfold read opened locate
  cases s.resolve p with
  | error e => rfl
  | ok place =>
    simp only [Except.bind, outlineAt?]
    rcases s.root.at? place with _ | _ | _ | _ <;> cases hrefusal : s.refusal? place <;>
      simp [hrefusal, outline, Outline.content]

theorem content?_eq (s : Store) (p : FilePath) : s.content? p =
    (s.resolve p).toOption.bind fun place => (s.root.outlineAt? place).bind Outline.bytes? := by
  unfold content? find locate
  cases s.resolve p with
  | error e => rfl
  | ok place =>
    simp only [Except.toOption, Option.bind_some, outlineAt?]
    rcases s.root.at? place with _ | _ | _ | _ <;> rfl

theorem read_eq_ok_iff : s.read p = .ok old ↔ ∃ place, s.resolve p = .ok place ∧
    s.refusal? place = none ∧ s.root.outlineAt? place = some (.file old) := by
  rw [read_eq]
  cases s.resolve p with
  | error e => simp [Except.bind]
  | ok place =>
    simp only [Except.bind, Except.ok.injEq, exists_eq_left']
    rcases s.root.outlineAt? place with _ | _ | _ | _ <;> cases s.refusal? place <;>
      simp [Outline.content]

/-- A file on a direct way is read unless it is barred. -/
theorem read_of_isDirect (h : s.isDirect (s.start p) p.names = true)
    (hopen : s.refusal? (s.start p ++ p.names) = none)
    (hfile : s.root.at? (s.start p ++ p.names) = some (.file old)) : s.read p = .ok old :=
  read_eq_ok_iff.2 ⟨_, resolve_of_isDirect h, hopen, by rw [outlineAt?, hfile]; rfl⟩

/-- What can be read is there. -/
theorem content?_of_read (h : s.read p = .ok old) : s.content? p = some old := by
  obtain ⟨place, hres, -, hfile⟩ := read_eq_ok_iff.1 h
  rw [content?_eq, hres]
  simp only [Except.toOption, Option.bind_some, hfile, Outline.bytes?]

/-- It cannot be told whether a path leads to something if the way there is barred. -/
theorem probe_eq_error_iff {r : Refusal} :
    s.probe p = .error r ↔ s.find p = .error (.refused r) := by
  unfold probe
  cases s.find p with
  | ok n => exact ⟨nofun, nofun⟩
  | error e => cases e <;> simp

/-- What can be read is found when somebody looks for it. -/
theorem probe_of_read (h : s.read p = .ok old) : s.probe p = .ok true := by
  have hcontent := content?_of_read h
  unfold content? at hcontent
  unfold probe
  cases hfind : s.find p with
  | ok n => rfl
  | error e =>
    rw [hfind] at hcontent
    cases hcontent

/-- A file is there, whether it can be opened or not. -/
theorem probe_of_isFile (h : s.isFile p = true) : s.probe p = .ok true := by
  unfold isFile at h
  unfold probe
  cases hfind : s.find p with
  | ok n => rfl
  | error e =>
    rw [hfind] at h
    cases h

/-- **What a write does**: it puts the file at the place that its path leads to, if nothing locks
this place. -/
theorem write_eq_ok_iff : s.write p new = .ok s' ↔
    ∃ place, s.follow true linkLimit (s.start p) p.names = .ok place ∧
      s.root.outlineAt? place ≠ some .directory ∧ s.lock? place = none ∧
      s' = { s with root := FileNode.put (.file new) place s.root } := by
  unfold write outlineAt?
  cases s.follow true linkLimit (s.start p) p.names with
  | error e => simp
  | ok place =>
    simp only [Except.ok.injEq, exists_eq_left']
    rcases s.root.at? place with _ | _ | _ | _ <;> cases s.lock? place <;>
      simp [outline, eq_comm]

/-- A place that is not locked is neither barred nor sealed. -/
theorem lock?_eq_none_iff : s.lock? place = none ↔ s.refusal? place = none ∧ s.seal? place = none ∧
    (s.root.at? place = none → s.seal? place.dropLast = none) := by
  unfold lock?
  rw [Option.or_eq_none_iff, Option.or_eq_none_iff, and_assoc]
  cases s.root.at? place <;> simp

/-- One store is the other with the file at a place written over. -/
structure Overwritten (s : Store) (place : List String) (new : Bytes) (s' : Store) : Prop where
  outline : ∀ other, s'.root.outlineAt? other =
    if other = place then some (.file new) else s.root.outlineAt? other
  resolve : ∀ q, s'.resolve q = s.resolve q
  barred : s'.barred = s.barred
  sealed : s'.sealed = s.sealed

/-- **Writing over a file** that can be read: it is written over at the place that its path leads to,
unless this place is sealed. -/
theorem write_of_read (h : s.read p = .ok old) (new : Bytes) :
    ∃ place, s.resolve p = .ok place ∧ s.root.outlineAt? place = some (.file old) ∧
      ((∃ s', s.write p new = .ok s' ∧ s.Overwritten place new s') ∨
        ∃ r, s.seal? place = some r ∧ s.write p new = .error (.refused r)) := by
  obtain ⟨place, hres, hrefusal, hfile⟩ := read_eq_ok_iff.1 h
  refine ⟨place, hres, hfile, ?_⟩
  obtain ⟨x, hx, hout⟩ := Option.map_eq_some_iff.1 hfile
  -- where a file stands nothing is made, so only its own place can be sealed
  have hlock : s.lock? place = s.seal? place := by
    simp only [lock?, hx, hrefusal, Option.isNone_some, Bool.false_eq_true, if_false,
      Option.none_or, Option.or_none]
  rw [write, follow_create hres]
  simp only [hx, hlock]
  cases x <;> cases hout
  cases hseal : s.seal? place with
  | some r => exact Or.inr ⟨r, rfl, rfl⟩
  | none =>
    refine Or.inl ⟨_, rfl, outlineAt?_put new (Or.inl ⟨old, hfile⟩), fun q => ?_, rfl, rfl⟩
    -- a file in place of a file leaves all ways as they are
    have hways : SameWays s { s with root := put (.file new) place s.root } :=
      ⟨sameShape_put new hfile, rfl⟩
    exact (follow_congr hways).symm

theorem overwritten_of_write (h : s.read p = .ok old) (hw : s.write p new = .ok s') :
    ∃ place, s.resolve p = .ok place ∧ s.Overwritten place new s' := by
  obtain ⟨place, hres, -, ⟨s'', hw', hover⟩ | ⟨r, -, hw'⟩⟩ := write_of_read h new
  · obtain rfl := Except.ok.inj (hw.symm.trans hw')
    exact ⟨place, hres, hover⟩
  · cases hw.symm.trans hw'

/-- Whoever asks for what stands at the end of a path is told of the file that was written over, if
the path leads there, and otherwise what he was told before. -/
theorem Overwritten.outline_eq {place found : List String} (h : s.Overwritten place new s')
    (hres : s.resolve q = .ok found) : s'.root.outlineAt? found =
      if s.resolve q = .ok place then some (.file new) else s.root.outlineAt? found := by
  rw [h.outline, hres]
  simp only [Except.ok.injEq]

/-- **After a file is written over**, the paths that lead to it read what was written, and all
others what they read before. -/
theorem read_write (h : s.read p = .ok old) (hw : s.write p new = .ok s') (q : FilePath) :
    s'.read q = if s.resolve q = s.resolve p then .ok new else s.read q := by
  obtain ⟨place, hres, hrefusal, -⟩ := read_eq_ok_iff.1 h
  obtain ⟨place', hres', hover⟩ := overwritten_of_write h hw
  obtain rfl := Except.ok.inj (hres.symm.trans hres')
  have hrefusals : s'.refusal? = s.refusal? := by
    funext other
    rw [refusal?, refusal?, hover.barred]
  rw [read_eq, read_eq, hover.resolve, hrefusals, hres]
  -- where a path led before it leads now, and there stands what was written or what was before
  cases hq : s.resolve q with
  | error e => rfl
  | ok found =>
    simp only [Except.bind, hover.outline_eq hq, hq, Except.ok.injEq]
    split
    · rename_i heq
      rw [heq, hrefusal]
      rfl
    · rfl

/-- The same of what is there, whether it can be opened or not. -/
theorem content?_write (h : s.read p = .ok old) (hw : s.write p new = .ok s') (q : FilePath) :
    s'.content? q = if s.resolve q = s.resolve p then some new else s.content? q := by
  obtain ⟨place, hres, hover⟩ := overwritten_of_write h hw
  rw [content?_eq, content?_eq, hover.resolve, hres]
  cases hq : s.resolve q with
  | error e => rfl
  | ok found =>
    simp only [Except.toOption, Option.bind_some, hover.outline_eq hq, hq, Except.ok.injEq]
    split <;> rfl

/-! ### Files that are made -/

/-- **What was written is there**, also if the file was made for it, and it can be written again. -/
theorem exists_resolve_of_write (hw : s.write p new = .ok s') : ∃ place,
    s'.resolve p = .ok place ∧ s'.refusal? place = none ∧ s'.seal? place = none ∧
      s'.root.outlineAt? place = some (.file new) := by
  obtain ⟨place, hfollow, hdir, hlock, rfl⟩ := write_eq_ok_iff.1 hw
  obtain ⟨hrefusal, hseal, -⟩ := lock?_eq_none_iff.1 hlock
  refine ⟨place, ?_, hrefusal, hseal, by rw [outlineAt?, at?_put_self]; rfl⟩
  change follow { s with root := _ } false linkLimit (s.start p) p.names = .ok place
  cases hnames : p.names with
  | nil =>
    -- a path without names leads to where it starts, whatever is there
    rw [hnames, follow] at hfollow
    rw [follow, hfollow]
  | cons name rest =>
    have hstart : s.root.outlineAt? (s.start p) = some .directory := by
      rw [hnames, follow] at hfollow
      split at hfollow
      · cases hfollow
      · rename_i hplace
        obtain ⟨⟨es, hes⟩, -⟩ := obstacle?_eq_none_iff.1 hplace
        rw [outlineAt?, hes]
        rfl
    rw [← hnames]
    rcases hasRoom_of_follow (Or.inr hstart) hfollow with hroom | hfound
    · exact follow_put new hroom hfollow
    · exact absurd hfound hdir

theorem read_write_self (hw : s.write p new = .ok s') : s'.read p = .ok new := by
  obtain ⟨place, hres, hrefusal, -, hfile⟩ := exists_resolve_of_write hw
  exact read_eq_ok_iff.2 ⟨place, hres, hrefusal, hfile⟩

/-! ### Files that stay -/

/-- Paths are told and resolved as before, the same can be opened and changed, and those that lead to
files still do. -/
structure KeepsFiles (s s' : Store) : Prop where
  absolute : ∀ q, s'.absolute q = s.absolute q
  resolve : ∀ q, s'.resolve q = s.resolve q
  sealed : s'.sealed = s.sealed
  read : ∀ q bytes, s.read q = .ok bytes → ∃ bytes', s'.read q = .ok bytes'

namespace KeepsFiles

theorem refl (s : Store) : KeepsFiles s s :=
  ⟨fun _ => rfl, fun _ => rfl, rfl, fun _ bytes h => ⟨bytes, h⟩⟩

theorem trans {s₁ s₂ s₃ : Store} (h : KeepsFiles s₁ s₂) (h' : KeepsFiles s₂ s₃) :
    KeepsFiles s₁ s₃ where
  absolute q := (h'.absolute q).trans (h.absolute q)
  resolve q := (h'.resolve q).trans (h.resolve q)
  sealed := h'.sealed.trans h.sealed
  read q bytes hq := by
    obtain ⟨bytes', hq'⟩ := h.read q bytes hq
    exact h'.read q bytes' hq'

end KeepsFiles

/-- Writing changes the tree only, and so not how paths are told. -/
theorem absolute_write (hw : s.write p new = .ok s') (q : FilePath) :
    s'.absolute q = s.absolute q := by
  obtain ⟨place, -, -, -, rfl⟩ := write_eq_ok_iff.1 hw
  rfl

theorem KeepsFiles.of_write (h : s.read p = .ok old) (hw : s.write p new = .ok s') :
    KeepsFiles s s' := by
  obtain ⟨place, -, hover⟩ := overwritten_of_write h hw
  refine ⟨absolute_write hw, hover.resolve, hover.sealed, fun q bytes hq => ?_⟩
  rw [read_write h hw q]
  -- a path to the file that was written reads the new bytes, any other what it read
  split
  · exact ⟨new, rfl⟩
  · exact ⟨bytes, hq⟩

/-- What was added to once can be added to again, as long as files stay files. -/
theorem exists_append_of_append {s₁ s₂ : Store} {content : Bytes}
    (h : s.append p content = .ok s₁) (hkeeps : s₁.KeepsFiles s₂) (content' : Bytes) :
    ∃ s₃, s₂.append p content' = .ok s₃ := by
  -- whether the file was there or made, adding to it was a write
  obtain ⟨bytes, hw⟩ : ∃ bytes, s.write p bytes = .ok s₁ := by
    unfold append at h
    split at h
    · exact ⟨_, h⟩
    · exact ⟨_, h⟩
    · cases h
  obtain ⟨bytes', hread⟩ := hkeeps.read p bytes (read_write_self hw)
  obtain ⟨place, hres, -, ⟨s₃, hw', -⟩ | ⟨r, hseal, -⟩⟩ := write_of_read hread (bytes' ++ content')
  · exact ⟨s₃, by rw [append, hread]; exact hw'⟩
  · -- it is the place that was written before, and so it is not sealed
    obtain ⟨place', hres', -, hfree, -⟩ := exists_resolve_of_write hw
    obtain rfl := Except.ok.inj (hres'.symm.trans ((hkeeps.resolve p).symm.trans hres))
    rw [seal?, hkeeps.sealed] at hseal
    cases hfree.symm.trans hseal

theorem absolute_append {content : Bytes} (h : s.append p content = .ok s') (q : FilePath) :
    s'.absolute q = s.absolute q := by
  unfold append at h
  split at h
  · exact absolute_write h q
  · exact absolute_write h q
  · cases h

end Store

end SignalLint
