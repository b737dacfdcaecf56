import SignalLint.Code.Unit

/-!
# The innermost class at an offset

`DeclarationIndex.enclosingClass?` runs once through the classes of a file and keeps the best class
seen so far. This module says what comes of it, so that later proofs need not look at the loop.

* `ClassScope.pick` — one turn of the loop: a class that contains the offset takes the place of the
  best one unless it starts before it.
* `foldl_pick_some` — the loop ends with a class of the list that contains the offset, and no class
  of the list that contains the offset starts later.
* `DeclarationIndex.enclosingClass?_eq_none_iff`, `DeclarationIndex.enclosingClass?_eq_some` — the
  same for an index.
-/

namespace SignalLint

namespace ClassScope

/-- One turn of the search for the innermost class. -/
def pick (offset : Int) (innermost : Option ClassScope) (scope : ClassScope) :
    Option ClassScope :=
  match innermost with
  | none => if scope.Contains offset then some scope else none
  | some best =>
    if scope.Contains offset ∧ best.startByte ≤ scope.startByte then some scope else some best

variable {offset : Int} {scope best : ClassScope} {classes : List ClassScope}

theorem pick_eq_none_iff {innermost : Option ClassScope} :
    pick offset innermost scope = none ↔ innermost = none ∧ ¬ scope.Contains offset := by
  cases innermost with
  | none =>
    by_cases h : scope.Contains offset <;> simp [pick, h]
  | some best =>
    by_cases h : scope.Contains offset ∧ best.startByte ≤ scope.startByte <;> simp [pick, h]

theorem foldl_pick_eq_none_iff {innermost : Option ClassScope} :
    classes.foldl (pick offset) innermost = none ↔
      innermost = none ∧ ∀ scope ∈ classes, ¬ scope.Contains offset := by
  induction classes generalizing innermost with
  | nil => simp
  | cons scope classes ih =>
    rw [List.foldl_cons, ih, pick_eq_none_iff, List.forall_mem_cons, and_assoc]

/-- The loop keeps what it started with or ends with a class of the list that contains the offset;
neither it nor any class of the list that contains the offset starts after the result. -/
theorem foldl_pick_some (h : classes.foldl (pick offset) (some best) = some scope) :
    (scope = best ∨ scope ∈ classes ∧ scope.Contains offset) ∧
      best.startByte ≤ scope.startByte ∧
      ∀ c ∈ classes, c.Contains offset → c.startByte ≤ scope.startByte := by
  induction classes generalizing best with
  | nil =>
    obtain rfl : best = scope := Option.some.inj h
    exact ⟨Or.inl rfl, Nat.le_refl _, fun c hc => absurd hc List.not_mem_nil⟩
  | cons c classes ih =>
    rw [List.foldl_cons, pick] at h
    by_cases hc : c.Contains offset ∧ best.startByte ≤ c.startByte
    · -- the class takes the place of the best one
      rw [if_pos hc] at h
      obtain ⟨hmem, hle, hmax⟩ := ih h
      refine ⟨Or.inr ?_, Nat.le_trans hc.2 hle, ?_⟩
      · rcases hmem with rfl | ⟨hmem, hin⟩
        · exact ⟨List.mem_cons_self, hc.1⟩
        · exact ⟨List.mem_cons_of_mem c hmem, hin⟩
      · intro d hd hin
        rcases List.mem_cons.1 hd with rfl | hd
        · exact hle
        · exact hmax d hd hin
    · rw [if_neg hc] at h
      obtain ⟨hmem, hle, hmax⟩ := ih h
      refine ⟨hmem.imp_right fun hm => ⟨List.mem_cons_of_mem c hm.1, hm.2⟩, hle, ?_⟩
      intro d hd hin
      rcases List.mem_cons.1 hd with rfl | hd
      · -- a class that contains the offset was passed over for starting too early
        have hlt : ¬ best.startByte ≤ d.startByte := fun hle' => hc ⟨hin, hle'⟩
        omega
      · exact hmax d hd hin

theorem foldl_pick_none (h : classes.foldl (pick offset) none = some scope) :
    scope ∈ classes ∧ scope.Contains offset ∧
      ∀ c ∈ classes, c.Contains offset → c.startByte ≤ scope.startByte := by
  induction classes with
  | nil => cases h
  | cons c classes ih =>
    rw [List.foldl_cons, pick] at h
    by_cases hc : c.Contains offset
    · rw [if_pos hc] at h
      -- the first class that contains the offset; from here on there is a best one
      obtain ⟨hmem, hle, hmax⟩ := foldl_pick_some h
      refine ⟨?_, ?_, ?_⟩
      · exact hmem.elim (fun heq => heq ▸ List.mem_cons_self)
          fun hm => List.mem_cons_of_mem c hm.1
      · exact hmem.elim (fun heq => heq ▸ hc) fun hm => hm.2
      · exact List.forall_mem_cons.2 ⟨fun _ => hle, hmax⟩
    · rw [if_neg hc] at h
      obtain ⟨hmem, hin, hmax⟩ := ih h
      exact ⟨List.mem_cons_of_mem c hmem, hin,
        List.forall_mem_cons.2 ⟨fun hin' => absurd hin' hc, hmax⟩⟩

end ClassScope

namespace DeclarationIndex

variable {index : DeclarationIndex} {offset : Int} {scope : ClassScope}

theorem enclosingClass?_eq (index : DeclarationIndex) (offset : Int) :
    index.enclosingClass? offset = index.classes.foldl (ClassScope.pick offset) none := rfl

/-- No class is found exactly if none contains the offset. -/
theorem enclosingClass?_eq_none_iff :
    index.enclosingClass? offset = none ↔ ∀ scope ∈ index.classes, ¬ scope.Contains offset := by
  rw [enclosingClass?_eq, ClassScope.foldl_pick_eq_none_iff]
  exact and_iff_right rfl

/-- The class that is found contains the offset, and of all that do none starts later. -/
theorem enclosingClass?_eq_some (h : index.enclosingClass? offset = some scope) :
    scope ∈ index.classes ∧ scope.Contains offset ∧
      ∀ c ∈ index.classes, c.Contains offset → c.startByte ≤ scope.startByte :=
  ClassScope.foldl_pick_none h

/-- A class that contains the offset and starts after all others that do is the one found. -/
theorem enclosingClass?_eq_some_of_last (hmem : scope ∈ index.classes)
    (hin : scope.Contains offset)
    (hlast : ∀ c ∈ index.classes, c.Contains offset → c ≠ scope → c.startByte < scope.startByte) :
    index.enclosingClass? offset = some scope := by
  cases h : index.enclosingClass? offset with
  | none => exact absurd hin (enclosingClass?_eq_none_iff.1 h scope hmem)
  | some found =>
    obtain ⟨hfound, hfoundIn, hmax⟩ := enclosingClass?_eq_some h
    by_cases heq : found = scope
    · rw [heq]
    · -- each of the two would start after the other
      have hlt := hlast found hfound hfoundIn heq
      have hle := hmax scope hmem hin
      omega

end DeclarationIndex

end SignalLint
