import SignalLint.Proofs.Failing
import SignalLint.Toml.Reader

/-!
# Keys of a TOML document

No statement of a document makes a key stand twice: whatever a statement changes, it changes by
setting one key of the outermost table (`Entries.Step`). So the table that is read has each key once
(`nodup_keys_read`), and looking a key up in it finds the only value there is.
-/

namespace SignalLint

namespace Toml

namespace Entries

/-- A change of a table that sets one of its keys. -/
def Step (es es' : Entries) : Prop := ∃ key e, es' = es.set key e

variable {es es' : Entries} {path : Path}

theorem Step.nodup (h : Step es es') (hes : (es.map (·.1)).Nodup) : (es'.map (·.1)).Nodup := by
  obtain ⟨key, e, rfl⟩ := h
  exact Table.nodup_keys_insert hes key e

theorem step_of_assign {inSection : Nat} {v : Value}
    (h : assign inSection v path es = some es') : Step es es' := by
  unfold assign at h
  split at h
  · cases h
  · split at h
    · cases h
    · exact ⟨_, _, (Option.some.inj h).symm⟩
  · rename_i key path _
    -- whichever table the assignment goes on in, the key is set to what comes of it
    have hset : ∀ inner, ((assign inSection v path inner).bind fun inner =>
        some (es.set key (.table (.dotted inSection) inner))) = some es' → Step es es' := by
      intro inner h
      obtain ⟨inner', -, h⟩ := Option.bind_eq_some_iff.1 h
      exact ⟨_, _, (Option.some.inj h).symm⟩
    dsimp only at h
    split at h
    · exact hset _ h
    · exact hset _ h
    · split at h
      · exact hset _ h
      · cases h
    · cases h

theorem step_of_descend {change : Entries → Option Entries} {key : String}
    (h : descend change key es = some es') : Step es es' := by
  unfold descend at h
  -- whatever the key held, a table, the last table of an array or nothing, it is set
  split at h
  · obtain ⟨inner, -, rfl⟩ := Option.map_eq_some_iff.1 h
    exact ⟨_, _, rfl⟩
  · obtain ⟨inner, -, rfl⟩ := Option.map_eq_some_iff.1 h
    exact ⟨_, _, rfl⟩
  · split at h
    · cases h
    · obtain ⟨inner, -, rfl⟩ := Option.map_eq_some_iff.1 h
      exact ⟨_, _, rfl⟩
  · cases h

theorem step_of_openTable (h : openTable path es = some es') : Step es es' := by
  unfold openTable at h
  split at h
  · cases h
  · split at h
    · exact ⟨_, _, (Option.some.inj h).symm⟩
    · exact ⟨_, _, (Option.some.inj h).symm⟩
    · cases h
  · exact step_of_descend h

theorem step_of_appendTable (h : appendTable path es = some es') : Step es es' := by
  unfold appendTable at h
  split at h
  · cases h
  · split at h
    · exact ⟨_, _, (Option.some.inj h).symm⟩
    · exact ⟨_, _, (Option.some.inj h).symm⟩
    · cases h
  · exact step_of_descend h

/-- An assignment inside a table sets a key of the outermost one, the table itself or one that holds
it. -/
theorem step_of_within_assign {inSection : Nat} {v : Value} {header : Path}
    (h : within (assign inSection v path) header es = some es') : Step es es' := by
  unfold within at h
  split at h
  · exact step_of_assign h
  · exact step_of_descend h

end Entries

/-- What is read on is not malformed. -/
theorem eq_some_of_lift {α : Type} {x : Option α} {a : α}
    (h : (liftM x : Except Problem α) = .ok a) : x = some a := by
  cases x with
  | none => cases h
  | some b => exact congrArg some (Except.ok.inj h)

/-- Running a statement sets one key of the document. -/
theorem Document.step_of_run {d d' : Document} {statement : Statement}
    (h : d.run statement = some d') : d.entries.Step d'.entries := by
  cases statement with
  | openTable path =>
    obtain ⟨es, hes, rfl⟩ := Option.map_eq_some_iff.1 h
    exact Entries.step_of_openTable hes
  | appendTable path =>
    obtain ⟨es, hes, rfl⟩ := Option.map_eq_some_iff.1 h
    exact Entries.step_of_appendTable hes
  | assign path v =>
    obtain ⟨es, hes, rfl⟩ := Option.map_eq_some_iff.1 h
    exact Entries.step_of_within_assign hes

/-- A line sets at most one key. -/
theorem nodup_keys_of_runLine {d d' : Document} {cs rest : List Char}
    (h : runLine d cs = .ok (d', rest)) (hd : (d.entries.map (·.1)).Nodup) :
    (d'.entries.map (·.1)).Nodup := by
  unfold runLine at h
  split at h
  · cases h
    exact hd
  · split at h
    · cases h
      exact hd
    · obtain ⟨⟨s, rest'⟩, -, h⟩ := Except.bind_eq_ok_iff.1 h
      obtain ⟨next, hrun, h⟩ := Except.bind_eq_ok_iff.1 h
      cases h
      exact (Document.step_of_run (eq_some_of_lift hrun)).nodup hd

/-- **A document has each key once**, however many lines made it. -/
theorem nodup_keys_of_runLines {lines : Nat} {d d' : Document} {cs : List Char}
    (h : runLines lines d cs = .ok d') (hd : (d.entries.map (·.1)).Nodup) :
    (d'.entries.map (·.1)).Nodup := by
  induction lines generalizing d cs with
  | zero => exact Except.ok.inj h ▸ hd
  | succ lines ih =>
    obtain ⟨⟨next, rest⟩, hline, h⟩ := Except.bind_eq_ok_iff.1 h
    have hnext := nodup_keys_of_runLine hline hd
    -- what stands behind the line decides only whether there is another one
    obtain ⟨behind, -, h⟩ := Except.bind_eq_ok_iff.1 h
    split at h
    · exact Except.ok.inj h ▸ hnext
    · exact ih h hnext
    · cases h

theorem keys_entryValues (es : Entries) : (entryValues es).map (·.1) = es.map (·.1) := by
  induction es with
  | nil => rw [entryValues]; rfl
  | cons e es ih =>
    obtain ⟨key, e⟩ := e
    rw [entryValues, List.map_cons, List.map_cons, ih]

/-- **What is read has each key once.** -/
theorem nodup_keys_read {text : String} {entries : List (String × Value)}
    (h : read text = .ok entries) : (entries.map (·.1)).Nodup := by
  obtain ⟨d, hd, rfl⟩ := Except.map_eq_ok_iff.1 h
  rw [Document.toEntries, keys_entryValues]
  exact nodup_keys_of_runLines hd List.nodup_nil

end Toml

end SignalLint
