import PermissionGraph.Files
import PermissionGraph.Proofs.Keyed

/-!
# Reading what was written

A write that succeeds puts a file where there is no directory. The way to it leads through
directories only, so it is found again by the same way, with the text that was written.
-/

namespace PermissionGraph.Files.Tree

variable {t t' : Tree} {location : Location} {p : Path} {content : Content}

theorem entry?_put_self (h : location ≠ []) (e : Entry) :
    entry? (t.put location e) location = some e := by
  unfold entry?
  rw [if_neg h, put, List.lookup_cons_self]

theorem entry?_put_of_ne {other : Location} (h : location ≠ other) (e : Entry) :
    entry? (t.put location e) other = t.entry? other := by
  unfold entry?
  rw [put]
  have hne : (other == location) = false := beq_eq_false_iff_ne.mpr (Ne.symm h)
  simp only [List.lookup_cons, hne, Keyed.lookup_filter_of_ne t.entries h]

theorem entry?_of_enter {start next : Location} {segment : String}
    (h : t.enter start segment = .ok next) :
    child start segment = .ok next ∧ t.entry? next = some .directory := by
  rw [enter] at h
  cases hchild : child start segment with
  | error e => rw [hchild] at h; cases h
  | ok location =>
    rw [hchild] at h
    simp only [bind, Except.bind] at h
    cases hentry : t.entry? location with
    | none => rw [hentry] at h; cases h
    | some entry =>
      rw [hentry] at h
      cases entry with
      | file content => cases h
      | directory =>
        obtain rfl : location = next := Except.ok.inj h
        exact ⟨rfl, hentry⟩

/-- A new file is in no way that leads through directories. -/
theorem enter_put {start next : Location} {segment : String}
    (hlocation : t.entry? location ≠ some .directory) (h : t.enter start segment = .ok next) :
    (t.put location (.file content)).enter start segment = .ok next := by
  obtain ⟨hchild, hentry⟩ := entry?_of_enter h
  have hne : location ≠ next := by
    intro heq
    exact hlocation (heq ▸ hentry)
  rw [enter, hchild]
  simp only [bind, Except.bind, entry?_put_of_ne hne, hentry]

theorem foldlM_enter_put (hlocation : t.entry? location ≠ some .directory)
    (segments : List String) {start last : Location}
    (h : segments.foldlM t.enter start = .ok last) :
    segments.foldlM (t.put location (.file content)).enter start = .ok last := by
  induction segments generalizing start with
  | nil => exact h
  | cons segment segments ih =>
    rw [List.foldlM_cons] at h ⊢
    cases hnext : t.enter start segment with
    | error e => rw [hnext] at h; cases h
    | ok next =>
      rw [hnext] at h
      rw [enter_put hlocation hnext]
      exact ih h

theorem above_put (hlocation : t.entry? location ≠ some .directory) {above : Location}
    (h : t.above p = .ok above) : (t.put location (.file content)).above p = .ok above := by
  rw [Tree.above] at h ⊢
  split at h
  · cases h
  · split at h
    · cases h
    · next hnul hlong =>
      rw [if_neg hnul, if_neg hlong]
      exact foldlM_enter_put hlocation _ h

theorem fileLocation_spec (h : t.fileLocation p = .ok location) :
    ∃ above name, t.above p = .ok above ∧ p.segments.getLast? = some name ∧
      child above name = .ok location ∧ p.endsInSlash = false ∧
      t.entry? location ≠ some .directory := by
  rw [fileLocation] at h
  cases habove : t.above p with
  | error e => rw [habove] at h; cases h
  | ok above =>
    rw [habove] at h
    simp only [bind, Except.bind] at h
    cases hname : p.segments.getLast? with
    | none => rw [hname] at h; cases h
    | some name =>
      rw [hname] at h
      simp only at h
      split at h
      · cases h
      · next hdots =>
        cases hchild : child above name with
        | error e => rw [hchild] at h; cases h
        | ok place =>
          rw [hchild] at h
          simp only at h
          split at h
          · cases h
          · next hentry =>
            obtain rfl : place = location := Except.ok.inj h
            rw [Bool.or_eq_true, not_or, Bool.not_eq_true, Bool.not_eq_true] at hdots
            exact ⟨above, name, rfl, rfl, hchild, hdots.2, hentry⟩

theorem status_put (h : t.fileLocation p = .ok location) :
    (t.put location (.file content)).status p = .ok (.file content) := by
  obtain ⟨above, name, habove, hname, hchild, hslash, hentry⟩ := fileLocation_spec h
  have hroot : location ≠ [] := by
    rintro rfl
    exact hentry rfl
  rw [status, above_put hentry habove, hname]
  simp only [bind, Except.bind, Option.elim_some, hchild, entry?_put_self hroot, hslash,
    Bool.false_eq_true, if_false]

/-- What a write leaves is found and read. -/
theorem read_of_write {text : String} (h : t.write p (.text text) = (.ok (), t')) :
    t'.holds p = true ∧ t'.read p = .ok text := by
  rw [write] at h
  split at h
  · cases h
  · next made hmade =>
    split at h
    · cases h
    · next location hlocation =>
      obtain rfl : made.put location (.file (.text text)) = t' := congrArg Prod.snd h
      have hstatus : (made.put location (.file (.text text))).status p = .ok (.file (.text text)) :=
        status_put hlocation
      rw [holds, read, hstatus]
      exact ⟨rfl, rfl⟩

end PermissionGraph.Files.Tree
