import PermissionGraph.Yaml.Scanner

/-!
# Scanning farther down a stream

A scanner compares the places in a stream with each other and asks for the column of a place, but
never for its distance from the start. So it finds the same tokens in the same text behind any
number of lines.
-/

namespace PermissionGraph.Yaml

variable (bytes lines : Nat)

namespace Position

/-- The same column, farther down. -/
def shift (p : Position) : Position := ⟨p.offset + bytes, p.line + lines, p.column⟩

theorem next_shift (p : Position) (c : Char) :
    (p.shift bytes lines).next c = (p.next c).shift bytes lines := by
  unfold next
  by_cases h : isBreak c
  · simp only [if_pos h, shift, mk.injEq, and_true]
    omega
  · simp only [if_neg h, shift, mk.injEq, and_true]
    omega

theorem foldl_next_shift (cs : List Char) (p : Position) :
    cs.foldl next (p.shift bytes lines) = (cs.foldl next p).shift bytes lines := by
  induction cs generalizing p with
  | nil => rfl
  | cons c cs ih => rw [List.foldl_cons, next_shift, ih, List.foldl_cons]

end Position

def PossibleKey.shift (k : PossibleKey) : PossibleKey :=
  { k with position := k.position.shift bytes lines }

namespace Scanner

def shift (s : Scanner) : Scanner :=
  { s with
    position := s.position.shift bytes lines
    possibleKey := s.possibleKey.map (PossibleKey.shift bytes lines)
    outerKeys := s.outerKeys.map (Option.map (PossibleKey.shift bytes lines)) }

variable (s : Scanner)

@[simp] theorem rest_shift : (s.shift bytes lines).rest = s.rest := rfl
@[simp] theorem column_shift : (s.shift bytes lines).position.column = s.position.column := rfl
@[simp] theorem tokens_shift : (s.shift bytes lines).tokens = s.tokens := rfl
@[simp] theorem indents_shift : (s.shift bytes lines).indents = s.indents := rfl
@[simp] theorem floor_shift : (s.shift bytes lines).floor = s.floor := rfl
@[simp] theorem keyAllowed_shift : (s.shift bytes lines).keyAllowed = s.keyAllowed := rfl
@[simp] theorem possibleKey_shift :
    (s.shift bytes lines).possibleKey = s.possibleKey.map (PossibleKey.shift bytes lines) := rfl

@[simp] theorem inFlow_shift : (s.shift bytes lines).inFlow = s.inFlow := by
  simp [inFlow, shift]

@[simp] theorem advance_shift (rest : List Char) :
    (s.shift bytes lines).advance rest = (s.advance rest).shift bytes lines := by
  simp only [advance, rest_shift]
  simp only [shift, Position.foldl_next_shift]

@[simp] theorem push_shift (t : Token) :
    (s.shift bytes lines).push t = (s.push t).shift bytes lines := rfl

@[simp] theorem skip1_shift : (s.shift bytes lines).skip1 = s.skip1.shift bytes lines := by
  simp only [skip1, rest_shift]
  cases s.rest with
  | nil => rfl
  | cons c cs => simp only [shift, Position.next_shift]

@[simp] theorem take1_shift (t : Token) :
    (s.shift bytes lines).take1 t = (s.take1 t).shift bytes lines := by
  simp only [take1, skip1_shift, push_shift]

theorem skipGap_shift (inFlow inComment keyAllowed : Bool) (p : Position) (cs : List Char) :
    skipGap inFlow inComment keyAllowed (p.shift bytes lines) cs =
      ((skipGap inFlow inComment keyAllowed p cs).1,
        (skipGap inFlow inComment keyAllowed p cs).2.1.shift bytes lines,
        (skipGap inFlow inComment keyAllowed p cs).2.2) := by
  induction cs generalizing inComment keyAllowed p with
  | nil => rfl
  | cons c cs ih =>
    have hcolumn : (p.shift bytes lines).column = p.column := rfl
    simp only [skipGap, Position.next_shift, ih, hcolumn]
    split
    · rfl
    · split
      · rfl
      · split
        · rfl
        · split <;> rfl

@[simp] theorem toToken_shift : (s.shift bytes lines).toToken = s.toToken.shift bytes lines := by
  simp only [toToken, inFlow_shift, keyAllowed_shift, rest_shift]
  rw [show (s.shift bytes lines).position = s.position.shift bytes lines from rfl, skipGap_shift]
  rfl

theorem isStale_shift (k : PossibleKey) :
    (s.shift bytes lines).isStale (k.shift bytes lines) = s.isStale k := by
  simp only [isStale, shift, PossibleKey.shift, Position.shift, Nat.add_lt_add_iff_right]
  congr 2
  rw [Nat.add_right_comm, Nat.add_lt_add_iff_right]

@[simp] theorem dropStaleKey_shift :
    (s.shift bytes lines).dropStaleKey = s.dropStaleKey.map (shift bytes lines) := by
  simp only [dropStaleKey, possibleKey_shift]
  cases s.possibleKey with
  | none => rfl
  | some k =>
    simp only [Option.map_some, isStale_shift]
    rw [show (k.shift bytes lines).required = k.required from rfl]
    split
    · rfl
    · split <;> rfl

@[simp] theorem dropKey_shift :
    (s.shift bytes lines).dropKey = s.dropKey.map (shift bytes lines) := by
  have hrequired : (s.possibleKey.map (PossibleKey.shift bytes lines)).any (·.required) =
      s.possibleKey.any (·.required) := by cases s.possibleKey <;> rfl
  simp only [dropKey, possibleKey_shift, hrequired]
  split <;> rfl

@[simp] theorem noteKey_shift :
    (s.shift bytes lines).noteKey = s.noteKey.map (shift bytes lines) := by
  simp only [noteKey, keyAllowed_shift, inFlow_shift, indents_shift, column_shift, dropKey_shift]
  split
  · cases s.dropKey <;> rfl
  · rfl

@[simp] theorem unrollTo_shift (column : Nat) :
    (s.shift bytes lines).unrollTo column = (s.unrollTo column).shift bytes lines := by
  simp only [unrollTo, inFlow_shift]
  split <;> rfl

@[simp] theorem unrollAll_shift :
    (s.shift bytes lines).unrollAll = s.unrollAll.shift bytes lines := by
  simp only [unrollAll, inFlow_shift]
  split <;> rfl

@[simp] theorem roll_shift (column place : Nat) (t : Token) :
    (s.shift bytes lines).roll column place t = (s.roll column place t).shift bytes lines := by
  have hinside : ((s.shift bytes lines).inFlow || decide (column < (s.shift bytes lines).floor)) =
      (s.inFlow || decide (column < s.floor)) := by
    rw [inFlow_shift]
    rfl
  rw [roll, roll, hinside]
  by_cases h : s.inFlow || column < s.floor
  · rw [if_pos h, if_pos h]
  · rw [if_neg h, if_neg h]
    rfl

@[simp] theorem startBlock_shift (t : Token) :
    (s.shift bytes lines).startBlock t = (s.startBlock t).map (shift bytes lines) := by
  simp only [startBlock, inFlow_shift, keyAllowed_shift, column_shift, tokens_shift, roll_shift]
  split
  · rfl
  · split <;> rfl

theorem fetchMark_shift (t : Token) :
    (s.shift bytes lines).fetchMark t = (s.fetchMark t).map (shift bytes lines) := by
  simp only [fetchMark, unrollAll_shift, dropKey_shift]
  cases s.unrollAll.dropKey with
  | none => rfl
  | some s =>
    simp only [Option.map_some, Option.bind_eq_bind, Option.bind_some, skip1_shift, push_shift]
    rfl

theorem fetchDirective_shift :
    (s.shift bytes lines).fetchDirective = s.fetchDirective.map (shift bytes lines) := by
  simp only [fetchDirective, unrollAll_shift, dropKey_shift]
  cases s.unrollAll.dropKey with
  | none => rfl
  | some s =>
    simp only [Option.map_some, Option.bind_eq_bind, Option.bind_some, rest_shift,
      advance_shift, push_shift]
    cases Property.readDirective s.rest.tail <;> rfl

theorem fetchFlowStart_shift (t : Token) :
    (s.shift bytes lines).fetchFlowStart t = (s.fetchFlowStart t).map (shift bytes lines) := by
  simp only [fetchFlowStart, noteKey_shift]
  cases s.noteKey with
  | none => rfl
  | some s =>
    simp only [Option.map_some, Option.bind_eq_bind, Option.bind_some, take1_shift]
    rfl

theorem fetchFlowEnd_shift (t : Token) :
    (s.shift bytes lines).fetchFlowEnd t = (s.fetchFlowEnd t).map (shift bytes lines) := by
  simp only [fetchFlowEnd, dropKey_shift]
  cases s.dropKey with
  | none => rfl
  | some s =>
    simp only [Option.map_some, Option.bind_eq_bind, Option.bind_some]
    cases hkeys : s.outerKeys with
    | nil =>
      have hnil : (s.shift bytes lines).outerKeys = [] := by rw [shift, hkeys]; rfl
      simp only [hnil, take1_shift]
      rfl
    | cons key keys =>
      have hcons : (s.shift bytes lines).outerKeys =
          key.map (PossibleKey.shift bytes lines) ::
            keys.map (Option.map (PossibleKey.shift bytes lines)) := by rw [shift, hkeys]; rfl
      simp only [hcons]
      exact congrArg (fun s => some { s with keyAllowed := false })
        (take1_shift bytes lines { s with possibleKey := key, outerKeys := keys } t)

theorem fetchFlowEntry_shift :
    (s.shift bytes lines).fetchFlowEntry = s.fetchFlowEntry.map (shift bytes lines) := by
  simp only [fetchFlowEntry, dropKey_shift]
  cases s.dropKey with
  | none => rfl
  | some s =>
    simp only [Option.map_some, Option.bind_eq_bind, Option.bind_some, take1_shift]
    rfl

theorem fetchBlockEntry_shift :
    (s.shift bytes lines).fetchBlockEntry = s.fetchBlockEntry.map (shift bytes lines) := by
  simp only [fetchBlockEntry, startBlock_shift]
  cases s.startBlock .blockSequenceStart with
  | none => rfl
  | some s =>
    simp only [Option.map_some, Option.bind_eq_bind, Option.bind_some, dropKey_shift]
    cases s.dropKey with
    | none => rfl
    | some s =>
      simp only [Option.map_some, Option.bind_some, take1_shift]
      rfl

theorem fetchKey_shift :
    (s.shift bytes lines).fetchKey = s.fetchKey.map (shift bytes lines) := by
  simp only [fetchKey, startBlock_shift]
  cases s.startBlock .blockMappingStart with
  | none => rfl
  | some s =>
    simp only [Option.map_some, Option.bind_eq_bind, Option.bind_some, dropKey_shift]
    cases s.dropKey with
    | none => rfl
    | some s =>
      simp only [Option.map_some, Option.bind_some, take1_shift, inFlow_shift]
      rfl

theorem fetchValue_shift :
    (s.shift bytes lines).fetchValue = s.fetchValue.map (shift bytes lines) := by
  simp only [fetchValue, possibleKey_shift]
  cases s.possibleKey with
  | none =>
    simp only [Option.map_none, startBlock_shift]
    cases s.startBlock .blockMappingStart with
    | none => rfl
    | some s =>
      simp only [Option.map_some, Option.bind_eq_bind, Option.bind_some, take1_shift, inFlow_shift]
      rfl
  | some k =>
    have hroll := roll_shift bytes lines (s.insert k.place .key) k.position.column k.place
      .blockMappingStart
    refine congrArg (fun s => some { s with possibleKey := none, keyAllowed := false })
      ((congrArg (take1 · .value) hroll).trans (take1_shift bytes lines _ .value))

theorem fetchName_shift (token : String → Token) :
    (s.shift bytes lines).fetchName token = (s.fetchName token).map (shift bytes lines) := by
  simp only [fetchName, noteKey_shift]
  cases s.noteKey with
  | none => rfl
  | some s =>
    simp only [Option.map_some, Option.bind_eq_bind, Option.bind_some, rest_shift,
      advance_shift, push_shift]
    cases Property.readName s.rest.tail <;> rfl

theorem fetchTag_shift :
    (s.shift bytes lines).fetchTag = s.fetchTag.map (shift bytes lines) := by
  simp only [fetchTag, noteKey_shift]
  cases s.noteKey with
  | none => rfl
  | some s =>
    simp only [Option.map_some, Option.bind_eq_bind, Option.bind_some, rest_shift,
      inFlow_shift, advance_shift, push_shift]
    cases Property.readTag s.inFlow s.rest.tail <;> rfl

theorem fetchBlock_shift (folded : Bool) :
    (s.shift bytes lines).fetchBlock folded = (s.fetchBlock folded).map (shift bytes lines) := by
  simp only [fetchBlock, dropKey_shift]
  cases s.dropKey with
  | none => rfl
  | some s =>
    simp only [Option.map_some, Option.bind_eq_bind, Option.bind_some, rest_shift,
      floor_shift, advance_shift, push_shift]
    cases Scalar.readBlock folded s.floor s.rest.tail <;> rfl

theorem fetchSingleQuoted_shift :
    (s.shift bytes lines).fetchSingleQuoted = s.fetchSingleQuoted.map (shift bytes lines) := by
  simp only [fetchSingleQuoted, noteKey_shift]
  cases s.noteKey with
  | none => rfl
  | some s =>
    simp only [Option.map_some, Option.bind_eq_bind, Option.bind_some, rest_shift,
      advance_shift, push_shift]
    cases Scalar.readSingleQuoted false .none s.rest.tail <;> rfl

theorem fetchDoubleQuoted_shift :
    (s.shift bytes lines).fetchDoubleQuoted = s.fetchDoubleQuoted.map (shift bytes lines) := by
  simp only [fetchDoubleQuoted, noteKey_shift]
  cases s.noteKey with
  | none => rfl
  | some s =>
    simp only [Option.map_some, Option.bind_eq_bind, Option.bind_some, rest_shift,
      advance_shift, push_shift]
    cases Scalar.readDoubleQuoted false .none none s.rest.tail <;> rfl

theorem fetchPlain_shift :
    (s.shift bytes lines).fetchPlain = s.fetchPlain.map (shift bytes lines) := by
  simp only [fetchPlain, noteKey_shift]
  cases s.noteKey with
  | none => rfl
  | some s =>
    simp only [Option.map_some, Option.bind_eq_bind, Option.bind_some, rest_shift,
      inFlow_shift, floor_shift, column_shift, advance_shift, push_shift]
    cases Scalar.readPlain s.inFlow s.floor s.position.column .none s.rest <;> rfl

theorem fetch_shift (c : Char) (cs : List Char) :
    (s.shift bytes lines).fetch c cs = (s.fetch c cs).map (shift bytes lines) := by
  simp only [fetch, column_shift, inFlow_shift, fetchDirective_shift, fetchMark_shift,
    fetchFlowStart_shift, fetchFlowEnd_shift, fetchFlowEntry_shift, fetchName_shift,
    fetchTag_shift, fetchSingleQuoted_shift, fetchDoubleQuoted_shift, fetchBlock_shift,
    fetchBlockEntry_shift, fetchKey_shift, fetchValue_shift, fetchPlain_shift]
  split
  · rfl
  · split
    · rfl
    · split <;> (try split) <;> rfl

theorem run_shift (fuel : Nat) : (s.shift bytes lines).run fuel = s.run fuel := by
  induction fuel generalizing s with
  | zero => rfl
  | succ fuel ih =>
    simp only [run, toToken_shift, dropStaleKey_shift]
    cases s.toToken.dropStaleKey with
    | none => rfl
    | some s =>
      simp only [Option.map_some, Option.bind_eq_bind, Option.bind_some, rest_shift]
      cases s.rest with
      | nil =>
        simp only [unrollAll_shift, dropKey_shift]
        cases s.unrollAll.dropKey <;> rfl
      | cons c cs =>
        simp only [column_shift, unrollTo_shift, fetch_shift]
        cases (s.unrollTo s.position.column).fetch c cs with
        | none => rfl
        | some s => exact ih s

/-- More fuel changes nothing. -/
theorem run_of_le {fuel more : Nat} {ts : List Token} (h : s.run fuel = some ts)
    (hle : fuel ≤ more) : s.run more = some ts := by
  induction fuel generalizing s more with
  | zero => cases h
  | succ fuel ih =>
    obtain ⟨more, rfl⟩ : ∃ n, more = n + 1 := ⟨more - 1, by omega⟩
    simp only [run] at h ⊢
    cases hs : s.toToken.dropStaleKey with
    | none => rw [hs] at h; cases h
    | some s =>
      rw [hs] at h
      simp only [Option.bind_eq_bind, Option.bind_some] at h ⊢
      cases hrest : s.rest with
      | nil => rw [hrest] at h; exact h
      | cons c cs =>
        rw [hrest] at h
        simp only at h ⊢
        cases hnext : (s.unrollTo s.position.column).fetch c cs with
        | none => rw [hnext] at h; cases h
        | some s =>
          rw [hnext] at h
          exact ih s h (by omega)

end Scanner

end PermissionGraph.Yaml
