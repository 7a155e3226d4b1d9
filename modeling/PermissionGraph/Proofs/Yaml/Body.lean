import PermissionGraph.Proofs.Yaml.Item

/-!
# The tokens of a file of defaults

What is written of a configuration is a mapping of two keys. The first has a truth value, and the
second has a list, whose items stand no farther than the key.
-/

namespace PermissionGraph.Yaml

open DefaultsFile

namespace Scanner

variable {s s' : Scanner} {taken rest value text : List Char} {ts : List Token} {p : Position}

theorem fetchPlain_of_read (taken : List Char) {crossed : Bool} (hkey : s.noteKey = some s')
    (hrest : s'.rest = taken ++ rest)
    (hread : Scalar.readPlain s'.inFlow s'.floor s'.position.column .none (taken ++ rest) =
      some (value, ⟨crossed, rest⟩)) :
    s.fetchPlain = some ⟨rest, taken.foldl Position.next s'.position,
      scalar .plain value :: s'.tokens, s'.indents, s'.possibleKey, s'.outerKeys, crossed⟩ := by
  rw [fetchPlain, hkey]
  simp only [Option.bind_eq_bind, Option.bind_some]
  rw [hrest, hread, Option.bind_some]
  simp only [advance_append _ hrest]
  rfl

/-- The tokens of the first line, the last one first. -/
def flagTokens (enabled : Bool) : List Token :=
  [.scalar .plain (toString enabled), .value, .scalar .plain "enabled", .key, .blockMappingStart]

def flagLine (enabled : Bool) : List Char :=
  "enabled: ".toList ++ ((toString enabled).toList ++ ['\n'])

def atKey (offset : Nat) (enabled : Bool) (rest : List Char) : Scanner :=
  ⟨rest, ⟨offset, 1, 0⟩, flagTokens enabled, [0], none, [], true⟩

theorem run_flag (enabled : Bool) (text : List Char) :
    ∃ offset, ∀ fuel, (start (flagLine enabled ++ 'd' :: text)).run (fuel + 3) =
      (atKey offset enabled ('d' :: text)).run fuel := by
  let tail : List Char := ((toString enabled).toList ++ ['\n']) ++ 'd' :: text
  let s₁ : Scanner := ⟨':' :: ' ' :: tail, ⟨7, 0, 7⟩, [.scalar .plain "enabled"], [],
    some ⟨0, false, Position.start⟩, [], false⟩
  let s₂ : Scanner := ⟨' ' :: tail, ⟨8, 0, 8⟩,
    [.value, .scalar .plain "enabled", .key, .blockMappingStart], [0], none, [], false⟩
  have hkey (fuel : Nat) :
      (start (flagLine enabled ++ 'd' :: text)).run (fuel + 1) = s₁.run fuel := by
    refine run_step rfl rfl ?_
    exact Eq.trans (fetchPlain_of_read "enabled".toList rfl rfl rfl) rfl
  have hvalue : s₁.fetchValue = some s₂ := rfl
  have hflag : ∃ offset, ∀ fuel,
      s₂.run (fuel + 1) = (atKey offset enabled ('d' :: text)).run fuel := by
    cases enabled with
    | true =>
      refine ⟨14, fun fuel => run_step rfl rfl ?_⟩
      exact Eq.trans (fetchPlain_of_read "true\n".toList rfl rfl rfl) rfl
    | false =>
      refine ⟨15, fun fuel => run_step rfl rfl ?_⟩
      exact Eq.trans (fetchPlain_of_read "false\n".toList rfl rfl rfl) rfl
  obtain ⟨offset, hflag⟩ := hflag
  refine ⟨offset, fun fuel => ?_⟩
  rw [← hflag, ← run_step (s := s₁) rfl rfl hvalue, hkey]

def headTokens (enabled : Bool) : List Token :=
  .value :: .scalar .plain "defaults" :: .key :: flagTokens enabled

theorem run_defaults (enabled : Bool) (offset : Nat) (htext : AtItem text) :
    ∃ p, p.column = 0 ∧ ∀ fuel,
      (atKey offset enabled ("defaults:\n".toList ++ text)).run (fuel + 3) =
        (atItem p (headTokens enabled) text).run (fuel + 1) := by
  let k : PossibleKey := ⟨5, true, ⟨offset, 1, 0⟩⟩
  let s₁ : Scanner := ⟨':' :: '\n' :: text, ⟨offset + 8, 1, 8⟩,
    .scalar .plain "defaults" :: flagTokens enabled, [0], some k, [], false⟩
  let s₂ : Scanner := ⟨'\n' :: text, ⟨offset + 9, 1, 9⟩, headTokens enabled, [0], none, [], false⟩
  have hkey (fuel : Nat) : (atKey offset enabled ("defaults:\n".toList ++ text)).run (fuel + 1) =
      s₁.run fuel := by
    refine run_step rfl rfl ?_
    exact Eq.trans (fetchPlain_of_read "defaults".toList rfl rfl rfl) rfl
  have hready : s₁.toToken.dropStaleKey = some s₁ := by
    have hstale : s₁.isStale k = false := by
      simp [isStale, longestKey, s₁, k]
    have htoken : s₁.toToken = s₁ := rfl
    rw [htoken, dropStaleKey]
    simp [s₁, hstale]
  have hvalue : s₁.fetchValue = some s₂ := rfl
  obtain ⟨p, hp, hsettles⟩ : Settles s₂ (headTokens enabled) text := by
    refine settles_of_newline _ htext ?_
    rintro _ ⟨⟩
  refine ⟨p, hp, fun fuel => ?_⟩
  rw [hkey, run_step hready rfl hvalue]
  exact run_congr (hsettles.trans (atItem_ready htext p _).symm)

def itemTokens (entry : String) : List Token :=
  [.blockEntry, .scalar (Style.choose entry) entry]

theorem atItem_flatMap (entries : List String) : AtItem (entries.flatMap itemLine) := by
  cases entries with
  | nil => exact .last
  | cons entry entries =>
    rw [List.flatMap_cons, itemLine, endLine_item]
    exact .next _

theorem run_items (entries : List String) (hp : p.column = 0) (ts : List Token) :
    (atItem p ts (entries.flatMap itemLine)).run (2 * entries.length + 1) =
      some (ts.reverse ++ entries.flatMap itemTokens ++ [.blockEnd]) := by
  induction entries generalizing p ts with
  | nil =>
    rw [List.flatMap_nil, List.flatMap_nil, List.append_nil]
    exact congrArg some (List.reverse_cons)
  | cons entry entries ih =>
    obtain ⟨p', hp', hitem⟩ := run_item ts entry (atItem_flatMap entries) hp
    rw [List.flatMap_cons, List.length_cons, Nat.mul_succ, hitem, ih hp']
    simp [itemTokens]

def configTokens (enabled : Bool) (entries : List String) : List Token :=
  .blockMappingStart :: .key :: .scalar .plain "enabled" :: .value ::
    .scalar .plain (toString enabled) :: .key :: .scalar .plain "defaults" :: .value ::
      (entries.flatMap itemTokens ++ [.blockEnd])

theorem run_config (enabled : Bool) (entries : List String) :
    (start (flagLine enabled ++ ("defaults:\n".toList ++ entries.flatMap itemLine))).run
      (2 * entries.length + 6) = some (configTokens enabled entries) := by
  obtain ⟨offset, hflag⟩ := run_flag enabled ("efaults:\n".toList ++ entries.flatMap itemLine)
  obtain ⟨p, hp, hdefaults⟩ := run_defaults enabled offset (atItem_flatMap entries)
  have hitems := run_items entries hp (headTokens enabled)
  rw [List.append_assoc] at hitems
  exact (hflag _).trans ((hdefaults _).trans hitems)

end Scanner

end PermissionGraph.Yaml
