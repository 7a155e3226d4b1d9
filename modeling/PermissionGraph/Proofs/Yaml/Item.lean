import PermissionGraph.DefaultsFile
import PermissionGraph.Proofs.Yaml.Quoted
import PermissionGraph.Proofs.Yaml.Literal
import PermissionGraph.Proofs.Yaml.Shift

/-!
# Scanning the items of a list

An item is a line, or several, with a dash and a scalar. The scanner makes two tokens of it, and
stands before the next item as it stood before this one.
-/

namespace PermissionGraph.Yaml

open Scalar DefaultsFile
open Style (suitsPlain suitsSingleQuoted suitsLiteral)

section

variable {cs : List Char}

theorem endLine_item (cs : List Char) : endLine ('-' :: ' ' :: cs) = '-' :: ' ' :: endLine cs := by
  have hlast : ('-' :: ' ' :: cs).getLast?.any isBreak = cs.getLast?.any isBreak := by
    rw [List.getLast?_cons, List.getLast?_cons]
    cases cs.getLast? <;> rfl
  rw [endLine, endLine, hlast]
  split <;> rfl

theorem endLine_of_word (h : ∀ c, cs.getLast? = some c → isBreak c = false) :
    endLine cs = cs ++ ['\n'] := by
  rw [endLine, if_neg]
  cases hlast : cs.getLast? with
  | none => exact Bool.false_ne_true
  | some c =>
    rw [Option.any_some, h c hlast]
    exact Bool.false_ne_true

theorem endLine_ends (cs : List Char) :
    ∃ front c, endLine cs = front ++ [c] ∧ isBreak c = true := by
  rw [endLine]
  split
  · next h =>
    obtain ⟨c, hlast, hc⟩ := (Option.any_eq_true _ _).mp h
    obtain ⟨front, hfront⟩ := List.getLast?_eq_some_iff.mp hlast
    exact ⟨front, c, hfront, hc⟩
  · exact ⟨cs, '\n', rfl, by decide⟩

theorem endLine_plain (h : suitsPlain cs = true) : endLine cs = cs ++ ['\n'] := by
  simp only [suitsPlain, Bool.and_eq_true, Bool.not_eq_true'] at h
  obtain ⟨⟨⟨-, hbreak⟩, -⟩, -⟩ := h
  apply endLine_of_word
  intro c hc
  exact Bool.eq_false_iff.mpr (List.any_eq_false.mp hbreak c (List.mem_of_getLast? hc))

theorem getLast?_singleQuotedFrom (cs : List Char) (fresh : Bool) :
    (singleQuotedFrom fresh cs).getLast? = some '\'' := by
  induction cs generalizing fresh with
  | nil => rw [singleQuotedFrom, List.getLast?_concat]
  | cons c cs ih =>
    rw [singleQuotedFrom]
    split
    · rw [List.getLast?_cons, ih, Option.getD_some]
    · rw [List.getLast?_append, ih, Option.some_or]

theorem endLine_singleQuoted (cs : List Char) :
    endLine (singleQuoted cs) = singleQuoted cs ++ ['\n'] := by
  apply endLine_of_word
  rw [singleQuoted, List.getLast?_cons, getLast?_singleQuotedFrom]
  rintro _ ⟨⟩
  decide

theorem endLine_doubleQuoted (cs : List Char) :
    endLine (doubleQuoted cs) = doubleQuoted cs ++ ['\n'] := by
  apply endLine_of_word
  rw [doubleQuoted, List.getLast?_concat]
  rintro _ ⟨⟩
  decide

theorem getLast?_literalFrom (cs : List Char) (fresh : Bool) :
    (literalFrom fresh cs).getLast? = cs.getLast? := by
  induction cs generalizing fresh with
  | nil => rfl
  | cons c cs ih =>
    rw [literalFrom]
    split
    · rw [List.getLast?_cons, ih, List.getLast?_cons]
    · rw [List.getLast?_append, List.getLast?_cons, ih, Option.some_or, List.getLast?_cons]

theorem endLine_literal (h : cs ≠ []) :
    endLine (literal cs) = literal cs ++ (if cs.getLast?.any isBreak then [] else ['\n']) := by
  have hlast : (literal cs).getLast? = cs.getLast? := by
    rw [literal, List.getLast?_append, List.getLast?_cons, getLast?_literalFrom, Option.some_or,
      List.getLast?_eq_some_getLast h, Option.getD_some]
  rw [endLine, hlast]
  split
  · rw [List.append_nil]
  · rfl

end

namespace Position

variable {c : Char} {p : Position}

theorem line_le_next : p.line ≤ (p.next c).line := by
  rw [next]
  split
  · exact Nat.le_succ p.line
  · exact Nat.le_refl p.line

theorem line_le_foldl (cs : List Char) (p : Position) : p.line ≤ (cs.foldl next p).line := by
  induction cs generalizing p with
  | nil => exact Nat.le_refl p.line
  | cons c cs ih => exact Nat.le_trans line_le_next (ih (p.next c))

theorem next_of_break (h : isBreak c = true) :
    (p.next c).line = p.line + 1 ∧ (p.next c).column = 0 := by
  rw [next, if_pos h]
  exact ⟨rfl, rfl⟩

end Position

namespace Scanner

variable {s s' : Scanner} {c : Char} {cs rest inside value : List Char} {ts : List Token}
  {p : Position} {key : Option PossibleKey} {offset line fuel : Nat}

theorem run_step (hready : s.toToken.dropStaleKey = some s') (hrest : s'.rest = c :: cs)
    {next : Scanner} (hfetch : (s'.unrollTo s'.position.column).fetch c cs = some next) :
    s.run (fuel + 1) = next.run fuel := by
  rw [run, hready]
  simp only [Option.bind_eq_bind, Option.bind_some, hrest, hfetch]

theorem run_congr (h : s.toToken.dropStaleKey = s'.toToken.dropStaleKey) :
    s.run (fuel + 1) = s'.run (fuel + 1) := by
  rw [run, run, h]

theorem advance_append (cs : List Char) (h : s.rest = cs ++ rest) :
    s.advance rest = { s with rest, position := cs.foldl Position.next s.position } := by
  rw [advance, h, List.length_append, Nat.add_sub_cancel, List.take_left]

def atItem (p : Position) (ts : List Token) (rest : List Char) : Scanner :=
  ⟨rest, p, ts, [0], none, [], true⟩

def atScalar (offset line : Nat) (ts : List Token) (rest : List Char) : Scanner :=
  ⟨rest, ⟨offset, line, 2⟩, ts, [0], none, [], true⟩

/-- A scanner that goes on as if it stood before an item. -/
def Settles (s : Scanner) (ts : List Token) (rest : List Char) : Prop :=
  ∃ p, p.column = 0 ∧ s.toToken.dropStaleKey = some (atItem p ts rest)

theorem atItem_ready (h : AtItem rest) (p : Position) (ts : List Token) :
    (atItem p ts rest).toToken.dropStaleKey = some (atItem p ts rest) := by
  cases h <;> rfl

/-- The key that a scalar might have been is given up on the next line. -/
theorem settles_of_line (ts : List Token) (h : AtItem rest) (hcolumn : p.column = 0)
    (hkey : ∀ k, key = some k → k.required = false ∧ k.position.line < p.line) :
    Settles ⟨rest, p, ts, [0], key, [], true⟩ ts rest := by
  refine ⟨p, hcolumn, ?_⟩
  have htoken : (⟨rest, p, ts, [0], key, [], true⟩ : Scanner).toToken =
      ⟨rest, p, ts, [0], key, [], true⟩ := by
    cases h <;> rfl
  rw [htoken, dropStaleKey]
  cases key with
  | none => rfl
  | some k =>
    obtain ⟨hrequired, hline⟩ := hkey k rfl
    simp [isStale, hrequired, hline, atItem]

theorem settles_of_newline (ts : List Token) (h : AtItem rest) {allowed : Bool}
    (hkey : ∀ k, key = some k → k.required = false ∧ k.position.line ≤ p.line) :
    Settles ⟨'\n' :: rest, p, ts, [0], key, [], allowed⟩ ts rest := by
  obtain ⟨hline, hcolumn⟩ := Position.next_of_break (p := p) (c := '\n') (by decide)
  have hkey' (k : PossibleKey) (hk : key = some k) :
      k.required = false ∧ k.position.line < (p.next '\n').line := by
    rw [hline]
    exact ⟨(hkey k hk).1, Nat.lt_succ_of_le (hkey k hk).2⟩
  obtain ⟨p', hp', hsettles⟩ := settles_of_line ts h hcolumn hkey'
  refine ⟨p', hp', ?_⟩
  have htoken : (⟨'\n' :: rest, p, ts, [0], key, [], allowed⟩ : Scanner).toToken =
      (⟨rest, p.next '\n', ts, [0], key, [], true⟩ : Scanner).toToken := by
    have hgap : skipGap false false allowed p ('\n' :: rest) =
        skipGap false false true (p.next '\n') rest := by
      rw [skipGap, if_pos (by decide), Bool.not_false, Bool.or_true]
    exact congrArg (fun g => (⟨g.2.2, g.2.1, ts, [0], key, [], g.1⟩ : Scanner)) hgap
  rw [htoken, hsettles]

section

variable (offset line : Nat) (ts : List Token)

/-- A scanner behind a dash that takes the scalar there for what might be a key. -/
def withKey (offset line : Nat) (ts : List Token) (rest : List Char) : Scanner :=
  { atScalar offset line ts rest with
    possibleKey := some ⟨ts.length, false, ⟨offset, line, 2⟩⟩ }

theorem withKey_advance (taken rest : List Char) (t : Token) (allowed : Bool) :
    { ((withKey offset line ts (taken ++ rest)).advance rest).push t with keyAllowed := allowed } =
      (⟨rest, taken.foldl Position.next ⟨offset, line, 2⟩, t :: ts, [0],
        some ⟨ts.length, false, ⟨offset, line, 2⟩⟩, [], allowed⟩ : Scanner) := by
  rw [advance_append taken rfl]
  rfl

/-- A scalar is scanned whole, with the end of its line. -/
def Scans (text rest : List Char) (t : Token) : Prop :=
  ∃ c cs next, text ++ rest = c :: cs ∧ (isBreak c = false ∧ isBlank c = false ∧ c ≠ '#') ∧
    (atScalar offset line ts (c :: cs)).fetch c cs = some next ∧ Settles next (t :: ts) rest

structure PlainStart (c : Char) (cs : List Char) : Prop where
  notIndicator : Style.isIndicator c = false
  notBreak : isBreak c = false
  notBlank : isBlank c = false
  word : c = '-' ∨ c = '?' ∨ c = ':' → ∃ d ds, cs = d :: ds ∧ atGap (d :: ds) = false

theorem plainStart_of_suits (h : suitsPlain (c :: cs) = true) : PlainStart c cs := by
  simp only [suitsPlain, Bool.and_eq_true, Bool.not_eq_true'] at h
  obtain ⟨⟨⟨⟨-, hend⟩, hbreak⟩, hprint⟩, hindicator⟩ := h
  simp only [Style.hasIndicator, Bool.or_eq_false_iff] at hindicator
  obtain ⟨-, ⟨hindicator, hgap⟩, hbreaksOff⟩ := hindicator
  have hword (hd : atGap cs = false) : ∃ d ds, cs = d :: ds ∧ atGap (d :: ds) = false := by
    cases cs with
    | nil => cases hd
    | cons d ds => exact ⟨d, ds, rfl, hd⟩
  refine ⟨hindicator, ?_, ?_, ?_⟩
  · exact Bool.eq_false_iff.mpr (List.any_eq_false.mp hbreak c List.mem_cons_self)
  · rw [isBlank_eq_isSpace (isPrintable_of_mem hprint List.mem_cons_self)]
    rw [Style.hasEnd, List.head?_cons, Option.any_some, Bool.or_eq_false_iff] at hend
    exact hend.1
  · rintro (rfl | rfl | rfl)
    · exact hword hgap
    · exact hword hgap
    · exact hword ((Style.breaksOff_cons hbreaksOff).2.2 rfl).2

theorem fetch_plain (h : suitsPlain (c :: cs) = true) (rest : List Char) :
    (atScalar offset line ts (c :: cs ++ '\n' :: rest)).fetch c (cs ++ '\n' :: rest) =
      (atScalar offset line ts (c :: cs ++ '\n' :: rest)).fetchPlain := by
  have hstart := plainStart_of_suits h
  have hindicator := hstart.notIndicator
  have hword (hc : c = '-' ∨ c = '?' ∨ c = ':') : atGap (cs ++ '\n' :: rest) = false := by
    obtain ⟨d, ds, rfl, hgap⟩ := hstart.word hc
    exact hgap
  rw [fetch.eq_def]
  generalize hs : atScalar offset line ts (c :: cs ++ '\n' :: rest) = s
  have hcolumn : (s.position.column == 0) = false := by subst hs; rfl
  have hflow : s.inFlow = false := by subst hs; rfl
  rw [hcolumn, Bool.false_and, Bool.false_and, if_neg Bool.false_ne_true, if_neg Bool.false_ne_true]
  split
  case h_13 => rw [hword (.inl rfl), if_neg Bool.false_ne_true]
  case h_14 => rw [hflow, hword (.inr (.inl rfl)), Bool.or_false, if_neg Bool.false_ne_true]
  case h_15 => rw [hflow, hword (.inr (.inr rfl)), Bool.or_false, if_neg Bool.false_ne_true]
  case h_16 =>
    have hne {d : Char} (hd : Style.isIndicator d = true) : (c == d) = false := by
      rw [beq_eq_false_iff_ne]
      rintro rfl
      rw [hd] at hindicator
      cases hindicator
    rw [startsNothing, hstart.notBlank, hstart.notBreak, hne (by decide), hne (by decide),
      hne (by decide)]
    rfl
  all_goals exact absurd hindicator (by decide)

theorem fetchPlain_settles (h : suitsPlain cs = true) (hrest : AtItem rest) :
    ∃ next, (atScalar offset line ts (cs ++ '\n' :: rest)).fetchPlain = some next ∧
      Settles next (scalar .plain cs :: ts) rest := by
  have hread : readPlain false 1 2 .none (cs ++ '\n' :: rest) = some (cs, ⟨true, rest⟩) :=
    readPlain_of_suits h (by decide) (by decide) hrest
  have hfetch : (atScalar offset line ts (cs ++ '\n' :: rest)).fetchPlain =
      (readPlain false 1 2 .none (cs ++ '\n' :: rest)).bind fun r =>
        some { ((withKey offset line ts (cs ++ '\n' :: rest)).advance r.2.rest).push
          (scalar .plain r.1) with keyAllowed := r.2.crossedLine } := rfl
  have hadvance := withKey_advance offset line ts (cs ++ ['\n']) rest (scalar .plain cs) true
  rw [List.append_assoc, List.singleton_append, List.foldl_append] at hadvance
  rw [hfetch, hread, Option.bind_some]
  refine ⟨_, rfl, ?_⟩
  simp only
  rw [hadvance]
  obtain ⟨hnext, hcolumn⟩ := Position.next_of_break (c := '\n')
    (p := cs.foldl Position.next ⟨offset, line, 2⟩) (by decide)
  refine settles_of_line _ hrest hcolumn ?_
  rintro _ ⟨⟩
  have hline : line ≤ (cs.foldl Position.next ⟨offset, line, 2⟩).line :=
    Position.line_le_foldl cs ⟨offset, line, 2⟩
  exact ⟨rfl, hnext ▸ Nat.lt_succ_of_le hline⟩

theorem scans_plain (h : suitsPlain cs = true) (hrest : AtItem rest) :
    Scans offset line ts (endLine cs) rest (scalar .plain cs) := by
  obtain ⟨next, hnext, hsettles⟩ := fetchPlain_settles offset line ts h hrest
  cases cs with
  | nil => cases h
  | cons c cs =>
    have hstart := plainStart_of_suits h
    have hmark : c ≠ '#' := by
      rintro rfl
      exact absurd hstart.notIndicator (by decide)
    refine ⟨c, cs ++ '\n' :: rest, next, ?_, ⟨hstart.notBreak, hstart.notBlank, hmark⟩,
      (fetch_plain offset line ts h rest).trans hnext, hsettles⟩
    rw [endLine_plain h, List.append_assoc]
    rfl

/-- Behind the closing quote the line ends. -/
theorem settles_of_quoted (taken : List Char) (t : Token) (hrest : AtItem rest) :
    Settles { ((withKey offset line ts (taken ++ '\n' :: rest)).advance ('\n' :: rest)).push t with
      keyAllowed := false } (t :: ts) rest := by
  rw [withKey_advance]
  refine settles_of_newline _ hrest ?_
  rintro _ ⟨⟩
  exact ⟨rfl, Position.line_le_foldl taken ⟨offset, line, 2⟩⟩

theorem scans_singleQuoted (h : suitsSingleQuoted cs = true) (hnewline : '\n' ∉ cs)
    (hrest : AtItem rest) :
    Scans offset line ts (endLine (singleQuoted cs)) rest (scalar .singleQuoted cs) := by
  have hread : readSingleQuoted false .none (singleQuotedFrom false cs ++ '\n' :: rest) =
      some (cs, '\n' :: rest) := readSingleQuoted_of_suits h hnewline (by simp)
  have hfetch : (atScalar offset line ts (singleQuoted cs ++ '\n' :: rest)).fetchSingleQuoted =
      (readSingleQuoted false .none (singleQuotedFrom false cs ++ '\n' :: rest)).bind fun r =>
        some { ((withKey offset line ts (singleQuoted cs ++ '\n' :: rest)).advance r.2).push
          (scalar .singleQuoted r.1) with keyAllowed := false } := rfl
  rw [hread, Option.bind_some] at hfetch
  refine ⟨'\'', singleQuotedFrom false cs ++ '\n' :: rest, _, ?_, by decide, hfetch,
    settles_of_quoted offset line ts _ _ hrest⟩
  rw [endLine_singleQuoted, List.append_assoc]
  rfl

theorem scans_doubleQuoted (cs : List Char) (hrest : AtItem rest) :
    Scans offset line ts (endLine (doubleQuoted cs)) rest (scalar .doubleQuoted cs) := by
  have hread : readDoubleQuoted false .none none (cs.flatMap escape ++ '"' :: '\n' :: rest) =
      some (cs, '\n' :: rest) := readDoubleQuoted_flatMap rfl cs
  have hfetch : (atScalar offset line ts (doubleQuoted cs ++ '\n' :: rest)).fetchDoubleQuoted =
      (readDoubleQuoted false .none none ((cs.flatMap escape ++ ['"']) ++ '\n' :: rest)).bind
        fun r => some { ((withKey offset line ts (doubleQuoted cs ++ '\n' :: rest)).advance
          r.2).push (scalar .doubleQuoted r.1) with keyAllowed := false } := rfl
  rw [List.append_assoc, List.singleton_append, hread, Option.bind_some] at hfetch
  refine ⟨'"', (cs.flatMap escape ++ ['"']) ++ '\n' :: rest, _, ?_, by decide, hfetch,
    settles_of_quoted offset line ts _ _ hrest⟩
  rw [endLine_doubleQuoted, List.append_assoc]
  rfl

theorem scans_literal (h : suitsLiteral cs = true) (hrest : AtItem rest) :
    Scans offset line ts (endLine (literal cs)) rest (scalar .literal cs) := by
  have hne : cs ≠ [] := by
    rintro rfl
    cases h
  have hread := readBlock_of_suits h hrest
  have htext : endLine (literal cs) ++ rest = '|' :: (indentationHint cs ++ (chomping cs ++ '\n' ::
      (literalFrom true cs ++ ((if cs.getLast?.any isBreak then [] else ['\n']) ++ rest)))) := by
    rw [endLine_literal hne, literal]
    simp only [List.cons_append, List.append_assoc]
  have hfetch : (atScalar offset line ts (endLine (literal cs) ++ rest)).fetchBlock false =
      (readBlock false 1 (endLine (literal cs) ++ rest).tail).bind fun r =>
        some { ((atScalar offset line ts (endLine (literal cs) ++ rest)).advance r.2).push
          (scalar .literal r.1) with keyAllowed := true } := rfl
  have htail := congrArg List.tail htext
  rw [List.tail_cons] at htail
  rw [htail, hread, Option.bind_some, advance_append _ rfl] at hfetch
  obtain ⟨front, c, hends, hbreak⟩ := endLine_ends (literal cs)
  rw [hends, List.foldl_append, ← hends, htext] at hfetch
  exact ⟨'|', _, _, htext, by decide, hfetch,
    settles_of_line _ hrest (Position.next_of_break hbreak).2 nofun⟩

/-- The scanner comes upon a scalar behind a dash and a space. -/
theorem toToken_scalar (hbreak : isBreak c = false) (hblank : isBlank c = false) (hmark : c ≠ '#') :
    (⟨' ' :: c :: cs, ⟨offset, line, 1⟩, ts, [0], none, [], true⟩ : Scanner).toToken =
      atScalar (offset + 1) line ts (c :: cs) := by
  rw [isBlank, Bool.or_eq_false_iff] at hblank
  have hgap : skipGap false false true ⟨offset, line, 1⟩ (' ' :: c :: cs) =
      (true, ⟨offset + 1, line, 2⟩, c :: cs) := by
    rw [skipGap]
    change skipGap false false true ⟨offset + 1, line, 2⟩ (c :: cs) = _
    simp [skipGap, hbreak, hblank, hmark]
  exact congrArg (fun g => (⟨g.2.2, g.2.1, ts, [0], none, [], g.1⟩ : Scanner)) hgap

/-- In whatever style a text is written, it is scanned whole. -/
theorem scans_write (entry : String) (hrest : AtItem rest) :
    Scans offset line ts (endLine (write entry)) rest (.scalar (Style.choose entry) entry) := by
  have htoken : Token.scalar (Style.choose entry) entry =
      scalar (Style.choose entry) entry.toList := by
    rw [scalar, String.ofList_toList]
  rw [htoken, write]
  obtain ⟨hstyle, hsuits⟩ | ⟨hstyle, hsuits, hnewline⟩ | ⟨hstyle, hsuits⟩ | hstyle :=
    Style.choose_suits entry
  all_goals rw [hstyle]
  · exact scans_plain offset line ts hsuits hrest
  · exact scans_singleQuoted offset line ts hsuits hnewline hrest
  · exact scans_literal offset line ts hsuits hrest
  · exact scans_doubleQuoted offset line ts entry.toList hrest

end

theorem run_item (ts : List Token) (entry : String) (hrest : AtItem rest) (hcolumn : p.column = 0) :
    ∃ p', p'.column = 0 ∧ ∀ fuel,
      (atItem p ts (itemLine entry ++ rest)).run (fuel + 3) =
        (atItem p' (.scalar (Style.choose entry) entry :: .blockEntry :: ts) rest).run
          (fuel + 1) := by
  obtain ⟨bytes, line, column⟩ := p
  obtain rfl : column = 0 := hcolumn
  obtain ⟨c, cs, next, hline, ⟨hbreak, hblank, hmark⟩, hfetch, p', hp', hsettles⟩ :=
    scans_write (bytes + 2) line (.blockEntry :: ts) entry hrest
  refine ⟨p', hp', fun fuel => ?_⟩
  have hitem : itemLine entry ++ rest = '-' :: ' ' :: c :: cs := by
    rw [← hline, itemLine, endLine_item, List.cons_append, List.cons_append]
  have hdash : (atItem ⟨bytes, line, 0⟩ ts ('-' :: ' ' :: c :: cs)).fetch '-' (' ' :: c :: cs) =
      some ⟨' ' :: c :: cs, ⟨bytes + 1, line, 1⟩, .blockEntry :: ts, [0], none, [], true⟩ := rfl
  have hscalar : (⟨' ' :: c :: cs, ⟨bytes + 1, line, 1⟩, .blockEntry :: ts, [0], none, [], true⟩ :
      Scanner).toToken.dropStaleKey =
        some (atScalar (bytes + 2) line (.blockEntry :: ts) (c :: cs)) := by
    rw [toToken_scalar (bytes + 1) line (.blockEntry :: ts) hbreak hblank hmark]
    rfl
  rw [hitem, run_step (atItem_ready (.next _) _ _) rfl hdash, run_step hscalar rfl hfetch]
  exact run_congr (hsettles.trans (atItem_ready hrest p' _).symm)

end Scanner

end PermissionGraph.Yaml
