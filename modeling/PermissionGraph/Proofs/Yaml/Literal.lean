import PermissionGraph.Proofs.Yaml.Plain
import PermissionGraph.Yaml.Scalar.Read

/-!
# Reading literal blocks back

A reader of a literal block keeps every line, and every break before a line. Of the breaks behind the
last line it keeps as many as the header says, and the header says what the text needs. Where the
text starts with a space or a break the header tells the indentation too, and elsewhere the first
line shows it.
-/

namespace PermissionGraph.Yaml.Scalar

open Style

variable {c : Char} {cs rest : List Char} {ch : Chomping} {indent : Nat} {folded b : Bool}

/-- What a reader has met last: a character of a line, or breaks since the last line. -/
inductive Met
  | word
  | breaks (first : Option Char) (more : List Char)

namespace Met

def addBreak (c : Char) : Met → Met
  | word => breaks (some c) []
  | breaks first more => breaks first (more ++ [c])

def next (m : Met) (c : Char) : Met := if isBreak c then m.addBreak c else word

def place (b : Bool) : Met → BlockPlace
  | word => .line b
  | breaks first more => .between 0 first more b

def isFresh : Met → Bool
  | word => false
  | breaks .. => true

def pending : Met → List Char
  | word => []
  | breaks first more => first.toList ++ more

def ending (m : Met) : List Char := if m.isFresh then [] else ['\n']

/-- At the end of a block its text is kept, and nothing else. -/
def Keeps (ch : Chomping) : Met → Prop
  | word => ch = .strip
  | breaks first more => chomp ch first more = first.toList ++ more

theorem next_of_break (h : isBreak c = true) (m : Met) : m.next c = m.addBreak c := if_pos h

theorem next_of_not_break (h : isBreak c = false) (m : Met) : m.next c = word := by
  rw [next, h, if_neg Bool.false_ne_true]

theorem isFresh_addBreak (m : Met) : (m.addBreak c).isFresh = true := by
  cases m <;> rfl

theorem pending_addBreak (m : Met) : (m.addBreak c).pending = m.pending ++ [c] := by
  cases m with
  | word => rfl
  | breaks first more => exact (List.append_assoc _ _ _).symm

theorem isFresh_next (m : Met) : (m.next c).isFresh = isBreak c := by
  cases h : isBreak c with
  | true => rw [next_of_break h, isFresh_addBreak]
  | false => rw [next_of_not_break h, isFresh]

theorem isFresh_foldl (h : cs ≠ []) (m : Met) :
    (cs.foldl next m).isFresh = cs.getLast?.any isBreak := by
  rw [← List.dropLast_concat_getLast h, List.foldl_append, List.getLast?_concat]
  exact isFresh_next _

theorem keeps_keep {m : Met} (h : m.isFresh = true) : m.Keeps .keep := by
  cases m with
  | word => cases h
  | breaks first more => rfl

end Met

theorem ne_space_of_isBreak (h : isBreak c = true) : (c == ' ') = false ∧ (c == '\t') = false := by
  simp only [beq_eq_false_iff_ne]
  constructor <;> rintro rfl <;> exact absurd h (by decide)

theorem readLines_break (h : isBreak c = true) (m : Met) :
    readLines false ch indent (m.place b) (c :: cs) =
      readLines false ch indent ((m.addBreak c).place b) cs := by
  obtain ⟨hspace, htab⟩ := ne_space_of_isBreak h
  cases m with
  | word => rw [Met.place, readLines, if_pos h, Met.addBreak, Met.place]
  | breaks first more =>
    rw [Met.place, readLines, hspace, htab, Bool.and_false, if_neg Bool.false_ne_true,
      if_neg Bool.false_ne_true, if_pos h, Met.addBreak, Met.place]

theorem readLines_space {column : Nat} (h : column < indent) (first : Option Char)
    (more : List Char) :
    readLines folded ch indent (.between column first more b) (' ' :: cs) =
      readLines folded ch indent (.between (column + 1) first more b) cs := by
  have hbefore : (decide (column < indent) && ' ' == ' ') = true := by simp [h]
  rw [readLines, if_pos hbefore]

/-- A line of a block is read behind its indentation. -/
theorem readLines_char (ch : Chomping) (h : isBreak c = false) (m : Met) (b : Bool)
    (cs : List Char) :
    ∃ b', readLines false ch 2 (m.place b)
        ((if m.isFresh then indentation else []) ++ c :: cs) =
      after (m.pending ++ [c]) (readLines false ch 2 (Met.word.place b') cs) := by
  have hbreak : ¬ isBreak c = true := by rw [h]; exact Bool.false_ne_true
  cases m with
  | word =>
    refine ⟨b, ?_⟩
    simp only [Met.isFresh, Bool.false_eq_true, if_false, List.nil_append, Met.place]
    rw [readLines, if_neg hbreak]
    rfl
  | breaks first more =>
    refine ⟨isBlank c, ?_⟩
    simp only [Met.isFresh, if_true, indentation, List.cons_append, List.nil_append, Met.place]
    rw [readLines_space (by decide), readLines_space (by decide), readLines]
    simp [hbreak, after, betweenLines, Met.pending]

theorem readLines_literal (cs : List Char) (m : Met) (b : Bool) (hrest : AtItem rest)
    (hkeeps : (cs.foldl Met.next m).Keeps ch) :
    readLines false ch 2 (m.place b)
        (literalFrom m.isFresh cs ++ ((cs.foldl Met.next m).ending ++ rest)) =
      some (m.pending ++ cs, rest) := by
  induction cs generalizing m b with
  | nil =>
    rw [List.foldl_nil] at hkeeps ⊢
    have hend (first : Option Char) (more : List Char) :
        readLines false ch 2 (.between 0 first more b) rest = some (chomp ch first more, rest) := by
      cases hrest <;> rfl
    cases m with
    | word =>
      obtain rfl : ch = .strip := hkeeps
      exact (readLines_break rfl .word).trans (hend (some '\n') [])
    | breaks first more =>
      rw [List.append_nil, Met.pending, ← hkeeps]
      exact hend first more
  | cons c cs ih =>
    rw [List.foldl_cons] at hkeeps ⊢
    rw [literalFrom]
    cases hbreak : isBreak c with
    | true =>
      rw [Met.next_of_break hbreak] at hkeeps ⊢
      have htail := ih (m.addBreak c) b hkeeps
      rw [Met.isFresh_addBreak, Met.pending_addBreak] at htail
      rw [if_pos rfl, List.cons_append, readLines_break hbreak, htail, List.append_assoc,
        List.singleton_append]
    | false =>
      rw [Met.next_of_not_break hbreak] at hkeeps ⊢
      rw [if_neg Bool.false_ne_true, List.append_assoc, List.cons_append]
      obtain ⟨b', hchar⟩ := readLines_char ch hbreak m b
        (literalFrom false cs ++ ((cs.foldl Met.next .word).ending ++ rest))
      rw [hchar]
      have htail := ih .word b' hkeeps
      rw [Met.isFresh] at htail
      rw [htail]
      simp [after, Met.pending]

inductive SignOf : Chomping → List Char → Prop
  | strip : SignOf .strip ['-']
  | clip : SignOf .clip []
  | keep : SignOf .keep ['+']

/-- The header of a written block has the sign that its text needs. -/
theorem signOf_chomping (h : cs ≠ []) (m : Met) :
    ∃ ch, SignOf ch (chomping cs) ∧ (cs.foldl Met.next m).Keeps ch := by
  obtain ⟨rs, rfl⟩ : ∃ rs : List Char, rs.reverse = cs := ⟨cs.reverse, List.reverse_reverse cs⟩
  rw [List.foldl_reverse, chomping, List.reverse_reverse]
  match rs with
  | [] => exact absurd rfl h
  | [c] =>
    simp only [List.foldr_cons, List.foldr_nil]
    by_cases hc : isBreak c = true
    · rw [Met.next_of_break hc, if_pos hc]
      exact ⟨.keep, .keep, Met.keeps_keep (Met.isFresh_addBreak m)⟩
    · rw [Met.next_of_not_break (Bool.eq_false_iff.mpr hc), if_neg hc]
      exact ⟨.strip, .strip, rfl⟩
  | c :: d :: rs =>
    simp only [List.foldr_cons]
    by_cases hc : isBreak c = true
    · rw [Met.next_of_break hc, if_neg (by simp [hc])]
      by_cases hd : isBreak d = true
      · rw [if_pos hd]
        exact ⟨.keep, .keep, Met.keeps_keep (Met.isFresh_addBreak _)⟩
      · rw [Met.next_of_not_break (Bool.eq_false_iff.mpr hd), if_neg hd]
        exact ⟨.clip, .clip, rfl⟩
    · rw [Met.next_of_not_break (Bool.eq_false_iff.mpr hc), if_pos (by simp [hc])]
      exact ⟨.strip, .strip, rfl⟩

/-- Passing the empty lines before a block leads to its lines. -/
theorem readLines_eq_blockStart (column farthest : Nat) (breaks cs : List Char) :
    readLines folded ch indent (.between column none breaks false) cs =
      (blockStart (some indent) column farthest breaks cs).bind fun start =>
        readLines folded ch indent (.between start.column none start.breaks false) start.rest := by
  induction cs generalizing column farthest breaks with
  | nil => rfl
  | cons c cs ih =>
    rw [readLines, blockStart]
    simp only [Option.all_some]
    split
    · exact ih ..
    · split
      · rfl
      · split
        · exact ih ..
        · rw [Option.bind_some, readLines]
          simp [*]

theorem read_sign {sign : List Char} (hsign : SignOf ch sign) (text : List Char) :
    BlockHeader.read (sign ++ '\n' :: text) = some (⟨ch, none⟩, '\n' :: text) ∧
      BlockHeader.read ('2' :: (sign ++ '\n' :: text)) = some (⟨ch, some 2⟩, '\n' :: text) := by
  cases hsign <;> exact ⟨rfl, rfl⟩

theorem endOfLine?_newline (text : List Char) : endOfLine? ('\n' :: text) = some text := by
  rw [endOfLine?, List.dropWhile_cons_of_neg (by decide)]
  rfl

/-- Where the header does not tell the indentation, the first line shows it. -/
theorem readBlock_shown {sign : List Char} (hsign : SignOf ch sign) (hbreak : isBreak c = false)
    (hblank : isBlank c = false) (text : List Char) :
    readBlock false 1 (sign ++ '\n' :: (indentation ++ c :: text)) =
      readLines false ch 2 (.between 0 none [] false) (indentation ++ c :: text) := by
  have hstart : blockStart none 0 0 [] (indentation ++ c :: text) = some ⟨[], 2, 2, c :: text⟩ := by
    rw [isBlank, Bool.or_eq_false_iff] at hblank
    simp [indentation, blockStart, hbreak, hblank]
  rw [readBlock, (read_sign hsign _).1]
  simp only [Option.bind_eq_bind, Option.bind_some, endOfLine?_newline, Option.map_none, hstart]
  exact ((readLines_space (by decide) none []).trans (readLines_space (by decide) none [])).symm

theorem readBlock_told {sign : List Char} (hsign : SignOf ch sign) (text : List Char) :
    readBlock false 1 ('2' :: (sign ++ '\n' :: text)) =
      readLines false ch 2 (.between 0 none [] false) text := by
  rw [readBlock, (read_sign hsign _).2]
  simp only [Option.bind_eq_bind, Option.bind_some, endOfLine?_newline, Option.map_some]
  exact (readLines_eq_blockStart 0 0 [] text).symm

/-- A text in the literal style is read back, up to the line behind it. -/
theorem readBlock_of_suits (h : suitsLiteral cs = true) (hrest : AtItem rest) :
    readBlock false 1 (indentationHint cs ++ (chomping cs ++ '\n' ::
      (literalFrom true cs ++ ((if cs.getLast?.any isBreak then [] else ['\n']) ++ rest)))) =
        some (cs, rest) := by
  simp only [suitsLiteral, Bool.and_eq_true, Bool.not_eq_true'] at h
  obtain ⟨⟨⟨hne, -⟩, -⟩, hprint⟩ := h
  have hne : cs ≠ [] := by
    rintro rfl
    cases hne
  obtain ⟨ch, hsign, hkeeps⟩ := signOf_chomping hne (.breaks none [])
  have hlines := readLines_literal cs (.breaks none []) false hrest hkeeps
  rw [Met.ending, Met.isFresh_foldl hne] at hlines
  rw [indentationHint]
  split
  · exact (readBlock_told hsign _).trans hlines
  · next hhint =>
    obtain ⟨c, cs, rfl⟩ := List.exists_cons_of_ne_nil hne
    rw [List.head?_cons, Option.any_some, Bool.or_eq_true, not_or, Bool.not_eq_true,
      Bool.not_eq_true] at hhint
    obtain ⟨hspace, hbreak⟩ := hhint
    have hblank : isBlank c = false := by
      rw [isBlank_eq_isSpace (isPrintable_of_mem hprint List.mem_cons_self)]
      exact hspace
    rw [Met.isFresh, literalFrom, hbreak, if_neg Bool.false_ne_true, if_pos rfl,
      List.append_assoc, List.cons_append] at hlines
    rw [literalFrom, hbreak, if_neg Bool.false_ne_true, if_pos rfl, List.append_assoc,
      List.cons_append]
    exact (readBlock_shown hsign hbreak hblank _).trans hlines

end PermissionGraph.Yaml.Scalar
