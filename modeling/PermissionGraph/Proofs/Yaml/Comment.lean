import PermissionGraph.DefaultsFile
import PermissionGraph.Proofs.Yaml.Progress
import PermissionGraph.Proofs.Yaml.Shift

/-!
# Comments before a document

Whole lines of comment before a stream do not change what is read from it, and the header of a file
of defaults consists of such lines.
-/

namespace PermissionGraph

namespace Yaml

/-- Lines that start with `#`, without a carriage return; `inComment` says that the first has
started. -/
def commentLines (inComment : Bool) : List Char → Bool
  | [] => !inComment
  | c :: cs =>
    isReadable c && c != '\r' && c != '\u0085' &&
      (if isBreak c then commentLines false cs else (inComment || c == '#') && commentLines true cs)

variable {inComment : Bool} {comment : List Char}

theorem commentLines_cons {c : Char} (h : commentLines inComment (c :: comment) = true) :
    isReadable c = true ∧ c ≠ '\r' ∧ c ≠ '\u0085' ∧
      (isBreak c = true ∧ commentLines false comment = true ∨
        isBreak c = false ∧ (inComment = true ∨ c = '#') ∧ commentLines true comment = true) := by
  simp only [commentLines, Bool.and_eq_true, bne_iff_ne] at h
  obtain ⟨⟨⟨hreadable, hreturn⟩, hnext⟩, htail⟩ := h
  refine ⟨hreadable, hreturn, hnext, ?_⟩
  cases hbreak : isBreak c
  · simpa [hbreak] using htail
  · simpa [hbreak] using htail

theorem commentLines_append (h : commentLines inComment comment = true) {more : List Char}
    (hmore : commentLines false more = true) : commentLines inComment (comment ++ more) = true := by
  induction comment generalizing inComment with
  | nil =>
    obtain rfl : inComment = false := by simpa [commentLines] using h
    exact hmore
  | cons c comment ih =>
    obtain ⟨hreadable, hreturn, hnext, ⟨hbreak, htail⟩ | ⟨hbreak, hmark, htail⟩⟩ :=
      commentLines_cons h
    · simp [commentLines, hreadable, hreturn, hnext, hbreak, ih htail]
    · simp [commentLines, hreadable, hreturn, hnext, hbreak, hmark, ih htail]

theorem all_isReadable_comment (h : commentLines inComment comment = true) :
    comment.all isReadable = true := by
  induction comment generalizing inComment with
  | nil => rfl
  | cons c comment ih =>
    obtain ⟨hreadable, -, -, ⟨-, htail⟩ | ⟨-, -, htail⟩⟩ := commentLines_cons h
    · rw [List.all_cons, hreadable, ih htail, Bool.and_self]
    · rw [List.all_cons, hreadable, ih htail, Bool.and_self]

theorem column_comment (h : commentLines inComment comment = true) {p : Position}
    (hp : inComment = true ∨ p.column = 0) : (comment.foldl Position.next p).column = 0 := by
  induction comment generalizing inComment p with
  | nil =>
    obtain rfl : inComment = false := by simpa [commentLines] using h
    exact hp.resolve_left Bool.false_ne_true
  | cons c comment ih =>
    obtain ⟨-, -, -, ⟨hbreak, htail⟩ | ⟨-, -, htail⟩⟩ := commentLines_cons h
    · apply ih htail
      rw [Position.next, if_pos hbreak]
      exact Or.inr rfl
    · exact ih htail (Or.inl rfl)

theorem normalizeBreaks_comment (h : commentLines inComment comment = true) (cs : List Char) :
    normalizeBreaks (comment ++ cs) = comment ++ normalizeBreaks cs := by
  induction comment generalizing inComment with
  | nil => rfl
  | cons c comment ih =>
    obtain ⟨-, hreturn, hnext, htail⟩ := commentLines_cons h
    have hcomment : normalizeBreaks (comment ++ cs) = comment ++ normalizeBreaks cs := by
      rcases htail with ⟨-, htail⟩ | ⟨-, -, htail⟩
      · exact ih htail
      · exact ih htail
    rw [List.cons_append, normalizeBreaks]
    · simp [hreturn, hnext, hcomment]
    · rintro - rfl
      exact absurd rfl hreturn

namespace Scanner

theorem skipGap_comment (h : commentLines inComment comment = true) (p : Position)
    (cs : List Char) :
    skipGap false inComment true p (comment ++ cs) =
      skipGap false false true (comment.foldl Position.next p) cs := by
  induction comment generalizing inComment p with
  | nil =>
    obtain rfl : inComment = false := by simpa [commentLines] using h
    rfl
  | cons c comment ih =>
    rw [List.cons_append, skipGap, List.foldl_cons]
    obtain ⟨-, -, -, ⟨hbreak, htail⟩ | ⟨hbreak, hmark, htail⟩⟩ := commentLines_cons h
    · rw [if_pos hbreak]
      exact ih htail _
    · rw [hbreak, if_neg Bool.false_ne_true]
      rcases hmark with hcomment | rfl
      · rw [if_pos hcomment]
        exact ih htail _
      · split
        · exact ih htail _
        · exact ih htail _

theorem run_comment (h : commentLines false comment = true) (fuel : Nat) (cs : List Char) :
    (start (comment ++ cs)).run (fuel + 1) = (start cs).run (fuel + 1) := by
  have hcolumn := column_comment h (Or.inr (rfl : Position.start.column = 0))
  obtain ⟨bytes, lines, hend⟩ : ∃ bytes lines,
      comment.foldl Position.next Position.start = Position.start.shift bytes lines := by
    refine ⟨(comment.foldl Position.next Position.start).offset,
      (comment.foldl Position.next Position.start).line, ?_⟩
    cases hp : comment.foldl Position.next Position.start with
    | mk offset line column =>
      rw [hp] at hcolumn
      obtain rfl : column = 0 := hcolumn
      rw [Position.shift, Position.start, Nat.zero_add, Nat.zero_add]
  have htoken : (start (comment ++ cs)).toToken = ((start cs).shift bytes lines).toToken := by
    have hgap := skipGap_comment h Position.start cs
    rw [hend] at hgap
    rw [toToken, toToken]
    exact congrArg (fun g => { start [] with keyAllowed := g.1, position := g.2.1, rest := g.2.2 })
      hgap
  rw [← run_shift bytes lines (start cs)]
  simp only [run, htoken]

end Scanner

theorem length_normalizeBreaks_le (cs : List Char) :
    (normalizeBreaks cs).length ≤ cs.length := by
  fun_induction normalizeBreaks cs with
  | case1 => exact Nat.le_refl 0
  | case2 cs ih => exact Nat.le_succ_of_le (Nat.succ_le_succ ih)
  | case3 c cs _ ih => exact Nat.succ_le_succ ih

theorem scan_comment (h : commentLines false comment = true) (cs : List Char) :
    scan (comment ++ cs) = scan cs := by
  have hfuel : (Scanner.start (normalizeBreaks cs)).rest.length < cs.length + 1 :=
    Nat.lt_succ_of_le (length_normalizeBreaks_le cs)
  rw [scan, normalizeBreaks_comment h, Scanner.run_comment h]
  apply Scanner.run_eq_run hfuel
  rw [List.length_append]
  omega

theorem read_comment (h : commentLines false comment = true) (cs : List Char) :
    Document.read (comment ++ cs) = Document.read cs := by
  rw [Document.read, Document.read, List.all_append, all_isReadable_comment h, Bool.true_and,
    scan_comment h]

end Yaml

namespace DefaultsFile

open Yaml

theorem comment_append {s t : String} (hs : commentLines false s.toList = true)
    (ht : commentLines false t.toList = true) : commentLines false (s ++ t).toList = true := by
  rw [String.toList_append]
  exact commentLines_append hs ht

theorem not_isBlank_append {s : String} (hs : Text.isBlank s = false) (t : String) :
    Text.isBlank (s ++ t) = false := by
  rw [Text.isBlank] at hs ⊢
  rw [String.toList_append, List.all_append, hs, Bool.false_and]

-- line by line, as the kernel takes long to decode a text that was put together
theorem header_comment : commentLines false header.toList = true :=
  comment_append (comment_append (comment_append (by decide +kernel) (by decide +kernel))
    (by decide +kernel)) (by decide +kernel)

theorem header_not_isBlank : Text.isBlank header = false :=
  not_isBlank_append (not_isBlank_append (not_isBlank_append (by decide +kernel) _) _) _

/-- The header changes nothing of what is read, and neither does it of what is refused. -/
theorem parse_header (text : String) : parse (header ++ text) = parse text := by
  rw [parse, parse, String.toList_append, read_comment header_comment]

theorem read_header (text : String) : read (header ++ text) = parse (header ++ text) := by
  rw [read, not_isBlank_append header_not_isBlank, if_neg Bool.false_ne_true]

theorem read_body (c : Config) : read (body c) = parse (body c) := by
  have hword : Text.isBlank "enabled: " = false := by decide +kernel
  have hbody : Text.isBlank (body c) = false :=
    not_isBlank_append (not_isBlank_append (not_isBlank_append hword _) _) _
  rw [read, hbody, if_neg Bool.false_ne_true]

/-- What is read back from below the header is read back from the file. -/
theorem read_render {c : Config} (h : parse (body c) = .ok c) : read (render c) = .ok c := by
  rw [render, read_header, parse_header, h]

end DefaultsFile

end PermissionGraph
