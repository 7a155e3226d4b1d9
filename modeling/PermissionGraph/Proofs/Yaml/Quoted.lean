import PermissionGraph.Proofs.Yaml.Plain
import Mathlib.Data.Nat.Digits.Defs

/-!
# Reading quoted scalars back

Within single quotes a written text has its breaks, each with an indentation behind it, and a quote
that is doubled. The first break of several is none that would be read as a space. Within double
quotes every break is escaped, and so is whatever is not printable.
-/

namespace PermissionGraph.Yaml

namespace Style

variable {p q : Char → Bool} {c : Char} {cs : List Char}

theorem adjacent_cons (h : adjacent p q (c :: cs) = false) :
    adjacent p q cs = false ∧ (p c = true → ∀ d, cs.head? = some d → q d = false) := by
  cases cs with
  | nil => exact ⟨rfl, nofun⟩
  | cons d cs =>
    rw [adjacent, Bool.or_eq_false_iff, Bool.and_eq_false_imp] at h
    refine ⟨h.2, ?_⟩
    rintro hc _ ⟨⟩
    exact h.1 hc

end Style

namespace Scalar

open Style

variable {c : Char} {cs rest : List Char} {gap : Gap} {fresh : Bool}

theorem after_after {α : Type} (xs ys : List Char) (result : Option (List Char × α)) :
    after xs (after ys result) = after (xs ++ ys) result := by
  cases result with
  | none => rfl
  | some value => simp [after]

theorem after_some {α : Type} (xs ys : List Char) (rest : α) :
    after xs (some (ys, rest)) = some (xs ++ ys, rest) := rfl

structure QuotedRest (cs : List Char) : Prop where
  printable : ∀ c ∈ cs, isPrintable c = true
  noNewline : ∀ c ∈ cs, c ≠ '\n'
  breakSpace : adjacent isBreak isSpace cs = false
  spaceBreak : adjacent isSpace isBreak cs = false

theorem QuotedRest.tail (h : QuotedRest (c :: cs)) : QuotedRest cs where
  printable d hd := h.printable d (List.mem_cons_of_mem c hd)
  noNewline d hd := h.noNewline d (List.mem_cons_of_mem c hd)
  breakSpace := (adjacent_cons h.breakSpace).1
  spaceBreak := (adjacent_cons h.spaceBreak).1

/-- The gap that a reader has come upon before `cs`, and no part of which it will drop; `fresh` says
that a line has just begun. -/
inductive GapBefore : Bool → Gap → List Char → Prop
  | word (cs : List Char) : GapBefore false .none cs
  | blanks (ws : List Char) {cs : List Char} (h : ∀ c, cs.head? = some c → isBreak c = false) :
      GapBefore false (.blanks ws) cs
  | line {first : Char} (more : List Char) (hfirst : first ≠ '\n') {cs : List Char}
      (h : ∀ c, cs.head? = some c → isSpace c = false) :
      GapBefore true (.lines (some first) more) cs

theorem text_lines {first : Char} (more : List Char) (h : first ≠ '\n') :
    (Gap.lines (some first) more).text = first :: more := by
  unfold Gap.text
  split
  · next heq => cases heq
  · next heq => cases heq
  · next heq => cases heq; exact absurd rfl h
  · next heq => cases heq; exact absurd rfl h
  · next heq => cases heq; rfl

theorem GapBefore.addBreak (h : GapBefore fresh gap (c :: cs)) (hbreak : isBreak c = true)
    (hrest : QuotedRest (c :: cs)) :
    GapBefore true (gap.addBreak c) cs ∧ (gap.addBreak c).text = gap.text ++ [c] := by
  have hc : c ≠ '\n' := hrest.noNewline c List.mem_cons_self
  have hspace := (adjacent_cons hrest.breakSpace).2 hbreak
  cases h with
  | word => exact ⟨.line [] hc hspace, text_lines [] hc⟩
  | blanks ws hnone =>
    rw [hnone c rfl] at hbreak
    cases hbreak
  | @line first more hfirst _ _ =>
    refine ⟨.line (more ++ [c]) hfirst hspace, ?_⟩
    rw [Gap.addBreak, text_lines _ hfirst, text_lines _ hfirst, List.cons_append]

theorem GapBefore.addSpace (h : GapBefore fresh gap (c :: cs)) (hc : isSpace c = true)
    (hrest : QuotedRest (c :: cs)) :
    fresh = false ∧ GapBefore false (gap.addBlank c) cs ∧
      (gap.addBlank c).text = gap.text ++ [c] := by
  have hbreak := (adjacent_cons hrest.spaceBreak).2 hc
  cases h with
  | word => exact ⟨rfl, .blanks [c] hbreak, rfl⟩
  | blanks ws _ => exact ⟨rfl, .blanks (ws ++ [c]) hbreak, rfl⟩
  | line more _ hspace =>
    rw [hspace c rfl] at hc
    cases hc

section

variable {lineStart : Bool}

theorem readSingleQuoted_break (h : isBreak c = true) :
    readSingleQuoted lineStart gap (c :: cs) = readSingleQuoted true (gap.addBreak c) cs := by
  rw [readSingleQuoted.eq_def]
  exact if_pos h

theorem readSingleQuoted_blank (h : isBlank c = true) :
    readSingleQuoted lineStart gap (c :: cs) = readSingleQuoted false (gap.addBlank c) cs := by
  have hbreak : ¬ isBreak c = true := by rw [not_isBreak_of_isBlank h]; exact Bool.false_ne_true
  rw [readSingleQuoted.eq_def]
  exact (if_neg hbreak).trans (if_pos h)

theorem readSingleQuoted_doubled (cs : List Char) :
    readSingleQuoted false gap ('\'' :: '\'' :: cs) =
      after (gap.text ++ ['\'']) (readSingleQuoted false .none cs) := by
  rw [readSingleQuoted.eq_def]
  rfl

theorem readSingleQuoted_close (h : rest.head? ≠ some '\'') :
    readSingleQuoted false gap ('\'' :: rest) = some (gap.text, rest) := by
  have hbreak : ¬ isBreak '\'' = true := by decide
  have hblank : ¬ isBlank '\'' = true := by decide
  have hquote : ('\'' == '\'') = true := rfl
  rw [readSingleQuoted.eq_def]
  dsimp only
  rw [if_neg hbreak, if_neg hblank, Bool.false_and, if_neg Bool.false_ne_true, if_pos hquote]
  split
  · exact absurd rfl h
  · rfl

theorem readSingleQuoted_char (hbreak : isBreak c = false) (hblank : isBlank c = false)
    (hquote : c ≠ '\'') :
    readSingleQuoted false gap (c :: cs) =
      after (gap.text ++ [c]) (readSingleQuoted false .none cs) := by
  rw [readSingleQuoted.eq_def]
  simp [hbreak, hblank, hquote]

/-- Behind a break the indentation of the next line is passed over. -/
theorem readSingleQuoted_indented (h : GapBefore fresh gap cs) (text : List Char) :
    readSingleQuoted fresh gap ((if fresh then indentation else []) ++ text) =
      readSingleQuoted false gap text := by
  cases h with
  | word => rfl
  | blanks ws _ => rfl
  | line more _ _ =>
    simp only [if_true, indentation, List.cons_append, List.nil_append]
    rw [readSingleQuoted_blank rfl, readSingleQuoted_blank rfl]
    rfl

end

theorem readSingleQuoted_rest (h : QuotedRest cs) (hgap : GapBefore fresh gap cs)
    (hrest : rest.head? ≠ some '\'') :
    readSingleQuoted fresh gap (singleQuotedFrom fresh cs ++ rest) =
      some (gap.text ++ cs, rest) := by
  induction cs generalizing fresh gap with
  | nil =>
    rw [singleQuotedFrom, List.append_assoc, readSingleQuoted_indented hgap, List.append_nil]
    exact readSingleQuoted_close hrest
  | cons c cs ih =>
    rw [singleQuotedFrom]
    cases hbreak : isBreak c with
    | true =>
      obtain ⟨hnext, htext⟩ := hgap.addBreak hbreak h
      rw [if_pos rfl, List.cons_append, readSingleQuoted_break hbreak, ih h.tail hnext, htext,
        List.append_assoc, List.singleton_append]
    | false =>
      rw [if_neg Bool.false_ne_true, List.append_assoc, List.append_assoc,
        readSingleQuoted_indented hgap]
      have hword := ih h.tail (.word cs)
      have hprint := h.printable c List.mem_cons_self
      have hblank := isBlank_eq_isSpace hprint
      by_cases hquote : c = '\''
      · subst hquote
        rw [if_pos rfl, List.cons_append, List.singleton_append, readSingleQuoted_doubled, hword,
          after_some]
        simp [Gap.text]
      · rw [if_neg hquote, List.singleton_append]
        cases hspace : isSpace c with
        | true =>
          rw [hspace] at hblank
          obtain ⟨-, hnext, htext⟩ := hgap.addSpace hspace h
          rw [readSingleQuoted_blank hblank, ih h.tail hnext, htext, List.append_assoc,
            List.singleton_append]
        | false =>
          rw [hspace] at hblank
          rw [readSingleQuoted_char hbreak hblank hquote, hword, after_some]
          simp [Gap.text]

/-- A text in the single-quoted style is read back. -/
theorem readSingleQuoted_of_suits (h : suitsSingleQuoted cs = true) (hnewline : '\n' ∉ cs)
    (hrest : rest.head? ≠ some '\'') :
    readSingleQuoted false .none (singleQuotedFrom false cs ++ rest) = some (cs, rest) := by
  simp only [suitsSingleQuoted, Bool.and_eq_true, Bool.not_eq_true'] at h
  obtain ⟨⟨hbreakSpace, hspaceBreak⟩, hprint⟩ := h
  refine readSingleQuoted_rest ⟨fun c => isPrintable_of_mem hprint, ?_, hbreakSpace, hspaceBreak⟩
    (.word cs) hrest
  rintro c hc rfl
  exact hnewline hc

section

variable {tail : List Char}

theorem readDoubleQuoted_blank (h : isBlank c = true) :
    readDoubleQuoted false gap none (c :: cs) =
      readDoubleQuoted false (gap.addBlank c) none cs := by
  have hbreak : ¬ isBreak c = true := by rw [not_isBreak_of_isBlank h]; exact Bool.false_ne_true
  rw [readDoubleQuoted.eq_def]
  exact (if_neg hbreak).trans (if_pos h)

theorem readDoubleQuoted_char (hbreak : isBreak c = false) (hblank : isBlank c = false)
    (hquote : c ≠ '"') (hescape : c ≠ '\\') :
    readDoubleQuoted false gap none (c :: cs) =
      after (gap.text ++ [c]) (readDoubleQuoted false .none none cs) := by
  rw [readDoubleQuoted.eq_def]
  simp [hbreak, hblank, hquote, hescape]

theorem readDoubleQuoted_unescape {d : Char} (hd : unescape? d = some c)
    (hbreak : isBreak d = false) (hwidth : escapeWidth? d = none) :
    readDoubleQuoted false gap none ('\\' :: d :: tail) =
      after (gap.text ++ [c]) (readDoubleQuoted false .none none tail) := by
  rw [readDoubleQuoted.eq_def]
  simp [hd, hbreak, hwidth, show isBreak '\\' = false by decide,
    show isBlank '\\' = false by decide]

theorem readDoubleQuoted_width {d : Char} {width : Nat} (hbreak : isBreak d = false)
    (hwidth : escapeWidth? d = some width) :
    readDoubleQuoted false gap none ('\\' :: d :: tail) =
      after gap.text (readDoubleQuoted false .none (some ⟨width, 0⟩) tail) := by
  rw [readDoubleQuoted.eq_def]
  simp [hbreak, hwidth, show isBreak '\\' = false by decide,
    show isBlank '\\' = false by decide]

/-- An escape by code point stands for its character. -/
theorem readDoubleQuoted_code (tail digits : List Char) (hdigits : digits ≠ []) {value code : Nat}
    (hcode : digits.foldlM (fun n c => (digit? 16 c).map (n * 16 + ·)) value = some code) :
    readDoubleQuoted false .none (some ⟨digits.length, value⟩) (digits ++ tail) =
      (character? code).bind fun x => after [x] (readDoubleQuoted false .none none tail) := by
  induction digits generalizing value with
  | nil => exact absurd rfl hdigits
  | cons d ds ih =>
    rw [List.foldlM_cons] at hcode
    obtain ⟨value', hvalue, hcode⟩ := Option.bind_eq_some_iff.mp hcode
    obtain ⟨x, hx, rfl⟩ := Option.map_eq_some_iff.mp hvalue
    rw [List.cons_append, readDoubleQuoted.eq_def]
    simp only [hx, Option.bind_some, List.length_cons]
    cases ds with
    | nil =>
      obtain rfl : value * 16 + x = code := Option.some.inj hcode
      rfl
    | cons e es =>
      rw [if_neg (by simp), Nat.add_sub_cancel]
      exact ih (List.cons_ne_nil e es) hcode

end

theorem digit?_upper : ∀ n < 16, digit? 16 (Nat.digitChar n).toUpper = some n := by
  decide

theorem foldlM_upper (n : Nat) :
    ((Nat.toDigits 16 n).map Char.toUpper).foldlM
      (fun n c => (digit? 16 c).map (n * 16 + ·)) 0 = some n := by
  induction n using Nat.strongRecOn with
  | ind n ih =>
    by_cases hn : n < 16
    · rw [Nat.toDigits_of_lt_base hn, List.map_cons, List.map_nil, List.foldlM_cons,
        digit?_upper n hn]
      simp
    · have hlt : n / 16 < n := by omega
      have hdigit := digit?_upper (n % 16) (Nat.mod_lt n (by omega))
      rw [Nat.toDigits_of_base_le (by omega) (by omega), List.map_append, List.foldlM_append,
        ih _ hlt]
      simp only [List.map_cons, List.map_nil, List.foldlM_cons, List.foldlM_nil, hdigit,
        Option.bind_eq_bind, Option.bind_some, Option.map_some]
      congr 1
      omega

theorem foldlM_zeros (count : Nat) (cs : List Char) :
    (List.replicate count '0' ++ cs).foldlM (fun n c => (digit? 16 c).map (n * 16 + ·)) 0 =
      cs.foldlM (fun n c => (digit? 16 c).map (n * 16 + ·)) 0 := by
  induction count with
  | zero => rfl
  | succ count ih =>
    rw [List.replicate_succ, List.cons_append, List.foldlM_cons]
    exact ih

theorem foldlM_upperHex (width n : Nat) :
    (upperHex width n).foldlM (fun n c => (digit? 16 c).map (n * 16 + ·)) 0 = some n := by
  rw [upperHex, foldlM_zeros, foldlM_upper]

theorem length_upperHex {width n : Nat} (hwidth : 0 < width) (hn : n < 16 ^ width) :
    (upperHex width n).length = width := by
  have hlength := Nat.toDigits_length 16 n width hwidth hn
  rw [upperHex, List.length_append, List.length_replicate, List.length_map]
  omega

theorem character?_toNat (c : Char) : character? c.toNat = some c := by
  have hvalid : c.toNat < 0xD800 ∨ (0xDFFF < c.toNat ∧ c.toNat < 0x110000) := c.valid
  rw [character?, if_pos hvalid, Char.ofNat_toNat]

theorem readDoubleQuoted_upperHex {d : Char} {width : Nat} (hbreak : isBreak d = false)
    (hwidth : escapeWidth? d = some width) (hpos : 0 < width) (hc : c.toNat < 16 ^ width)
    (tail : List Char) :
    readDoubleQuoted false gap none ('\\' :: d :: (upperHex width c.toNat ++ tail)) =
      after (gap.text ++ [c]) (readDoubleQuoted false .none none tail) := by
  have hlength := length_upperHex hpos hc
  have hdigits : upperHex width c.toNat ≠ [] := by
    intro hnil
    rw [hnil] at hlength
    exact absurd hlength (by simp; omega)
  have hcode := readDoubleQuoted_code tail _ hdigits (foldlM_upperHex width c.toNat)
  rw [hlength, character?_toNat] at hcode
  rw [readDoubleQuoted_width hbreak hwidth, hcode, Option.bind_some, after_after]

/-- A character is escaped by a letter, stands for itself or is escaped by its code point. -/
theorem escape_cases (c : Char) :
    (∃ d, escape c = ['\\', d] ∧ isPrintable d = true ∧ unescape? d = some c ∧
        isBreak d = false ∧ escapeWidth? d = none) ∨
      (escape c = [c] ∧ isPrintable c = true ∧ isBreak c = false ∧ c ≠ '"' ∧ c ≠ '\\') ∨
      ∃ d width, escape c = '\\' :: d :: upperHex width c.toNat ∧ escapeWidth? d = some width ∧
        isBreak d = false ∧ 0 < width ∧ c.toNat < 16 ^ width := by
  unfold escape
  split
  case h_15 hnul hbell hback htab hnewline hline hform hreturn hesc hquote hslash hnext hls hps =>
    refine Or.inr ?_
    by_cases hprint : isPrintable c = true
    · have hbreak : isBreak c = false := by
        simp only [isBreak, Bool.or_eq_false_iff, beq_eq_false_iff_ne]
        exact ⟨⟨⟨⟨hnewline, hreturn⟩, hnext⟩, hls⟩, hps⟩
      exact Or.inl ⟨if_pos hprint, hprint, hbreak, hquote, hslash⟩
    · refine Or.inr ?_
      rw [if_neg hprint]
      by_cases hbyte : c.toNat ≤ 0xFF
      · exact ⟨'x', 2, if_pos hbyte, rfl, rfl, by omega, by omega⟩
      · rw [if_neg hbyte]
        by_cases hplane : c.toNat ≤ 0xFFFF
        · exact ⟨'u', 4, if_pos hplane, rfl, rfl, by omega, by omega⟩
        · have hvalid : c.toNat < 0xD800 ∨ (0xDFFF < c.toNat ∧ c.toNat < 0x110000) := c.valid
          exact ⟨'U', 8, if_neg hplane, rfl, rfl, by omega, by omega⟩
  all_goals exact Or.inl ⟨_, rfl, rfl, rfl, rfl, rfl⟩

theorem readDoubleQuoted_escape (hspace : c ≠ ' ') (tail : List Char) :
    readDoubleQuoted false gap none (escape c ++ tail) =
      after (gap.text ++ [c]) (readDoubleQuoted false .none none tail) := by
  obtain ⟨d, hescape, -, hd, hbreak, hwidth⟩ | ⟨hescape, hprint, hbreak, hquote, hslash⟩ |
    ⟨d, width, hescape, hwidth, hbreak, hpos, hcode⟩ := escape_cases c
  · rw [hescape]
    exact readDoubleQuoted_unescape hd hbreak hwidth
  · have hblank : isBlank c = false := by
      rw [isBlank_eq_isSpace hprint]
      exact beq_eq_false_iff_ne.mpr hspace
    rw [hescape]
    exact readDoubleQuoted_char hbreak hblank hquote hslash
  · rw [hescape]
    exact readDoubleQuoted_upperHex hbreak hwidth hpos hcode tail

theorem readDoubleQuoted_flatMap (hgap : gap.isLines = false) (cs : List Char) :
    readDoubleQuoted false gap none (cs.flatMap escape ++ '"' :: rest) =
      some (gap.text ++ cs, rest) := by
  induction cs generalizing gap with
  | nil =>
    rw [List.append_nil, List.flatMap_nil, List.nil_append, readDoubleQuoted.eq_def]
    rfl
  | cons c cs ih =>
    rw [List.flatMap_cons, List.append_assoc]
    by_cases hspace : c = ' '
    · subst hspace
      rw [show escape ' ' = [' '] by decide, List.singleton_append, readDoubleQuoted_blank rfl,
        ih (Gap.isLines_addBlank hgap), Gap.text_addBlank hgap, List.append_assoc,
        List.singleton_append]
    · rw [readDoubleQuoted_escape hspace, ih rfl, after_some, Gap.text, List.nil_append,
        List.append_assoc, List.singleton_append]

end Scalar

end PermissionGraph.Yaml
