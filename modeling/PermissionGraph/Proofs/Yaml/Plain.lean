import PermissionGraph.Yaml.Scalar.Written
import PermissionGraph.Yaml.Scalar.Read

/-!
# Reading plain scalars back

What is written as it is can be read, and the only blank among printable characters is the space. A
text that suits the plain style never looks like the end of a plain scalar before it ends. So a
reader that comes upon it takes all of it, up to the line after it.
-/

namespace PermissionGraph.Yaml

variable {c : Char} {cs : List Char}

theorem isReadable_of_isPrintable (h : isPrintable c = true) : isReadable c = true := by
  simp only [isPrintable, Bool.or_eq_true, Bool.and_eq_true, beq_iff_eq, decide_eq_true_eq] at h
  simp only [isReadable, Bool.or_eq_true, Bool.and_eq_true, beq_iff_eq, decide_eq_true_eq]
  omega

theorem ne_of_isPrintable {d : Char} (hd : isPrintable d = false) (h : isPrintable c = true) :
    c ≠ d := by
  rintro rfl
  rw [hd] at h
  cases h

theorem isBlank_eq_isSpace (hprint : isPrintable c = true) : isBlank c = Style.isSpace c := by
  have htab : (c == '\t') = false := beq_eq_false_iff_ne.mpr (ne_of_isPrintable (by decide) hprint)
  rw [isBlank, htab, Bool.or_false, Style.isSpace]

theorem not_isBreak_of_isBlank (h : isBlank c = true) : isBreak c = false := by
  rw [isBlank, Bool.or_eq_true, beq_iff_eq, beq_iff_eq] at h
  rcases h with rfl | rfl <;> decide

theorem isPrintable_of_mem (h : Style.hasUnprintable cs = false) (hc : c ∈ cs) :
    isPrintable c = true := by
  rw [Style.hasUnprintable, List.any_eq_false] at h
  simpa using h c hc

/-- The next line starts an item of a sequence, or there is none. -/
inductive AtItem : List Char → Prop
  | last : AtItem []
  | next (cs : List Char) : AtItem ('-' :: cs)

namespace Gap

variable {gap : Gap} {c : Char}

theorem text_addBlank (h : gap.isLines = false) : (gap.addBlank c).text = gap.text ++ [c] := by
  cases gap with
  | none => rfl
  | blanks cs => rfl
  | lines first more => cases h

theorem isLines_addBlank (h : gap.isLines = false) : (gap.addBlank c).isLines = false := by
  cases gap with
  | none => rfl
  | blanks cs => rfl
  | lines first more => cases h

end Gap

namespace Style

variable {c : Char} {cs : List Char}

theorem breaksOff_cons (h : breaksOff (c :: cs) = false) :
    breaksOff cs = false ∧ (isBlank c = true → cs.head? ≠ some '#') ∧
      (c = ':' → cs ≠ [] ∧ atGap cs = false) := by
  cases cs with
  | nil =>
    refine ⟨rfl, nofun, ?_⟩
    rintro rfl
    cases h
  | cons d cs =>
    rw [breaksOff] at h
    simp only [Bool.or_eq_false_iff, Bool.and_eq_false_imp] at h
    obtain ⟨⟨hcolon, hmark⟩, htail⟩ := h
    refine ⟨htail, ?_, ?_⟩
    · intro hblank hhead
      obtain rfl : d = '#' := Option.some.inj hhead
      simp [hblank] at hmark
    · rintro rfl
      exact ⟨List.cons_ne_nil _ _, hcolon rfl⟩

/-- Whatever style a text is written in suits it. -/
theorem choose_suits (s : String) :
    choose s = .plain ∧ suitsPlain s.toList = true ∨
      choose s = .singleQuoted ∧ suitsSingleQuoted s.toList = true ∧ '\n' ∉ s.toList ∨
      choose s = .literal ∧ suitsLiteral s.toList = true ∨
      choose s = .doubleQuoted := by
  rw [choose]
  split
  · split
    · next h => exact Or.inr (Or.inr (Or.inl ⟨rfl, h⟩))
    · exact Or.inr (Or.inr (Or.inr rfl))
  · next hnewline =>
    split
    · next h => exact Or.inl ⟨rfl, (Bool.and_eq_true_iff.mp h).2⟩
    · split
      · next h => exact Or.inr (Or.inl ⟨rfl, h, by simpa using hnewline⟩)
      · exact Or.inr (Or.inr (Or.inr rfl))

end Style

namespace Scalar

open Style

structure PlainRest (cs : List Char) : Prop where
  unbroken : ∀ c ∈ cs, isBreak c = false
  goesOn : breaksOff cs = false
  endsInWord : ∀ c, cs.getLast? = some c → isBlank c = false

variable {c : Char} {cs rest : List Char} {gap : Gap} {floor column : Nat}

theorem PlainRest.tail (h : PlainRest (c :: cs)) : PlainRest cs where
  unbroken d hd := h.unbroken d (List.mem_cons_of_mem c hd)
  goesOn := (breaksOff_cons h.goesOn).1
  endsInWord d hd := by
    apply h.endsInWord d
    rw [List.getLast?_cons, hd, Option.getD_some]

theorem endsAtWord_of_word (hgap : gap.isLines = false) (hcolumn : 0 < column)
    (hmark : gap ≠ .none → cs.head? ≠ some '#') :
    endsAtWord false floor column gap cs = false := by
  cases gap with
  | none => rfl
  | blanks ws =>
    have hhead : (cs.head? == some '#') = false := beq_eq_false_iff_ne.mpr (hmark nofun)
    have hzero : (column == 0) = false := beq_eq_false_iff_ne.mpr (by omega)
    simp [endsAtWord, Gap.isLines, hhead, hzero]
  | lines first more => cases hgap

/-- The line after a plain scalar ends it. -/
theorem readPlain_newline (hfloor : 0 < floor) (hrest : AtItem rest) :
    readPlain false floor column .none ('\n' :: rest) = some ([], ⟨true, rest⟩) := by
  rw [readPlain, if_pos (by decide)]
  cases hrest with
  | last => rfl
  | next cs =>
    have hends : endsAtWord false floor 0 (Gap.none.addBreak '\n') ('-' :: cs) = true := by
      simp [endsAtWord, Gap.addBreak, Gap.isLines, hfloor]
    rw [readPlain, if_neg (by decide), if_neg (by decide), if_pos hends]
    rfl

theorem readPlain_rest (h : PlainRest cs) (hfloor : 0 < floor) (hcolumn : 0 < column)
    (hgap : gap.isLines = false) (hmark : gap ≠ .none → cs.head? ≠ some '#')
    (hend : cs = [] → gap = .none) (hrest : AtItem rest) :
    readPlain false floor column gap (cs ++ '\n' :: rest) =
      some (gap.text ++ cs, ⟨true, rest⟩) := by
  induction cs generalizing gap column with
  | nil =>
    obtain rfl := hend rfl
    exact readPlain_newline hfloor hrest
  | cons c cs ih =>
    have hbreak : isBreak c = false := h.unbroken c List.mem_cons_self
    obtain ⟨-, hblankMark, hcolon⟩ := breaksOff_cons h.goesOn
    rw [List.cons_append, readPlain, hbreak, if_neg Bool.false_ne_true]
    cases hblank : isBlank c with
    | true =>
      have hword : cs ≠ [] := by
        rintro rfl
        rw [h.endsInWord c rfl] at hblank
        cases hblank
      simp only [hgap, Bool.false_and, Bool.false_eq_true, if_false, if_true]
      rw [ih h.tail (Nat.succ_pos column) (Gap.isLines_addBlank hgap) (fun _ => hblankMark hblank)
        (fun hnil => absurd hnil hword), Gap.text_addBlank hgap, List.append_assoc,
        List.singleton_append]
    | false =>
      have hends : endsAtWord false floor column gap (c :: (cs ++ '\n' :: rest)) = false :=
        endsAtWord_of_word hgap hcolumn hmark
      have hstop : (c == ':' && atGap (cs ++ '\n' :: rest)) = false := by
        rw [Bool.and_eq_false_imp]
        intro hc
        obtain ⟨hne, hnogap⟩ := hcolon (beq_iff_eq.mp hc)
        obtain ⟨d, ds, rfl⟩ := List.exists_cons_of_ne_nil hne
        exact hnogap
      simp only [hends, hstop, Bool.false_and, Bool.or_false, Bool.false_eq_true, if_false]
      rw [ih h.tail (Nat.succ_pos column) rfl (fun hne => absurd rfl hne) (fun _ => rfl)]
      simp [after, Gap.text]

/-- A text in the plain style is read back. -/
theorem readPlain_of_suits (h : suitsPlain cs = true) (hfloor : 0 < floor) (hcolumn : 0 < column)
    (hrest : AtItem rest) :
    readPlain false floor column .none (cs ++ '\n' :: rest) = some (cs, ⟨true, rest⟩) := by
  simp only [suitsPlain, Bool.and_eq_true, Bool.not_eq_true'] at h
  obtain ⟨⟨⟨⟨hne, hend⟩, hbreak⟩, hprint⟩, hindicator⟩ := h
  have hplain : PlainRest cs := by
    refine ⟨fun c hc => ?_, ?_, fun c hc => ?_⟩
    · exact Bool.eq_false_iff.mpr (List.any_eq_false.mp hbreak c hc)
    · cases cs with
      | nil => rfl
      | cons c cs =>
        simp only [hasIndicator, Bool.or_eq_false_iff] at hindicator
        exact hindicator.2.2
    · rw [isBlank_eq_isSpace (isPrintable_of_mem hprint (List.mem_of_getLast? hc))]
      rw [hasEnd, hc, Bool.or_eq_false_iff] at hend
      exact hend.2
  exact readPlain_rest hplain hfloor hcolumn rfl (fun hne => absurd rfl hne) (fun _ => rfl) hrest

end Scalar

end PermissionGraph.Yaml
