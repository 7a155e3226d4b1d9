import PermissionGraph.Text.Lower

/-!
# Lower-casing twice

Lower-casing gives a text that lower-casing leaves alone: no lower-case form of a character has
another one, and none is a letter that is treated apart. The first is checked on the runs of the
table, pair by pair, rather than on the characters. No letter is lower-cased to a `-` or a `.`.
-/

namespace PermissionGraph.Text

namespace Span

/-- The spans lie beside each other, or both of their elements alternate. -/
def apart (a b : Span) : Bool :=
  a.last.blt b.first || b.last.blt a.first ||
    ((a.step == 2 || a.first == a.last) && (b.step == 2 || b.first == b.last) &&
      (a.first + b.first) % 2 == 1)

variable {a b : Span} {n : Nat}

theorem has_iff : a.has n = true ↔ a.first ≤ n ∧ n ≤ a.last ∧ (n - a.first) % a.step = 0 := by
  simp [has, and_assoc]

theorem mod_two_of_has (hstep : a.step = 2 ∨ a.first = a.last) (h : a.has n = true) :
    n % 2 = a.first % 2 := by
  obtain ⟨hfirst, hlast, hmod⟩ := has_iff.mp h
  rcases hstep with hstep | hstep
  · rw [hstep] at hmod
    omega
  · have hn : n = a.first := by omega
    rw [hn]

theorem not_has_of_apart (h : a.apart b = true) (ha : a.has n = true) : b.has n = false := by
  rw [Bool.eq_false_iff]
  intro hb
  obtain ⟨hfirst, hlast, -⟩ := has_iff.mp ha
  obtain ⟨hfirst', hlast', -⟩ := has_iff.mp hb
  simp only [apart, Bool.or_eq_true, Bool.and_eq_true, Nat.blt_eq, beq_iff_eq] at h
  rcases h with (h | h) | ⟨⟨hsa, hsb⟩, hodd⟩
  · omega
  · omega
  · have hna := mod_two_of_has hsa ha
    have hnb := mod_two_of_has hsb hb
    omega

end Span

namespace LoweringRun

def image (r : LoweringRun) : Span :=
  ⟨r.target, r.target + (r.span.last - r.span.first), r.span.step⟩

theorem image_has {r : LoweringRun} {n : Nat} (h : r.span.has n = true) :
    r.image.has (r.target + (n - r.span.first)) = true := by
  obtain ⟨hfirst, hlast, hmod⟩ := Span.has_iff.mp h
  refine Span.has_iff.mpr ⟨Nat.le_add_right _ _, ?_, ?_⟩
  · exact Nat.add_le_add_left (Nat.sub_le_sub_right hlast _) _
  · rw [image, Nat.add_sub_cancel_left]
    exact hmod

end LoweringRun

/-- What no lower-case form is: `-`, `.`, `İ`, and the code points that are no characters. -/
def excluded : List Span :=
  [⟨0x2D, 0x2D, 1⟩, ⟨0x2E, 0x2E, 1⟩, ⟨0x130, 0x130, 1⟩, ⟨0xD800, 0xDFFF, 1⟩]

/-- The lower-case forms that a run gives are characters, and lie in none of `spans`. -/
def LoweringRun.clear (spans : List Span) (r : LoweringRun) : Bool :=
  r.image.last.blt 0x110000 && spans.all r.image.apart

theorem clear_loweringRuns :
    loweringRuns.all (LoweringRun.clear (excluded ++ loweringRuns.map LoweringRun.span)) = true := by
  decide +kernel

variable {c : Char}

theorem lowerChar_eq_self (h : ∀ r ∈ loweringRuns, r.span.has c.toNat = false) :
    lowerChar c = c := by
  have hnone : loweringRuns.find? (·.span.has c.toNat) = none := by
    rw [List.find?_eq_none]
    intro r hr
    rw [h r hr]
    exact Bool.false_ne_true
  rw [lowerChar, hnone]

theorem toNat_ofNat_of_valid {n : Nat} (h : n.isValidChar) : (Char.ofNat n).toNat = n := by
  rw [Char.ofNat, dif_pos h]
  rfl

/-- A character is its own lower-case form, or its lower-case form is in none of the spans. -/
theorem lowerChar_cases (c : Char) :
    (lowerChar c = c ∧ ∀ r ∈ loweringRuns, r.span.has c.toNat = false) ∨
      ∀ b ∈ excluded ++ loweringRuns.map LoweringRun.span, b.has (lowerChar c).toNat = false := by
  cases hr : loweringRuns.find? (·.span.has c.toNat) with
  | none =>
    have hnone : ∀ r ∈ loweringRuns, r.span.has c.toNat = false := by
      simpa using List.find?_eq_none.mp hr
    exact Or.inl ⟨lowerChar_eq_self hnone, hnone⟩
  | some r =>
    have hmem : r ∈ loweringRuns := List.mem_of_find?_eq_some hr
    have hspan : r.span.has c.toNat = true := by simpa using List.find?_some hr
    have himage := LoweringRun.image_has hspan
    have hclear := List.all_eq_true.mp clear_loweringRuns r hmem
    rw [LoweringRun.clear, Bool.and_eq_true, Nat.blt_eq, List.all_eq_true] at hclear
    obtain ⟨hbound, hapart⟩ := hclear
    have hnot := fun b hb => Span.not_has_of_apart (hapart b hb) himage
    have hvalid : (r.target + (c.toNat - r.span.first)).isValidChar := by
      have hlast := (Span.has_iff.mp himage).2.1
      have hgap := hnot ⟨0xD800, 0xDFFF, 1⟩ (by simp [excluded])
      simp only [Span.has, Nat.mod_one, BEq.rfl, Bool.and_true, Bool.and_eq_false_iff,
        decide_eq_false_iff_not] at hgap
      unfold Nat.isValidChar
      omega
    have hlower : (lowerChar c).toNat = r.target + (c.toNat - r.span.first) := by
      rw [lowerChar, hr]
      exact toNat_ofNat_of_valid hvalid
    rw [hlower]
    exact Or.inr hnot

/-- A character that lower-casing leaves alone wherever it stands. -/
structure IsLower (c : Char) : Prop where
  ne_sigma : c ≠ 'Σ'
  ne_dotted : c ≠ 'İ'
  fixed : lowerChar c = c

theorem isLower_lowerChar (hsigma : c ≠ 'Σ') (hdotted : c ≠ 'İ') : IsLower (lowerChar c) := by
  rcases lowerChar_cases c with ⟨hself, -⟩ | hnot
  · rw [hself]
    exact ⟨hsigma, hdotted, hself⟩
  · have hruns : ∀ r ∈ loweringRuns, r.span.has (lowerChar c).toNat = false := by
      intro r hr
      exact hnot r.span (List.mem_append_right _ (List.mem_map_of_mem hr))
    refine ⟨?_, ?_, lowerChar_eq_self hruns⟩
    · intro h
      have hany : loweringRuns.any (·.span.has 'Σ'.toNat) = true := by decide +kernel
      obtain ⟨r, hr, hspan⟩ := List.any_eq_true.mp hany
      have hnone := hruns r hr
      rw [h, hspan] at hnone
      cases hnone
    · intro h
      have hdotted := hnot ⟨0x130, 0x130, 1⟩ (by simp [excluded])
      rw [h] at hdotted
      exact absurd hdotted (by decide)

/-- A character that is no lower-case form comes from itself alone. -/
theorem lowerChar_ne {d : Char} (hd : ⟨d.toNat, d.toNat, 1⟩ ∈ excluded) (h : c ≠ d) :
    lowerChar c ≠ d := by
  rcases lowerChar_cases c with ⟨hself, -⟩ | hnot
  · rw [hself]
    exact h
  · intro heq
    have hspan := hnot ⟨d.toNat, d.toNat, 1⟩ (List.mem_append_left _ hd)
    rw [heq] at hspan
    simp [Span.has] at hspan

theorem lowerChar_ne_dash (h : c ≠ '-') : lowerChar c ≠ '-' := lowerChar_ne (by simp [excluded]) h

theorem lowerChar_ne_dot (h : c ≠ '.') : lowerChar c ≠ '.' := lowerChar_ne (by simp [excluded]) h

variable {before cs : List Char}

theorem isLower_of_mem_lowerAfter : ∀ c ∈ lowerAfter before cs, IsLower c := by
  induction cs generalizing before with
  | nil => simp [lowerAfter]
  | cons c cs ih =>
    intro d hd
    rw [lowerAfter] at hd
    rcases List.mem_append.mp hd with hd | hd
    · by_cases hsigma : c = 'Σ'
      · rw [if_pos hsigma, List.mem_singleton] at hd
        rw [hd]
        cases endsWord before cs
        · exact ⟨by decide, by decide, by decide +kernel⟩
        · exact ⟨by decide, by decide, by decide +kernel⟩
      · by_cases hdotted : c = 'İ'
        · rw [if_neg hsigma, if_pos hdotted] at hd
          rw [List.mem_cons, List.mem_singleton] at hd
          rcases hd with rfl | rfl
          · exact ⟨by decide, by decide, by decide +kernel⟩
          · exact ⟨by decide, by decide, by decide +kernel⟩
        · rw [if_neg hsigma, if_neg hdotted, List.mem_singleton] at hd
          rw [hd]
          exact isLower_lowerChar hsigma hdotted
    · exact ih d hd

theorem lowerAfter_eq_self (h : ∀ c ∈ cs, IsLower c) : lowerAfter before cs = cs := by
  induction cs generalizing before with
  | nil => rfl
  | cons c cs ih =>
    have hc : IsLower c := h c List.mem_cons_self
    have hcs : lowerAfter (c :: before) cs = cs := ih fun d hd => h d (List.mem_cons_of_mem c hd)
    rw [lowerAfter, if_neg hc.ne_sigma, if_neg hc.ne_dotted, hc.fixed, hcs]
    rfl

theorem lowerChars_lowerChars (cs : List Char) : lowerChars (lowerChars cs) = lowerChars cs :=
  lowerAfter_eq_self isLower_of_mem_lowerAfter

@[simp] theorem lower_lower (s : String) : lower (lower s) = lower s := by
  rw [lower, lower, String.toList_ofList, lowerChars_lowerChars]

theorem dot_not_mem_lowerAfter (h : '.' ∉ cs) : '.' ∉ lowerAfter before cs := by
  induction cs generalizing before with
  | nil => simp [lowerAfter]
  | cons c cs ih =>
    have hc : c ≠ '.' := fun hc => h (hc ▸ List.mem_cons_self)
    have hcs : '.' ∉ lowerAfter (c :: before) cs := ih fun hmem => h (List.mem_cons_of_mem c hmem)
    intro hdot
    rw [lowerAfter] at hdot
    rcases List.mem_append.mp hdot with hdot | hdot
    · by_cases hsigma : c = 'Σ'
      · rw [if_pos hsigma] at hdot
        cases hends : endsWord before cs <;> simp [hends] at hdot
      · by_cases hdotted : c = 'İ'
        · simp [if_neg hsigma, if_pos hdotted] at hdot
        · rw [if_neg hsigma, if_neg hdotted, List.mem_singleton] at hdot
          exact lowerChar_ne_dot hc hdot.symm
    · exact hcs hdot

theorem head?_lowerChars_ne_dash (h : cs.head? ≠ some '-') :
    (lowerChars cs).head? ≠ some '-' := by
  cases cs with
  | nil => simp [lowerChars, lowerAfter]
  | cons c cs =>
    have hc : c ≠ '-' := fun hc => h (congrArg some hc)
    rw [lowerChars, lowerAfter]
    by_cases hsigma : c = 'Σ'
    · rw [if_pos hsigma]
      cases endsWord [] cs <;> simp
    · by_cases hdotted : c = 'İ'
      · simp [if_neg hsigma, if_pos hdotted]
      · rw [if_neg hsigma, if_neg hdotted]
        simpa using lowerChar_ne_dash hc

end PermissionGraph.Text
