import PermissionGraph.Proofs.Text.Lower
import Mathlib.Data.List.TakeWhile

/-!
# Lower-casing across a cut

A text that is cut in two is lower-cased piece by piece, as long as each piece is told what stands
on its other side. What follows a piece matters to it only by whether a cased letter is met next,
and only where the piece ends in a `Σ` that ends a word.
-/

namespace PermissionGraph.Text

def lowerLetter (ending : Bool) (c : Char) : List Char :=
  if c = 'Σ' then [if ending then 'ς' else 'σ']
  else if c = 'İ' then ['i', '\u0307']
  else [lowerChar c]

/-- Lower-cases a text that stands between `before` (nearest first) and `after`. -/
def lowerBetween (before after : List Char) : List Char → List Char
  | [] => []
  | c :: rest =>
    lowerLetter (endsWord before (rest ++ after)) c ++ lowerBetween (c :: before) after rest

/-- The last character that is not case-ignorable is a `Σ` after a cased letter. -/
def endsInSigma (cs : List Char) : Bool :=
  match cs.reverse.dropWhile caseIgnorable.has with
  | [] => false
  | c :: before => c == 'Σ' && meetsCased before

example : endsInSigma "ΧΡΗΣΤΗΣ".toList = true ∧ endsInSigma "Σ".toList = false := by
  decide +kernel

variable {before after after' cs xs ys : List Char} {c : Char}

theorem lowerAfter_cons :
    lowerAfter before (c :: cs) =
      lowerLetter (endsWord before cs) c ++ lowerAfter (c :: before) cs := rfl

theorem length_lowerLetter (ending ending' : Bool) (c : Char) :
    (lowerLetter ending c).length = (lowerLetter ending' c).length := by
  unfold lowerLetter
  split
  · rfl
  · split <;> rfl

theorem lowerLetter_of_ne (h : c ≠ 'Σ') (ending ending' : Bool) :
    lowerLetter ending c = lowerLetter ending' c := by
  rw [lowerLetter, if_neg h, lowerLetter, if_neg h]

theorem meetsCased_of_ignorable (h : ∀ c ∈ xs, caseIgnorable.has c = true) :
    meetsCased (xs ++ ys) = meetsCased ys := by
  have hxs : xs.dropWhile caseIgnorable.has = [] := List.dropWhile_eq_nil_iff.mpr h
  rw [meetsCased, meetsCased, List.dropWhile_append, hxs]
  rfl

theorem meetsCased_cons (h : caseIgnorable.has c = false) :
    meetsCased (c :: cs) = cased.has c := by
  rw [meetsCased, List.dropWhile_cons_of_neg (by simp [h])]

theorem meetsCased_cons_of_ignorable (h : caseIgnorable.has c = true) :
    meetsCased (c :: cs) = meetsCased cs := by
  have hone : ∀ d ∈ [c], caseIgnorable.has d = true := by simpa using h
  exact meetsCased_of_ignorable hone

theorem meetsCased_append_congr (h : meetsCased after = meetsCased after') (cs : List Char) :
    meetsCased (cs ++ after) = meetsCased (cs ++ after') := by
  induction cs with
  | nil => exact h
  | cons c cs ih =>
    by_cases hc : caseIgnorable.has c = true
    · rw [List.cons_append, List.cons_append, meetsCased_cons_of_ignorable hc,
        meetsCased_cons_of_ignorable hc, ih]
    · rw [Bool.not_eq_true] at hc
      rw [List.cons_append, List.cons_append, meetsCased_cons hc, meetsCased_cons hc]

theorem lowerAfter_append :
    lowerAfter before (xs ++ ys) =
      lowerBetween before ys xs ++ lowerAfter (xs.reverse ++ before) ys := by
  induction xs generalizing before with
  | nil => rfl
  | cons x xs ih =>
    rw [List.cons_append, lowerAfter_cons, ih, lowerBetween, List.append_assoc, List.reverse_cons,
      List.append_assoc]
    rfl

theorem lowerBetween_append :
    lowerBetween before after (xs ++ ys) =
      lowerBetween before (ys ++ after) xs ++ lowerBetween (xs.reverse ++ before) after ys := by
  induction xs generalizing before with
  | nil => rfl
  | cons x xs ih =>
    rw [List.cons_append, lowerBetween, ih, lowerBetween, List.append_assoc, List.append_assoc,
      List.reverse_cons, List.append_assoc]
    rfl

theorem lowerBetween_congr (h : meetsCased after = meetsCased after') :
    lowerBetween before after cs = lowerBetween before after' cs := by
  induction cs generalizing before with
  | nil => rfl
  | cons c cs ih =>
    rw [lowerBetween, lowerBetween, ih, endsWord, endsWord, meetsCased_append_congr h]

theorem lowerBetween_of_not_mem (h : 'Σ' ∉ cs) :
    lowerBetween before after cs = lowerBetween before after' cs := by
  induction cs generalizing before with
  | nil => rfl
  | cons c cs ih =>
    have hc : c ≠ 'Σ' := fun hc => h (hc ▸ List.mem_cons_self)
    have hcs : 'Σ' ∉ cs := fun hmem => h (List.mem_cons_of_mem c hmem)
    rw [lowerBetween, lowerBetween, ih hcs, lowerLetter_of_ne hc]

theorem length_lowerBetween (before after after' cs : List Char) :
    (lowerBetween before after cs).length = (lowerBetween before after' cs).length := by
  induction cs generalizing before with
  | nil => rfl
  | cons c cs ih =>
    rw [lowerBetween, lowerBetween, List.length_append, List.length_append, ih,
      length_lowerLetter]

theorem sigma_not_ignorable : caseIgnorable.has 'Σ' = false := by decide +kernel

theorem sigma_not_mem_of_ignorable (h : ∀ c ∈ cs, caseIgnorable.has c = true) : 'Σ' ∉ cs := by
  intro hmem
  have hsigma := h 'Σ' hmem
  rw [sigma_not_ignorable] at hsigma
  cases hsigma

/-- Where a text can be told apart by what follows it: at its last character that is not
case-ignorable. -/
theorem lowerBetween_eq_iff_of_last (hc : caseIgnorable.has c = false)
    (hys : ∀ d ∈ ys, caseIgnorable.has d = true) (hafter : meetsCased after = false)
    (hafter' : meetsCased after' = true) :
    lowerBetween [] after (xs.reverse ++ c :: ys) =
        lowerBetween [] after' (xs.reverse ++ c :: ys) ↔
      (c == 'Σ' && meetsCased xs) = false := by
  have hfirst : lowerBetween [] (c :: ys ++ after) xs.reverse =
      lowerBetween [] (c :: ys ++ after') xs.reverse := by
    apply lowerBetween_congr
    rw [List.cons_append, List.cons_append, meetsCased_cons hc, meetsCased_cons hc]
  have hlast : lowerBetween (c :: (xs.reverse.reverse ++ [])) after ys =
      lowerBetween (c :: (xs.reverse.reverse ++ [])) after' ys :=
    lowerBetween_of_not_mem (sigma_not_mem_of_ignorable hys)
  rw [lowerBetween_append, lowerBetween_append, hfirst, List.append_cancel_left_eq, lowerBetween,
    lowerBetween, hlast, List.append_cancel_right_eq, List.reverse_reverse, List.append_nil,
    endsWord, endsWord, meetsCased_of_ignorable hys, meetsCased_of_ignorable hys, hafter, hafter']
  by_cases hsigma : c = 'Σ'
  · subst hsigma
    cases meetsCased xs <;> simp [lowerLetter]
  · simp [lowerLetter_of_ne hsigma _ false, hsigma]

/-- A text is lower-cased in the same way before a cased letter and before none just where it does
not end in a `Σ` that ends a word. -/
theorem lowerBetween_eq_iff (hafter : meetsCased after = false)
    (hafter' : meetsCased after' = true) (cs : List Char) :
    lowerBetween [] after cs = lowerBetween [] after' cs ↔ endsInSigma cs = false := by
  have hcut : (cs.reverse.dropWhile caseIgnorable.has).reverse ++
      (cs.reverse.takeWhile caseIgnorable.has).reverse = cs := by
    rw [← List.reverse_append, List.takeWhile_append_dropWhile, List.reverse_reverse]
  have hlast : ∀ d ∈ (cs.reverse.takeWhile caseIgnorable.has).reverse,
      caseIgnorable.has d = true := fun d hd => List.mem_takeWhile_imp (List.mem_reverse.mp hd)
  unfold endsInSigma
  cases hdrop : cs.reverse.dropWhile caseIgnorable.has with
  | nil =>
    rw [hdrop, List.reverse_nil, List.nil_append] at hcut
    rw [hcut] at hlast
    exact iff_of_true (lowerBetween_of_not_mem (sigma_not_mem_of_ignorable hlast)) rfl
  | cons c xs =>
    have hc : caseIgnorable.has c = false := by
      have hhead := List.head?_dropWhile_not caseIgnorable.has cs.reverse
      simpa [hdrop] using hhead
    rw [hdrop, List.reverse_cons, List.append_assoc] at hcut
    rw [← hcut]
    exact lowerBetween_eq_iff_of_last hc hlast hafter hafter'

theorem lowerChar_dot : lowerChar '.' = '.' := by decide +kernel

theorem lowerChar_star : lowerChar '*' = '*' := by decide +kernel

theorem meetsCased_dot (cs : List Char) : meetsCased ('.' :: cs) = meetsCased cs :=
  meetsCased_cons_of_ignorable (by decide +kernel)

theorem lowerAfter_dot (before cs : List Char) :
    lowerAfter before ('.' :: cs) = '.' :: lowerAfter ('.' :: before) cs := by
  rw [lowerAfter_cons, lowerLetter, if_neg (by decide), if_neg (by decide), lowerChar_dot]
  rfl

theorem lowerAfter_star (before : List Char) : lowerAfter before ['*'] = ['*'] := by
  rw [lowerAfter_cons, lowerLetter, if_neg (by decide), if_neg (by decide), lowerChar_star]
  rfl

theorem lowerAfter_ne_nil (h : cs ≠ []) : lowerAfter before cs ≠ [] := by
  obtain ⟨c, cs, rfl⟩ := List.exists_cons_of_ne_nil h
  have hlength : 0 < (lowerLetter (endsWord before cs) c).length := by
    unfold lowerLetter
    split
    · exact Nat.one_pos
    · split <;> exact Nat.succ_pos _
  rw [lowerAfter_cons]
  exact List.append_ne_nil_of_left_ne_nil (List.ne_nil_of_length_pos hlength) _

theorem lowerChars_below (p s : List Char) :
    lowerChars (p ++ '.' :: s) =
      lowerBetween [] ('.' :: s) p ++ '.' :: lowerAfter ('.' :: (p.reverse ++ [])) s := by
  rw [lowerChars, lowerAfter_append, lowerAfter_dot]

theorem lowerChars_wildcard (p : List Char) :
    lowerChars (p ++ ['.', '*']) = lowerBetween [] ['.', '*'] p ++ ['.', '*'] := by
  rw [lowerChars_below, lowerAfter_star]

/-- A text is lower-cased in the same way before its wildcard and before what the wildcard stands
for, unless it ends in a `Σ` that ends a word there and not here. -/
theorem lowerBetween_wildcard_iff (p s : List Char) :
    lowerBetween [] ['.', '*'] p = lowerBetween [] ('.' :: s) p ↔
      (endsInSigma p && meetsCased s) = false := by
  have hwildcard : meetsCased ['.', '*'] = false := by decide +kernel
  cases hs : meetsCased s with
  | true =>
    have hbelow : meetsCased ('.' :: s) = true := (meetsCased_dot s).trans hs
    rw [lowerBetween_eq_iff hwildcard hbelow, Bool.and_true]
  | false =>
    have hbelow : meetsCased ['.', '*'] = meetsCased ('.' :: s) := by
      rw [hwildcard, meetsCased_dot, hs]
    exact iff_of_true (lowerBetween_congr hbelow) (Bool.and_false _)

end PermissionGraph.Text
