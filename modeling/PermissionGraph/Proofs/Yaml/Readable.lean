import PermissionGraph.Proofs.Yaml.Quoted
import PermissionGraph.Yaml.Character
import PermissionGraph.DefaultsFile

/-!
# Written characters

Whatever a text holds, only printable characters are written for it. So what is written can be read,
and its breaks are read as they are.
-/

namespace PermissionGraph.Yaml

variable {c : Char} {cs : List Char}

def Printable (cs : List Char) : Prop := ∀ c ∈ cs, isPrintable c = true

theorem Printable.append {ds : List Char} (hcs : Printable cs) (hds : Printable ds) :
    Printable (cs ++ ds) := by
  intro c hc
  rcases List.mem_append.mp hc with hc | hc
  · exact hcs c hc
  · exact hds c hc

theorem Printable.nil : Printable [] := nofun

theorem Printable.cons (hc : isPrintable c = true) (hcs : Printable cs) : Printable (c :: cs) := by
  rintro d (_ | ⟨_, hd⟩)
  · exact hc
  · exact hcs d hd

theorem Printable.flatMap {α : Type} {xs : List α} {f : α → List Char}
    (h : ∀ x ∈ xs, Printable (f x)) : Printable (xs.flatMap f) := by
  intro c hc
  obtain ⟨x, hx, hc⟩ := List.mem_flatMap.mp hc
  exact h x hx c hc

theorem all_isReadable_of_printable (h : Printable cs) : cs.all isReadable = true :=
  List.all_eq_true.mpr fun c hc => isReadable_of_isPrintable (h c hc)

theorem normalizeBreaks_of_printable (h : Printable cs) : normalizeBreaks cs = cs := by
  induction cs with
  | nil => rfl
  | cons c cs ih =>
    have hc := h c List.mem_cons_self
    have hreturn : c ≠ '\r' := ne_of_isPrintable (by decide) hc
    have hnext : c ≠ '\u0085' := ne_of_isPrintable (by decide) hc
    rw [normalizeBreaks]
    · simp [hreturn, hnext, ih fun d hd => h d (List.mem_cons_of_mem c hd)]
    · rintro - rfl
      exact absurd rfl hreturn

namespace Scalar

theorem isPrintable_of_ascii (hlow : 0x20 ≤ c.toNat) (hhigh : c.toNat ≤ 0x7E) :
    isPrintable c = true := by
  simp [isPrintable, hlow, hhigh]

theorem isPrintable_of_digit? {n : Nat} (h : digit? 16 c = some n) : isPrintable c = true := by
  have hrange {low high : Char} (hc : (decide (low ≤ c) && decide (c ≤ high)) = true) :
      low.toNat ≤ c.toNat ∧ c.toNat ≤ high.toNat := by
    rw [Bool.and_eq_true, decide_eq_true_eq, decide_eq_true_eq] at hc
    exact ⟨UInt32.le_iff_toNat_le.mp hc.1, UInt32.le_iff_toNat_le.mp hc.2⟩
  rw [digit?] at h
  split at h
  · next hdigit =>
    obtain ⟨hlow, hhigh⟩ := hrange hdigit
    exact isPrintable_of_ascii (Nat.le_trans (by decide) hlow) (Nat.le_trans hhigh (by decide))
  · split at h
    · next hlower =>
      obtain ⟨hlow, hhigh⟩ := hrange hlower
      exact isPrintable_of_ascii (Nat.le_trans (by decide) hlow) (Nat.le_trans hhigh (by decide))
    · split at h
      · next hupper =>
        obtain ⟨hlow, hhigh⟩ := hrange hupper
        exact isPrintable_of_ascii (Nat.le_trans (by decide) hlow) (Nat.le_trans hhigh (by decide))
      · cases h

/-- What is read as a number has digits only. -/
theorem printable_of_digits {value code : Nat}
    (h : cs.foldlM (fun n c => (digit? 16 c).map (n * 16 + ·)) value = some code) :
    Printable cs := by
  induction cs generalizing value with
  | nil => exact .nil
  | cons c cs ih =>
    rw [List.foldlM_cons] at h
    obtain ⟨value', hvalue, htail⟩ := Option.bind_eq_some_iff.mp h
    obtain ⟨d, hd, -⟩ := Option.map_eq_some_iff.mp hvalue
    exact .cons (isPrintable_of_digit? hd) (ih htail)

theorem printable_escape (c : Char) : Printable (escape c) := by
  have hslash : isPrintable '\\' = true := by decide
  obtain ⟨d, hescape, hprint, -⟩ | ⟨hescape, hprint, -⟩ | ⟨d, width, hescape, hwidth, -⟩ :=
    escape_cases c
  · rw [hescape]
    exact .cons hslash (.cons hprint .nil)
  · rw [hescape]
    exact .cons hprint .nil
  · have hprint : isPrintable d = true := by
      unfold escapeWidth? at hwidth
      split at hwidth
      all_goals first | decide | cases hwidth
    rw [hescape]
    exact .cons hslash (.cons hprint (printable_of_digits (foldlM_upperHex width c.toNat)))

theorem printable_indentation (fresh : Bool) : Printable (if fresh then indentation else []) := by
  cases fresh with
  | true => exact .cons (by decide) (.cons (by decide) .nil)
  | false => exact .nil

theorem printable_singleQuotedFrom (h : Printable cs) (fresh : Bool) :
    Printable (singleQuotedFrom fresh cs) := by
  induction cs generalizing fresh with
  | nil => exact (printable_indentation fresh).append (.cons (by decide) .nil)
  | cons c cs ih =>
    have hc := h c List.mem_cons_self
    have htail := ih fun d hd => h d (List.mem_cons_of_mem c hd)
    rw [singleQuotedFrom]
    split
    · exact .cons hc (htail true)
    · refine ((printable_indentation fresh).append ?_).append (htail false)
      split
      · exact .cons (by decide) (.cons (by decide) .nil)
      · exact .cons hc .nil

theorem printable_literalFrom (h : Printable cs) (fresh : Bool) :
    Printable (literalFrom fresh cs) := by
  induction cs generalizing fresh with
  | nil => exact .nil
  | cons c cs ih =>
    have hc := h c List.mem_cons_self
    have htail := ih fun d hd => h d (List.mem_cons_of_mem c hd)
    rw [literalFrom]
    split
    · exact .cons hc (htail true)
    · exact (printable_indentation fresh).append (.cons hc (htail false))

theorem printable_header (cs : List Char) : Printable (indentationHint cs ++ chomping cs) := by
  refine Printable.append ?_ ?_
  · rw [indentationHint]
    split
    · exact .cons (by decide) .nil
    · exact .nil
  · unfold chomping
    split
    · exact .cons (by decide) .nil
    · split <;> exact .cons (by decide) .nil
    · split
      · exact .cons (by decide) .nil
      · split
        · exact .cons (by decide) .nil
        · exact .nil

theorem printable_write (s : String) : Printable (write s) := by
  obtain ⟨hstyle, hsuits⟩ | ⟨hstyle, hsuits, -⟩ | ⟨hstyle, hsuits⟩ | hstyle := Style.choose_suits s
  all_goals simp only [write, hstyle]
  · simp only [Style.suitsPlain, Bool.and_eq_true, Bool.not_eq_true'] at hsuits
    exact fun c => isPrintable_of_mem hsuits.1.2
  · simp only [Style.suitsSingleQuoted, Bool.and_eq_true, Bool.not_eq_true'] at hsuits
    exact .cons (by decide) (printable_singleQuotedFrom (fun c => isPrintable_of_mem hsuits.2) false)
  · simp only [Style.suitsLiteral, Bool.and_eq_true, Bool.not_eq_true'] at hsuits
    have hlines := printable_literalFrom (fun c => isPrintable_of_mem hsuits.2) true
    exact .append (.cons (by decide) (printable_header s.toList)) (.cons (by decide) hlines)
  · refine .append (.cons (by decide) (.flatMap fun c _ => printable_escape c)) ?_
    exact .cons (by decide) .nil

end Scalar

theorem printable_itemLine (entry : String) : Printable (DefaultsFile.itemLine entry) := by
  have hentry : Printable ('-' :: ' ' :: Scalar.write entry) :=
    .cons (by decide) (.cons (by decide) (Scalar.printable_write entry))
  rw [DefaultsFile.itemLine, DefaultsFile.endLine]
  split
  · exact hentry
  · exact hentry.append (.cons (by decide) .nil)

end PermissionGraph.Yaml
