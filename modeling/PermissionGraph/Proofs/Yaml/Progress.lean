import PermissionGraph.Yaml.Scanner

/-!
# Progress of the scanner

Every reader leaves no more of the stream than it was given, and every token takes a character at
least. So a scanner with more fuel than characters never runs out of it.
-/

namespace PermissionGraph.Yaml

variable {α β : Type} {left : α → List Char} {left' : β → List Char} {m n : Nat}

/-- Of whatever a reader gives, `n` characters at most are left. -/
def Leaves (left : α → List Char) (n : Nat) (result : Option α) : Prop :=
  ∀ a, result = some a → (left a).length ≤ n

namespace Leaves

variable {result : Option α} {a : α} {f : α → Option β}

theorem none : Leaves left n none := nofun

theorem some (h : (left a).length ≤ n) : Leaves left n (some a) := by
  rintro _ ⟨⟩
  exact h

theorem mono (h : Leaves left m result) (hle : m ≤ n) : Leaves left n result :=
  fun a ha => Nat.le_trans (h a ha) hle

theorem succ (h : Leaves left n result) : Leaves left (n + 1) result := h.mono (Nat.le_succ n)

theorem bind (h : Leaves left m result) (hf : ∀ a, (left a).length ≤ m → Leaves left' n (f a)) :
    Leaves left' n (result.bind f) := by
  intro b hb
  obtain ⟨a, ha, hb⟩ := Option.bind_eq_some_iff.mp hb
  exact hf a (h a ha) b hb

theorem bind_of_forall (hf : ∀ a, Leaves left' n (f a)) : Leaves left' n (result.bind f) := by
  intro b hb
  obtain ⟨a, -, hb⟩ := Option.bind_eq_some_iff.mp hb
  exact hf a b hb

theorem map {g : α → β} (h : Leaves left n result) (hg : ∀ a, left' (g a) = left a) :
    Leaves left' n (result.map g) := by
  intro b hb
  obtain ⟨a, ha, rfl⟩ := Option.map_eq_some_iff.mp hb
  rw [hg]
  exact h a ha

theorem filter {p : α → Bool} (h : Leaves left n result) : Leaves left n (result.filter p) :=
  fun a ha => h a (Option.filter_eq_some_iff.mp ha).1

theorem map_of_forall {g : α → β} (hg : ∀ a, (left' (g a)).length ≤ n) :
    Leaves left' n (result.map g) := by
  intro b hb
  obtain ⟨a, -, rfl⟩ := Option.map_eq_some_iff.mp hb
  exact hg a

end Leaves

namespace Scalar

variable {cs : List Char}

theorem leaves_after {result : Option (List Char × List Char)} (h : Leaves Prod.snd n result) :
    Leaves Prod.snd n (after cs result) := h.map fun _ => rfl

theorem leaves_readPlain (inFlow : Bool) (floor column : Nat) (gap : Gap) (cs : List Char) :
    Leaves (·.2.rest) cs.length (readPlain inFlow floor column gap cs) := by
  fun_induction readPlain inFlow floor column gap cs with
  | case1 => exact .some (Nat.le_refl 0)
  | case2 _ _ _ _ _ ih => exact ih.succ
  | case3 => exact .none
  | case4 _ _ _ _ _ _ _ ih => exact ih.succ
  | case5 => exact .some (Nat.le_refl _)
  | case6 => exact .none
  | case7 => exact .some (Nat.le_refl _)
  | case8 _ _ _ _ _ _ _ _ _ ih => exact Leaves.succ (Leaves.map ih fun _ => rfl)

theorem leaves_readSingleQuoted (lineStart : Bool) (gap : Gap) (cs : List Char) :
    Leaves Prod.snd cs.length (readSingleQuoted lineStart gap cs) := by
  induction hn : cs.length using Nat.strongRecOn generalizing lineStart gap cs with
  | ind n ih =>
    subst hn
    cases cs with
    | nil => exact .none
    | cons c cs =>
      have htail (lineStart : Bool) (gap : Gap) :
          Leaves Prod.snd (cs.length + 1) (readSingleQuoted lineStart gap cs) :=
        (ih cs.length (Nat.lt_succ_self _) lineStart gap cs rfl).succ
      rw [readSingleQuoted.eq_def]
      dsimp only
      split
      · exact htail true _
      · split
        · exact htail false _
        · split
          · exact .none
          · split
            · split
              · next ds _ =>
                have hlt : ds.length < ds.length + 1 + 1 := by omega
                exact leaves_after ((ih ds.length hlt false .none ds rfl).mono (Nat.le_of_lt hlt))
              · exact .some (Nat.le_succ _)
            · exact leaves_after (htail false .none)

theorem leaves_readDoubleQuoted (lineStart : Bool) (gap : Gap) (code : Option PendingCode)
    (cs : List Char) : Leaves Prod.snd cs.length (readDoubleQuoted lineStart gap code cs) := by
  fun_induction readDoubleQuoted lineStart gap code cs with
  | case1 => exact .none
  | case2 _ _ _ _ digits _ ih ihmore =>
    refine .bind_of_forall fun d => ?_
    split
    · exact .bind_of_forall fun x => (leaves_after ih).succ
    · exact (ihmore d).succ
  | case3 _ _ _ _ _ ih => exact ih.succ
  | case4 _ _ _ _ _ _ ih => exact ih.succ
  | case5 => exact .none
  | case6 => exact .some (Nat.le_succ _)
  | case7 => exact .none
  | case8 _ _ _ _ _ _ _ _ _ _ _ ih => exact (leaves_after ih).succ.succ
  | case9 _ _ _ _ _ _ _ _ _ _ _ _ _ ih => exact (leaves_after ih).succ.succ
  | case10 _ _ _ _ _ _ _ _ _ _ _ _ ih =>
    exact .bind_of_forall fun x => (leaves_after ih).succ.succ
  | case11 _ _ _ _ _ _ _ _ _ ih => exact (leaves_after ih).succ

theorem leaves_readHeader (cs : List Char) : Leaves Prod.snd cs.length (BlockHeader.read cs) := by
  unfold BlockHeader.read
  split
  · exact .some (Nat.le_refl 0)
  · next c cs =>
    split
    · split
      · split
        · exact .map_of_forall fun _ => Nat.le_add_right _ 2
        · exact .some (Nat.le_succ _)
      · exact .some (Nat.le_succ _)
    · split
      · refine .map_of_forall fun _ => ?_
        split
        · split
          · exact Nat.le_add_right _ 2
          · exact Nat.le_succ _
        · exact Nat.le_succ _
      · exact .some (Nat.le_refl _)

theorem length_dropWhile_le (p : Char → Bool) (cs : List Char) :
    (cs.dropWhile p).length ≤ cs.length := (List.dropWhile_sublist p).length_le

theorem leaves_endOfLine? (cs : List Char) : Leaves id cs.length (endOfLine? cs) := by
  have hblank := length_dropWhile_le isBlank cs
  have hcomment := length_dropWhile_le (!isBreak ·) (cs.dropWhile isBlank)
  have htail (cs : List Char) : cs.tail.length ≤ cs.length := by
    rw [List.length_tail]
    omega
  unfold endOfLine?
  simp only
  split
  · split
    · exact .some (Nat.le_trans (htail _) (Nat.le_trans hcomment hblank))
    · exact .none
  · split
    · exact .some (Nat.le_trans (htail _) hblank)
    · exact .none

theorem leaves_blockStart (indent : Option Nat) (column farthest : Nat) (breaks cs : List Char) :
    Leaves BlockStart.rest cs.length (blockStart indent column farthest breaks cs) := by
  fun_induction blockStart indent column farthest breaks cs with
  | case1 => exact .some (Nat.le_refl 0)
  | case2 _ _ _ _ _ _ _ ih => exact ih.succ
  | case3 => exact .none
  | case4 _ _ _ _ _ _ _ _ _ ih => exact ih.succ
  | case5 => exact .some (Nat.le_refl _)

theorem leaves_readLines (folded : Bool) (ch : Chomping) (indent : Nat) (place : BlockPlace)
    (cs : List Char) : Leaves Prod.snd cs.length (readLines folded ch indent place cs) := by
  fun_induction readLines folded ch indent place cs with
  | case1 => exact .some (Nat.le_refl 0)
  | case2 => exact .some (Nat.le_refl 0)
  | case3 _ _ _ _ ih => exact ih.succ
  | case4 _ _ _ _ ih => exact Leaves.succ (Leaves.map ih fun _ => rfl)
  | case5 _ _ _ _ _ _ _ ih => exact ih.succ
  | case6 => exact .none
  | case7 _ _ _ _ _ _ _ _ _ ih => exact ih.succ
  | case8 => exact .some (Nat.le_refl _)
  | case9 _ _ _ _ _ _ _ _ _ _ ih => exact Leaves.succ (Leaves.map ih fun _ => rfl)

theorem leaves_readBlock (folded : Bool) (floor : Nat) (cs : List Char) :
    Leaves Prod.snd cs.length (readBlock folded floor cs) := by
  refine (leaves_readHeader cs).bind fun header hheader => ?_
  refine ((leaves_endOfLine? header.2).mono hheader).bind fun body hbody => ?_
  refine ((leaves_blockStart _ 0 0 [] body).mono hbody).bind fun start hstart => ?_
  exact (leaves_readLines _ _ _ _ start.rest).mono hstart

end Scalar

namespace Property

open Scalar (length_dropWhile_le leaves_endOfLine?)

theorem leaves_readName (cs : List Char) : Leaves Prod.snd cs.length (readName cs) := by
  unfold readName
  simp only
  split
  · exact .none
  · exact .some (length_dropWhile_le isWord cs)

theorem leaves_readUri (verbatim : Bool) (pending : Nat) (cs : List Char) :
    Leaves Prod.snd cs.length (readUri verbatim pending cs) := by
  induction hn : cs.length using Nat.strongRecOn generalizing pending cs with
  | ind n ih =>
    subst hn
    rw [readUri.eq_def]
    split
    · split
      · exact .some (Nat.le_refl 0)
      · exact .none
    · next c cs =>
      split
      · split
        · next a b ds =>
          have hlt : ds.length < ds.length + 1 + 1 + 1 := by omega
          have hrest (octet pending : Nat) : Leaves Prod.snd (c :: a :: b :: ds).length
              ((readUri verbatim pending ds).bind fun uri =>
                some (Char.ofNat octet :: uri.1, uri.2)) :=
            ((ih ds.length hlt pending ds rfl).mono (Nat.le_of_lt hlt)).bind fun _ h => .some h
          refine .bind_of_forall fun high => .bind_of_forall fun low => ?_
          split
          · exact .bind_of_forall fun pending => hrest _ pending
          · dsimp only
            split
            · exact hrest _ _
            · exact .none
        · exact .none
      · split
        · exact .none
        · split
          · have htail := ih cs.length (Nat.lt_succ_self _) 0 cs rfl
            exact Leaves.succ (Leaves.map htail fun _ => rfl)
          · exact .some (Nat.le_refl _)

theorem leaves_readUri1 (verbatim : Bool) (cs : List Char) :
    Leaves Prod.snd cs.length (readUri1 verbatim cs) :=
  (leaves_readUri verbatim 0 cs).filter.map fun _ => rfl

theorem leaves_readTag (inFlow : Bool) (cs : List Char) :
    Leaves Prod.snd cs.length (readTag inFlow cs) := by
  have hend (parts : List Char × List Char × List Char) (h : parts.2.2.length ≤ cs.length) :
      Leaves Prod.snd cs.length
        (if atGap parts.2.2 || (inFlow && parts.2.2.head? == some ',') then
          some (Token.tag (String.ofList parts.1) (String.ofList parts.2.1), parts.2.2)
        else none) := by
    split
    · exact .some h
    · exact .none
  unfold readTag
  dsimp only
  split
  · next cs =>
    refine ((leaves_readUri1 true cs).mono (Nat.le_succ _)).bind fun uri huri => ?_
    obtain ⟨uri, rest⟩ := uri
    dsimp only at huri ⊢
    split
    · exact hend ([], uri, _) (Nat.le_of_succ_le huri)
    · exact .none
  · have hword := length_dropWhile_le isWord cs
    split
    · next rest heq =>
      rw [heq] at hword
      refine (leaves_readUri1 false rest).bind fun uri huri => ?_
      exact hend ('!' :: cs.takeWhile isWord ++ ['!'], uri.1, uri.2)
        (Nat.le_trans huri (Nat.le_of_succ_le hword))
    · refine (leaves_readUri false 0 _).bind fun uri huri => ?_
      refine Leaves.bind (.some ?_) hend
      split
      · exact Nat.le_trans huri hword
      · exact Nat.le_trans huri hword

theorem leaves_readNumber (cs : List Char) : Leaves Prod.snd cs.length (readNumber cs) := by
  unfold readNumber
  simp only
  split
  · exact .none
  · exact .map_of_forall fun _ => length_dropWhile_le isDigit cs

theorem leaves_readVersion (cs : List Char) : Leaves Prod.snd cs.length (readVersion cs) := by
  refine ((leaves_readNumber _).mono (length_dropWhile_le isBlank cs)).bind fun major hmajor => ?_
  obtain ⟨major, rest⟩ := major
  dsimp only at hmajor ⊢
  split
  · refine (leaves_readNumber _).bind fun _ h => .some (Nat.le_trans h ?_)
    exact Nat.le_of_succ_le hmajor
  · exact .none

theorem leaves_readTagHandle (cs : List Char) : Leaves Prod.snd cs.length (readTagHandle cs) := by
  have hblank := length_dropWhile_le isBlank cs
  have hexpansion (handle rest : List Char) (hrest : rest.length ≤ cs.length) :
      Leaves Prod.snd cs.length (if !rest.head?.any isBlank then none else
        (readUri1 true (rest.dropWhile isBlank)).bind fun uri =>
          if atGap uri.2 then
            some (Token.tagHandle (String.ofList handle) (String.ofList uri.1), uri.2)
          else none) := by
    split
    · exact .none
    · refine Leaves.bind (leaves_readUri1 true _) fun uri huri => ?_
      split
      · exact .some (Nat.le_trans huri (Nat.le_trans (length_dropWhile_le isBlank rest) hrest))
      · exact .none
  unfold readTagHandle
  split
  · next cs' heq =>
    rw [heq] at hblank
    have hword := Nat.le_trans (length_dropWhile_le isWord cs') (Nat.le_of_succ_le hblank)
    dsimp only
    split
    · next rest heq =>
      rw [heq] at hword
      exact hexpansion _ _ (Nat.le_of_succ_le hword)
    · split
      · exact hexpansion _ _ hword
      · exact .none
  · exact .none

theorem leaves_readDirective (cs : List Char) :
    Leaves Prod.snd cs.length (readDirective cs) := by
  have hword := length_dropWhile_le isWord cs
  have hend {result : Option (Token × List Char)} (h : Leaves Prod.snd cs.length result) :
      Leaves Prod.snd cs.length (result.bind fun token =>
        (Scalar.endOfLine? token.2).bind fun rest => some (token.1, rest)) :=
    Leaves.bind h fun token htoken =>
      Leaves.bind (leaves_endOfLine? token.2) fun rest hrest => .some (Nat.le_trans hrest htoken)
  unfold readDirective
  dsimp only
  split
  · exact .none
  · split
    · exact hend ((leaves_readVersion _).mono hword)
    · split
      · exact hend ((leaves_readTagHandle _).mono hword)
      · exact .none

end Property

namespace Scanner

variable {s s' : Scanner} {c : Char} {cs : List Char}

/-- A step that takes nothing of the stream. -/
def Stays (s : Scanner) (result : Option Scanner) : Prop :=
  ∀ s', result = some s' → s'.rest = s.rest

theorem Stays.bind {result : Option Scanner} {f : Scanner → Option Scanner}
    (h : s.Stays result) (hf : ∀ s', s'.rest = s.rest → Leaves rest n (f s')) :
    Leaves rest n (result.bind f) := by
  intro next hnext
  obtain ⟨s', hs', hnext⟩ := Option.bind_eq_some_iff.mp hnext
  exact hf s' (h s' hs') next hnext

theorem stays_dropKey (s : Scanner) : s.Stays s.dropKey := by
  intro s' h
  rw [dropKey] at h
  split at h
  · cases h
  · cases h
    rfl

theorem stays_dropStaleKey (s : Scanner) : s.Stays s.dropStaleKey := by
  intro s' h
  unfold dropStaleKey at h
  split at h
  · cases h
    rfl
  · split at h
    · cases h
      rfl
    · split at h
      · cases h
      · cases h
        rfl

theorem stays_noteKey (s : Scanner) : s.Stays s.noteKey := by
  intro s' h
  rw [noteKey] at h
  split at h
  · obtain ⟨d, hd, hs'⟩ := Option.bind_eq_some_iff.mp h
    cases hs'
    exact stays_dropKey s d hd
  · cases h
    rfl

theorem rest_roll (s : Scanner) (column place : Nat) (t : Token) :
    (s.roll column place t).rest = s.rest := by
  rw [roll]
  split <;> rfl

theorem stays_startBlock (s : Scanner) (t : Token) : s.Stays (s.startBlock t) := by
  intro s' h
  rw [startBlock] at h
  split at h
  · cases h
    rfl
  · split at h
    · cases h
      exact rest_roll ..
    · cases h

theorem rest_unrollAll (s : Scanner) : s.unrollAll.rest = s.rest := by
  rw [unrollAll]
  split <;> rfl

theorem rest_unrollTo (s : Scanner) (column : Nat) : (s.unrollTo column).rest = s.rest := by
  rw [unrollTo]
  split <;> rfl

theorem length_skipGap (inFlow inComment keyAllowed : Bool) (p : Position) (cs : List Char) :
    (skipGap inFlow inComment keyAllowed p cs).2.2.length ≤ cs.length := by
  fun_induction skipGap inFlow inComment keyAllowed p cs with
  | case1 => exact Nat.le_refl 0
  | case2 _ _ _ _ _ _ ih => exact Nat.le_succ_of_le ih
  | case3 _ _ _ _ _ ih => exact Nat.le_succ_of_le ih
  | case4 _ _ _ _ _ _ _ _ ih => exact Nat.le_succ_of_le ih
  | case5 _ _ _ _ _ _ _ _ _ ih => exact Nat.le_succ_of_le ih
  | case6 => exact Nat.le_refl _

theorem rest_skip1 (s : Scanner) : s.skip1.rest = s.rest.tail := by
  rw [skip1]
  split
  · next h => rw [h, List.tail_nil]
  · next h => rw [h, List.tail_cons]

theorem rest_take1 (h : s.rest = c :: cs) (t : Token) : (s.take1 t).rest = cs :=
  (rest_skip1 s).trans (by rw [h, List.tail_cons])

theorem leaves_fetchMark (h : s.rest = c :: cs) (t : Token) :
    Leaves rest cs.length (s.fetchMark t) := by
  refine (stays_dropKey s.unrollAll).bind fun s' hs' => .some ?_
  have htail : s'.skip1.skip1.skip1.rest = cs.tail.tail := by
    rw [rest_skip1, rest_skip1, rest_skip1, hs', rest_unrollAll, h, List.tail_cons]
  refine Nat.le_trans (Nat.le_of_eq (congrArg List.length htail)) ?_
  rw [List.length_tail, List.length_tail]
  omega

theorem leaves_fetchFlowStart (h : s.rest = c :: cs) (t : Token) :
    Leaves rest cs.length (s.fetchFlowStart t) :=
  (stays_noteKey s).bind fun _ hs' =>
    .some (Nat.le_of_eq (congrArg List.length (rest_take1 (hs'.trans h) t)))

theorem leaves_fetchFlowEnd (h : s.rest = c :: cs) (t : Token) :
    Leaves rest cs.length (s.fetchFlowEnd t) := by
  refine (stays_dropKey s).bind fun s' hs' => .some ?_
  have hrest := hs'.trans h
  split
  · next key keys _ =>
    exact Nat.le_of_eq (congrArg List.length
      (rest_take1 (s := { s' with possibleKey := key, outerKeys := keys }) hrest t))
  · exact Nat.le_of_eq (congrArg List.length (rest_take1 hrest t))

theorem leaves_fetchFlowEntry (h : s.rest = c :: cs) : Leaves rest cs.length s.fetchFlowEntry :=
  (stays_dropKey s).bind fun _ hs' =>
    .some (Nat.le_of_eq (congrArg List.length (rest_take1 (hs'.trans h) .flowEntry)))

theorem leaves_fetchBlockEntry (h : s.rest = c :: cs) :
    Leaves rest cs.length s.fetchBlockEntry := by
  refine (stays_startBlock s .blockSequenceStart).bind fun s₁ h₁ => ?_
  refine (stays_dropKey s₁).bind fun s₂ h₂ => .some ?_
  exact Nat.le_of_eq (congrArg List.length (rest_take1 (h₂.trans (h₁.trans h)) .blockEntry))

theorem leaves_fetchKey (h : s.rest = c :: cs) : Leaves rest cs.length s.fetchKey := by
  refine (stays_startBlock s .blockMappingStart).bind fun s₁ h₁ => ?_
  refine (stays_dropKey s₁).bind fun s₂ h₂ => .some ?_
  exact Nat.le_of_eq (congrArg List.length (rest_take1 (h₂.trans (h₁.trans h)) .key))

theorem leaves_fetchValue (h : s.rest = c :: cs) : Leaves rest cs.length s.fetchValue := by
  rw [fetchValue]
  split
  · next k _ =>
    have hroll := rest_roll (s.insert k.place .key) k.position.column k.place .blockMappingStart
    exact .some (Nat.le_of_eq (congrArg List.length (rest_take1 (hroll.trans h) .value)))
  · refine (stays_startBlock s .blockMappingStart).bind fun s' hs' => .some ?_
    exact Nat.le_of_eq (congrArg List.length (rest_take1 (hs'.trans h) .value))

theorem length_tail_le (h : s.rest = c :: cs) : s.rest.tail.length ≤ cs.length :=
  Nat.le_of_eq (by rw [h, List.tail_cons])

theorem leaves_fetchDirective (h : s.rest = c :: cs) : Leaves rest cs.length s.fetchDirective :=
  (stays_dropKey s.unrollAll).bind fun s' hs' =>
    Leaves.bind (Property.leaves_readDirective s'.rest.tail) fun _ hr =>
      .some (Nat.le_trans hr (length_tail_le (hs'.trans ((rest_unrollAll s).trans h))))

theorem leaves_fetchName (h : s.rest = c :: cs) (token : String → Token) :
    Leaves rest cs.length (s.fetchName token) :=
  (stays_noteKey s).bind fun s' hs' =>
    Leaves.bind (Property.leaves_readName s'.rest.tail) fun _ hr =>
      .some (Nat.le_trans hr (length_tail_le (hs'.trans h)))

theorem leaves_fetchTag (h : s.rest = c :: cs) : Leaves rest cs.length s.fetchTag :=
  (stays_noteKey s).bind fun s' hs' =>
    Leaves.bind (Property.leaves_readTag s'.inFlow s'.rest.tail) fun _ hr =>
      .some (Nat.le_trans hr (length_tail_le (hs'.trans h)))

theorem leaves_fetchBlock (h : s.rest = c :: cs) (folded : Bool) :
    Leaves rest cs.length (s.fetchBlock folded) :=
  (stays_dropKey s).bind fun s' hs' =>
    Leaves.bind (Scalar.leaves_readBlock folded s'.floor s'.rest.tail) fun _ hr =>
      .some (Nat.le_trans hr (length_tail_le (hs'.trans h)))

theorem leaves_fetchSingleQuoted (h : s.rest = c :: cs) :
    Leaves rest cs.length s.fetchSingleQuoted :=
  (stays_noteKey s).bind fun s' hs' =>
    Leaves.bind (Scalar.leaves_readSingleQuoted false .none s'.rest.tail) fun _ hr =>
      .some (Nat.le_trans hr (length_tail_le (hs'.trans h)))

theorem leaves_fetchDoubleQuoted (h : s.rest = c :: cs) :
    Leaves rest cs.length s.fetchDoubleQuoted :=
  (stays_noteKey s).bind fun s' hs' =>
    Leaves.bind (Scalar.leaves_readDoubleQuoted false .none none s'.rest.tail) fun _ hr =>
      .some (Nat.le_trans hr (length_tail_le (hs'.trans h)))

/-- A plain scalar takes its first character where nothing else could. -/
theorem leaves_fetchPlain (h : s.rest = c :: cs) (hbreak : isBreak c = false)
    (hblank : isBlank c = false) (hcolon : c = ':' → atGap cs = false)
    (hflow : Scalar.isFlowIndicator c = false) : Leaves rest cs.length s.fetchPlain := by
  refine (stays_noteKey s).bind fun s' hs' => ?_
  have hcolon' : (c == ':' && atGap cs) = false := by
    rw [Bool.and_eq_false_imp, beq_iff_eq]
    exact hcolon
  refine Leaves.bind (?_ : Leaves (·.2.rest) cs.length _) fun _ hr => .some hr
  rw [hs'.trans h, Scalar.readPlain]
  simp only [hbreak, hblank, hcolon', hflow, Scalar.endsAtWord, Bool.and_false, Bool.or_false,
    Bool.false_eq_true, if_false]
  split
  · exact .none
  · exact Leaves.map (Scalar.leaves_readPlain _ _ _ _ cs) fun _ => rfl

/-- Every token takes a character. -/
theorem leaves_fetch (h : s.rest = c :: cs) : Leaves rest cs.length (s.fetch c cs) := by
  rw [fetch.eq_def]
  split
  · exact leaves_fetchDirective h
  · split
    · exact leaves_fetchMark h _
    · split
      · exact leaves_fetchFlowStart h _
      · exact leaves_fetchFlowStart h _
      · exact leaves_fetchFlowEnd h _
      · exact leaves_fetchFlowEnd h _
      · exact leaves_fetchFlowEntry h
      · exact leaves_fetchName h _
      · exact leaves_fetchName h _
      · exact leaves_fetchTag h
      · exact leaves_fetchSingleQuoted h
      · exact leaves_fetchDoubleQuoted h
      · split
        · exact .none
        · exact leaves_fetchBlock h false
      · split
        · exact .none
        · exact leaves_fetchBlock h true
      · split
        · exact leaves_fetchBlockEntry h
        · exact leaves_fetchPlain h (by decide) (by decide) nofun (by decide)
      · split
        · exact leaves_fetchKey h
        · exact leaves_fetchPlain h (by decide) (by decide) nofun (by decide)
      · split
        · exact leaves_fetchValue h
        · next hvalue =>
          rw [Bool.or_eq_true, not_or, Bool.not_eq_true, Bool.not_eq_true] at hvalue
          exact leaves_fetchPlain h (by decide) (by decide) (fun _ => hvalue.2) (by decide)
      · next hsequence hmapping hendSequence hendMapping hentry _ _ _ _ _ _ _ _ _ hcolon =>
        split
        · exact .none
        · next hnothing =>
          simp only [startsNothing, Bool.or_eq_true, not_or, Bool.not_eq_true] at hnothing
          have hflow : Scalar.isFlowIndicator c = false := by
            have hchars : ",[]\x7b\x7d".toList = [',', '[', ']', '\x7b', '\x7d'] := rfl
            rw [Scalar.isFlowIndicator, hchars]
            simpa using ⟨hentry, hsequence, hendSequence, hmapping, hendMapping⟩
          exact leaves_fetchPlain h hnothing.1.1.1.2 hnothing.1.1.1.1 (fun hc => absurd hc hcolon)
            hflow

/-- A scanner with more fuel than characters does not need more. -/
theorem run_eq_run {fuel more : Nat} (hfuel : s.rest.length < fuel) (hmore : fuel ≤ more) :
    s.run more = s.run fuel := by
  induction fuel generalizing s more with
  | zero => cases hfuel
  | succ fuel ih =>
    obtain ⟨more, rfl⟩ : ∃ n, more = n + 1 := ⟨more - 1, by omega⟩
    simp only [run]
    cases hs : s.toToken.dropStaleKey with
    | none => rfl
    | some s' =>
      have hrest : s'.rest.length ≤ s.rest.length := by
        rw [stays_dropStaleKey _ s' hs]
        exact length_skipGap ..
      simp only [Option.bind_eq_bind, Option.bind_some]
      cases hcs : s'.rest with
      | nil => rfl
      | cons c cs =>
        simp only
        have hunroll := (rest_unrollTo s' s'.position.column).trans hcs
        cases hnext : (s'.unrollTo s'.position.column).fetch c cs with
        | none => rfl
        | some next =>
          have hshorter := leaves_fetch hunroll next hnext
          rw [hcs, List.length_cons] at hrest
          exact ih (by omega) (by omega)

end Scanner

end PermissionGraph.Yaml
