import PermissionGraph.Proofs.Cache.Session

/-!
# Computations that use the cache

A computation may use the cache it is run for: ask for other nodes, drop entries, its own too, and
then ask for its own node again. Entries are told apart by the number of their computation. The
entry of a computation is in place at its end just where no event since its start drops it, and only
there does its end touch the entries.
-/

namespace PermissionGraph

variable {s s' s'' : JournaledCache} {call : CacheCall}

/-- From `s` to `s'` the journal grows by `events`, and an entry numbered below `limit` is still in
place just where no event drops it. -/
structure Passage (limit : Nat) (s s' : JournaledCache) (events : Journal) : Prop where
  journal : s'.journal = s.journal ++ events
  computations : s.cache.computations ≤ s'.cache.computations
  awaits : ∀ node n, n < limit →
    s'.cache.awaits node n = (s.cache.awaits node n && !events.drops node)

namespace Passage

variable {limit : Nat} {events later : Journal}

theorem trans (h : Passage limit s s' events) (h' : Passage limit s' s'' later) :
    Passage limit s s'' (events ++ later) where
  journal := by rw [h'.journal, h.journal, List.append_assoc]
  computations := Nat.le_trans h.computations h'.computations
  awaits node n hn := by
    rw [h'.awaits node n hn, h.awaits node n hn, Journal.drops_append, Bool.not_or, Bool.and_assoc]

theorem mono {limit' : Nat} (h : Passage limit s s' events) (hle : limit' ≤ limit) :
    Passage limit' s s' events :=
  ⟨h.journal, h.computations, fun node n hn => h.awaits node n (Nat.lt_of_lt_of_le hn hle)⟩

/-- Entries made since `s` do not count for a passage that begins there. -/
theorem step (h : Passage s.cache.computations s s' events)
    (hrest : ∃ later, Passage s'.cache.computations s' s'' later) :
    ∃ events, Passage s.cache.computations s s'' events := by
  obtain ⟨later, h'⟩ := hrest
  exact ⟨events ++ later, h.trans (h'.mono h.computations)⟩

/-- Where only the cache changes, nothing is noted. -/
theorem of_cache {c : Cache} (hcount : s.cache.computations ≤ c.computations)
    (h : ∀ node n, n < limit → c.awaits node n = s.cache.awaits node n) :
    Passage limit s { s with cache := c } [] where
  journal := (List.append_nil _).symm
  computations := hcount
  awaits node n hn := by
    rw [h node n hn]
    exact (Bool.and_true _).symm

theorem refl (limit : Nat) (s : JournaledCache) : Passage limit s s [] :=
  of_cache (Nat.le_refl _) fun _ _ _ => rfl

theorem note_started (limit : Nat) (s : JournaledCache) (node : String) :
    Passage limit s (s.note (.started node)) [.started node] :=
  ⟨rfl, Nat.le_refl _, fun _ _ _ => (Bool.and_true _).symm⟩

theorem invalidate (limit : Nat) (s : JournaledCache) (node : String) :
    Passage limit s (s.invalidate node).2 [.invalidated node] where
  journal := rfl
  computations := Nat.le_of_eq (s.cache.computations_invalidate node).symm
  awaits node' n _ := by
    change (s.cache.invalidate node).2.awaits node' n =
      (s.cache.awaits node' n && !((node == node') || false))
    by_cases h : node' = node
    · simp [Cache.awaits, h]
    · simp [Cache.awaits, h, Ne.symm h]

theorem invalidateAll (limit : Nat) (s : JournaledCache) :
    Passage limit s s.invalidateAll [.cleared] where
  journal := rfl
  computations := Nat.le_refl _
  awaits _ _ _ := (Bool.and_false _).symm

theorem begun (h : call.Missing) :
    Passage call.number call.state call.begun [.started call.node] := by
  have hreserve : Passage call.number call.state
      { call.state with cache := call.state.cache.reserve call.node } [] :=
    of_cache (Nat.le_succ _) fun node n hn =>
      Cache.awaits_reserve_of_ne h (Nat.ne_of_lt hn) node
  exact hreserve.trans (note_started _ _ _)

/-- At its end a computation writes no number, and takes away at most its own. -/
theorem ended (h : call.Missing) : Passage call.number call.own.2 call.answer.2 [] := by
  cases hown : call.own.1 with
  | ok d =>
    rw [call.answer_of_ok h hown]
    exact of_cache (Nat.le_refl _) fun node n _ => Cache.awaits_fulfil ..
  | error f =>
    rw [call.answer_of_error h hown]
    refine of_cache (Nat.le_of_eq (Cache.computations_abandon ..).symm) fun node n hn => ?_
    exact Cache.awaits_abandon_of_ne _ _ (Nat.ne_of_lt hn) node

theorem answer (call : CacheCall)
    (hown : ∃ events, Passage call.begun.cache.computations call.begun call.own.2 events) :
    ∃ events, Passage call.number call.state call.answer.2 events := by
  rcases call.answer_cases with ⟨d, hd⟩ | ⟨n, hn⟩ | hmissing
  · rw [call.answer_of_kept hd]
    exact ⟨[], of_cache (Nat.le_refl _) fun _ _ _ => rfl⟩
  · rw [call.answer_of_waiting hn]
    exact ⟨[], refl _ _⟩
  · have h : call.Missing := hmissing.elim And.left And.left
    obtain ⟨events, hbody⟩ := hown
    have hbegun := begun h
    exact ⟨_, (hbegun.trans (hbody.mono hbegun.computations)).trans (ended h)⟩

end Passage

/-- What was in place when a session began is in place at its end, but for what it drops. -/
theorem CacheSession.passage_run (t : CacheSession) (s : JournaledCache) :
    ∃ events, Passage s.cache.computations s (t.run s).2 events := by
  induction t generalizing s with
  | finish outcome => exact ⟨[], .refl _ s⟩
  | get node next ih => exact ih (s.cache.get? node) s
  | stats next ih => exact ih s.cache.stats s
  | invalidate node next ih => exact (Passage.invalidate _ s node).step (ih _ _)
  | invalidateAll next ih => exact (Passage.invalidateAll _ s).step (ih _)
  | compute node body next ihbody ihnext =>
    obtain ⟨events, h⟩ := Passage.answer ⟨node, body, [], s⟩ (ihbody _)
    exact h.step (ihnext _ _)

namespace CacheCall

theorem waitsWithin_begun (h : call.Missing)
    (hs : call.state.cache.WaitsWithin call.within) :
    call.begun.cache.WaitsWithin ((call.node, call.number) :: call.within) :=
  hs.reserve h

theorem waitsWithin_answer (call : CacheCall)
    (hs : call.state.cache.WaitsWithin call.within)
    (hown : call.begun.cache.WaitsWithin ((call.node, call.number) :: call.within) →
      call.own.2.cache.WaitsWithin ((call.node, call.number) :: call.within)) :
    call.answer.2.cache.WaitsWithin call.within := by
  rcases call.answer_cases with ⟨d, hd⟩ | ⟨n, hn⟩ | ⟨h, d, hd⟩ | ⟨h, f, hf⟩
  · rw [call.answer_of_kept hd]
    exact hs
  · rw [call.answer_of_waiting hn]
    exact hs
  · rw [call.answer_of_ok h hd]
    exact (hown (waitsWithin_begun h hs)).fulfil d
  · rw [call.answer_of_error h hf]
    exact (hown (waitsWithin_begun h hs)).abandon

end CacheCall

namespace CacheSession

/-- A session leaves no entry of its own without a decision, wherever it breaks off. -/
theorem waitsWithin_run (t : CacheSession) (within : List (String × Nat))
    (hs : s.cache.WaitsWithin within) : (t.run s).2.cache.WaitsWithin within := by
  induction t generalizing within s with
  | finish outcome => exact hs
  | get node next ih => exact ih (s.cache.get? node) within hs
  | stats next ih => exact ih s.cache.stats within hs
  | invalidate node next ih => exact ih _ within (hs.invalidate node)
  | invalidateAll next ih => exact ih within (.invalidateAll s.cache within)
  | compute node body next ihbody ihnext =>
    exact ihnext _ within (CacheCall.waitsWithin_answer ⟨node, body, within, s⟩ hs (ihbody _))

theorem Makes.waitsWithin {t : CacheSession} {within : List (String × Nat)}
    (made : t.Makes call within s) (hs : s.cache.WaitsWithin within) :
    call.state.cache.WaitsWithin call.within := by
  induction t generalizing within s with
  | finish outcome => exact made.elim
  | get node next ih => exact ih _ made hs
  | stats next ih => exact ih _ made hs
  | invalidate node next ih => exact ih _ made (hs.invalidate node)
  | invalidateAll next ih => exact ih made (.invalidateAll s.cache within)
  | compute node body next ihbody ihnext =>
    rcases made with rfl | ⟨hmissing, inner⟩ | later
    · exact hs
    · exact ihbody inner (CacheCall.waitsWithin_begun hmissing hs)
    · exact ihnext _ later
        (CacheCall.waitsWithin_answer ⟨node, body, within, s⟩ hs fun h => body.waitsWithin_run _ h)

end CacheSession

/-- The call runs its computation, which comes to `d` for `node`. -/
structure CacheCall.Gives (call : CacheCall) (node : String) (d : Decision) : Prop where
  node_eq : call.node = node
  missing : call.Missing
  own_eq : call.own.1 = .ok d

theorem CacheCall.kept_of_answer (call : CacheCall) {node : String} {d : Decision}
    (h : call.answer.2.cache.get? node = some d) :
    call.state.cache.get? node = some d ∨
      (call.Missing ∧ call.own.2.cache.get? node = some d) ∨ call.Gives node d := by
  rcases call.answer_cases with ⟨d', hd⟩ | ⟨n, hn⟩ | ⟨hm, d', hd⟩ | ⟨hm, f, hf⟩
  · rw [call.answer_of_kept hd] at h
    exact .inl h
  · rw [call.answer_of_waiting hn] at h
    exact .inl h
  · rw [call.answer_of_ok hm hd, Cache.get?, Cache.lookup_fulfil] at h
    by_cases hnode : node = call.node ∧ call.own.2.cache.awaits call.node call.number = true
    · rw [if_pos hnode] at h
      obtain rfl : d' = d := Option.some.inj h
      exact .inr (.inr ⟨hnode.1.symm, hm, hd⟩)
    · rw [if_neg hnode] at h
      exact .inr (.inl ⟨hm, h⟩)
  · rw [call.answer_of_error hm hf, Cache.get?, Cache.lookup_abandon] at h
    by_cases hnode : node = call.node ∧ call.own.2.cache.awaits call.node call.number = true
    · rw [if_pos hnode] at h
      cases h
    · rw [if_neg hnode] at h
      exact .inr (.inl ⟨hm, h⟩)

/-- A decision that is kept after a session was kept before it, or some call of the session ran its
computation to it. -/
theorem CacheSession.kept_of_run (t : CacheSession) (within : List (String × Nat))
    {node : String} {d : Decision} (h : (t.run s).2.cache.get? node = some d) :
    s.cache.get? node = some d ∨ ∃ call, t.Makes call within s ∧ call.Gives node d := by
  induction t generalizing within s with
  | finish outcome => exact .inl h
  | get node' next ih => exact ih _ within h
  | stats next ih => exact ih _ within h
  | invalidate node' next ih =>
    refine (ih _ within h).imp_left fun hkept => ?_
    by_cases hnode : node' = node
    · subst hnode
      exact absurd (hkept.symm.trans (s.cache.get?_invalidate_self node')) (Option.some_ne_none d)
    · exact (s.cache.get?_invalidate_of_ne hnode).symm.trans hkept
  | invalidateAll next ih =>
    refine (ih within h).imp_left fun hkept => ?_
    exact absurd (hkept.symm.trans (s.cache.get?_invalidateAll node)) (Option.some_ne_none d)
  | compute node' body next ihbody ihnext =>
    rcases ihnext _ within h with hkept | ⟨call, made, gives⟩
    · rcases CacheCall.kept_of_answer ⟨node', body, within, s⟩ hkept with
        hold | ⟨hmissing, hown⟩ | gives
      · exact .inl hold
      · rcases ihbody _ hown with hbegun | ⟨call, made, gives⟩
        · exact .inl ((Cache.get?_reserve hmissing node).symm.trans hbegun)
        · exact .inr ⟨call, .inr (.inl ⟨hmissing, made⟩), gives⟩
      · exact .inr ⟨_, .inl rfl, gives⟩
    · exact .inr ⟨call, .inr (.inr made), gives⟩

namespace CacheCall

/-- What a call does that runs its computation, when `events` is what is noted between the start of
the computation and its end. -/
structure Computes (call : CacheCall) (events : Journal) : Prop where
  started : call.answer.2.journal = call.state.journal ++ .started call.node :: events
  result : call.answer.1 = call.own.1
  /-- The own entry is in place at the end just where it was not dropped. -/
  in_place : call.own.2.cache.awaits call.node call.number = !events.drops call.node
  kept : ∀ d, call.own.1 = .ok d → events.drops call.node = false →
    call.answer.2.cache.get? call.node = some d
  gone : ∀ f, call.own.1 = .error f →
    call.answer.2.cache.awaits call.node call.number = false
  evicted : ∀ f, call.own.1 = .error f → events.drops call.node = false →
    call.answer.2.cache.entries.lookup call.node = none
  left : events.drops call.node = true →
    call.answer.2.cache.entries.lookup call.node = call.own.2.cache.entries.lookup call.node
  /-- What the computation left for its own node came from a computation begun after it. -/
  newer : ∀ d, call.own.2.cache.get? call.node = some d →
    ∃ later, call.body.Makes later ((call.node, call.number) :: call.within) call.begun ∧
      later.Gives call.node d
  others : ∀ node, node ≠ call.node →
    call.answer.2.cache.entries.lookup node = call.own.2.cache.entries.lookup node

theorem lookup_answer_of_not (hmissing : call.Missing) {node : String}
    (h : ¬ (node = call.node ∧ call.own.2.cache.awaits call.node call.number = true)) :
    call.answer.2.cache.entries.lookup node = call.own.2.cache.entries.lookup node := by
  cases hown : call.own.1 with
  | ok d => simp [call.answer_of_ok hmissing hown, h]
  | error f => simp [call.answer_of_error hmissing hown, h]

theorem computes (hmissing : call.Missing) : ∃ events, call.Computes events := by
  -- the own entry is numbered below what its computation makes, so the passage accounts for it
  obtain ⟨events, hbody⟩ := call.body.passage_run call.begun
  have hended : call.answer.2.journal = call.own.2.journal :=
    (Passage.ended hmissing).journal.trans (List.append_nil _)
  have hplace : call.own.2.cache.awaits call.node call.number = !events.drops call.node := by
    refine (hbody.awaits call.node call.number (Nat.lt_succ_self _)).trans ?_
    rw [show call.begun.cache.awaits call.node call.number = true from
      Cache.awaits_reserve hmissing, Bool.true_and]
  have hthere (h : events.drops call.node = false) :
      call.node = call.node ∧ call.own.2.cache.awaits call.node call.number = true :=
    ⟨rfl, by rw [hplace, h]; rfl⟩
  refine ⟨events, ?_⟩
  exact {
    started := by
      rw [hended]
      exact hbody.journal.trans (List.append_assoc ..)
    result := by
      cases hown : call.own.1 with
      | ok d => rw [call.answer_of_ok hmissing hown]
      | error f => rw [call.answer_of_error hmissing hown]
    in_place := hplace
    kept := fun d hown h => by
      rw [call.answer_of_ok hmissing hown, Cache.get?, Cache.lookup_fulfil, if_pos (hthere h)]
      rfl
    gone := fun f hown => by
      rw [call.answer_of_error hmissing hown]
      exact Cache.awaits_abandon_self _ _ _
    evicted := fun f hown h => by
      rw [call.answer_of_error hmissing hown, Cache.lookup_abandon, if_pos (hthere h)]
    left := fun h => lookup_answer_of_not hmissing fun hin => by simp [hplace, h] at hin
    newer := fun d hd => by
      refine (call.body.kept_of_run _ hd).resolve_left fun hbegun => ?_
      have hnone : call.state.cache.get? call.node = none := by
        rw [Cache.get?, hmissing]
        rfl
      rw [show call.begun.cache.get? call.node = none from
        (Cache.get?_reserve hmissing _).trans hnone] at hbegun
      cases hbegun
    others := fun node hne => lookup_answer_of_not hmissing fun hin => hne hin.1 }

end CacheCall

/-- Every call of a session, however deep it is made, runs its computation just where the node has
no entry, and otherwise answers from the entry. -/
theorem CacheSession.call_of_makes (t : CacheSession)
    (polite : ∀ call, t.Makes call [] .empty → call.Polite)
    (call : CacheCall) (made : t.Makes call [] .empty) :
    (∀ entry, call.state.cache.entries.lookup call.node = some entry →
      ∃ d, entry.decision = some d ∧
        call.answer = (.ok d, { call.state with cache := call.state.cache.countHit })) ∧
    (call.Missing → ∃ events, call.Computes events) := by
  refine ⟨fun entry hentry => ?_, CacheCall.computes⟩
  obtain ⟨n, _ | d⟩ := entry
  · have hwithin : (call.node, n) ∈ call.within :=
      made.waitsWithin (.empty []) call.node n hentry
    have haway := polite call made n hwithin
    rw [Cache.awaits_eq_true_iff.mpr ⟨none, hentry⟩] at haway
    cases haway
  · exact ⟨d, rfl, call.answer_of_kept (by rw [Cache.get?, hentry]; rfl)⟩

/-- A computation for `a` that drops its own entry, asks for `a` again and then comes to another
decision. -/
def CacheSession.replacing : CacheSession :=
  .compute "a" (.invalidate "a" fun _ => .compute "a" (.finish (.ok .deny)) fun _ =>
    .finish (.ok .allow)) .finish

theorem CacheSession.call_of_makes_replacing :
    ∃ call : CacheCall,
      (∀ call, replacing.Makes call [] .empty → call.Polite) ∧ replacing.Makes call [] .empty ∧
      call.Missing ∧ (∃ events, call.Computes events) ∧
      call.answer.1 = .ok .allow ∧ call.answer.2.cache.get? "a" = some .deny := by
  have polite : ∀ call, replacing.Makes call [] .empty → call.Polite := by
    intro call made
    rcases made with rfl | ⟨-, rfl | ⟨-, made⟩ | made⟩ | made
    · intro n hn
      cases hn
    · intro n _
      exact Cache.awaits_of_lookup_none rfl n
    · exact made.elim
    · exact made.elim
    · exact made.elim
  exact ⟨_, polite, .inl rfl, rfl, (replacing.call_of_makes polite _ (.inl rfl)).2 rfl, rfl, rfl⟩

end PermissionGraph
