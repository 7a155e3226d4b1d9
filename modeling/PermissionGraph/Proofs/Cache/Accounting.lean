import PermissionGraph.Proofs.Cache.Nested
import PermissionGraph.Proofs.Cache.Waiting

/-!
# What the counters and the size of a cache say

A point of a run lies between two operations, at any depth within the computations under way. At
every point the entries without a decision are those of the computations under way whose entry was
not dropped since they began, and the counters tell how the calls that have ended came out.
-/

namespace PermissionGraph

inductive CacheOutcome
  /-- A request got its answer, with or without a computation of its own. -/
  | answered (ran : Bool)
  /-- A request broke off. -/
  | brokeOff
  | invalidated (dropped : Bool)
  | cleared
deriving DecidableEq

namespace CacheCall

variable (call : CacheCall)

/-- The own computation of the call begins: its note is the first that the call leaves. -/
def ran : Bool :=
  decide (call.answer.2.journal[call.state.journal.length]? = some (.started call.node))

def outcome : CacheOutcome :=
  match call.answer.1 with
  | .ok _ => .answered call.ran
  | .error _ => .brokeOff

/-- The entry of the call's computation was dropped since the computation began. -/
def dropped (s : JournaledCache) : Bool :=
  Journal.drops (s.journal.drop call.state.journal.length) call.node

end CacheCall

/-- How the calls of a session come out, those made within computations too, in the order in which
they end. -/
def CacheSession.outcomes : CacheSession → JournaledCache → List CacheOutcome
  | finish _, _ => []
  | get node next, s => (next (s.cache.get? node)).outcomes s
  | stats next, s => (next s.cache.stats).outcomes s
  | invalidate node next, s =>
    .invalidated (s.invalidate node).1 ::
      (next (s.invalidate node).1).outcomes (s.invalidate node).2
  | invalidateAll next, s => .cleared :: next.outcomes s.invalidateAll
  | compute node body next, s =>
    let made : CacheCall := ⟨node, body, [], s⟩
    (if made.ran then body.outcomes made.begun else []) ++
      made.outcome :: (next made.answer.1).outcomes made.answer.2

structure CachePoint where
  state : JournaledCache
  /-- The calls whose computations are under way, the innermost first. -/
  underWay : List CacheCall
  /-- How the calls that have ended came out, oldest first. -/
  ended : List CacheOutcome

namespace CachePoint

def start : CachePoint := ⟨.empty, [], []⟩

variable (p : CachePoint)

def invalidate (node : String) : CachePoint :=
  { p with
    state := (p.state.invalidate node).2
    ended := p.ended ++ [.invalidated (p.state.invalidate node).1] }

def invalidateAll : CachePoint :=
  { p with state := p.state.invalidateAll, ended := p.ended ++ [.cleared] }

def call (node : String) (body : CacheSession) : CacheCall :=
  ⟨node, body, p.underWay.map fun call => (call.node, call.number), p.state⟩

def enter (made : CacheCall) : CachePoint :=
  { p with state := made.begun, underWay := made :: p.underWay }

def after (t : CacheSession) : CachePoint :=
  { p with state := (t.run p.state).2, ended := p.ended ++ t.outcomes p.state }

def leave (made : CacheCall) : CachePoint where
  state := made.answer.2
  underWay := p.underWay
  ended :=
    (if made.ran then ((p.enter made).after made.body).ended else p.ended) ++ [made.outcome]

end CachePoint

/-- The session, run on from the second point, comes by the first. -/
def CacheSession.Passes (p : CachePoint) : CacheSession → CachePoint → Prop
  | finish _, now => p = now
  | get node next, now => p = now ∨ (next (now.state.cache.get? node)).Passes p now
  | stats next, now => p = now ∨ (next now.state.cache.stats).Passes p now
  | invalidate node next, now =>
    p = now ∨ (next (now.state.invalidate node).1).Passes p (now.invalidate node)
  | invalidateAll next, now => p = now ∨ next.Passes p now.invalidateAll
  | compute node body next, now =>
    let made := now.call node body
    p = now ∨ (made.ran = true ∧ body.Passes p (now.enter made)) ∨
      (next made.answer.1).Passes p (now.leave made)

namespace CacheCall

variable {call : CacheCall}

theorem ran_iff_missing : call.ran = true ↔ call.Missing := by
  rw [ran, decide_eq_true_iff]
  constructor
  · intro hran
    have hquiet (hsame : call.answer.2.journal = call.state.journal) : call.Missing := by
      rw [hsame, List.getElem?_eq_none (Nat.le_refl _)] at hran
      cases hran
    rcases call.answer_cases with ⟨d, hd⟩ | ⟨n, hn⟩ | hmissing
    · exact hquiet (by rw [call.answer_of_kept hd])
    · exact hquiet (by rw [call.answer_of_waiting hn])
    · exact hmissing.elim And.left And.left
  · intro hmissing
    obtain ⟨events, hcomputes⟩ := computes hmissing
    rw [hcomputes.started]
    simp

theorem ran_of_missing (h : call.Missing) : call.ran = true := ran_iff_missing.mpr h

theorem ran_of_entry {entry : CacheEntry}
    (h : call.state.cache.entries.lookup call.node = some entry) : call.ran = false := by
  rw [Bool.eq_false_iff]
  intro hran
  have hmissing : call.Missing := ran_iff_missing.mp hran
  exact absurd (h.symm.trans hmissing) (Option.some_ne_none entry)

end CacheCall

namespace CacheCall

variable {call : CacheCall} {s s' : JournaledCache} {events : Journal}

theorem dropped_append (hbegun : call.state.journal.length ≤ s.journal.length)
    (hjournal : s'.journal = s.journal ++ events) :
    call.dropped s' = (call.dropped s || events.drops call.node) := by
  rw [dropped, hjournal, List.drop_append_of_le_length hbegun, Journal.drops_append, dropped]

/-- The entry of the computation is in place just where it was not dropped. -/
structure Tracked (call : CacheCall) (s : JournaledCache) : Prop where
  begun : call.state.journal.length ≤ s.journal.length
  numbered : call.number < s.cache.computations
  awaits : s.cache.awaits call.node call.number = !call.dropped s

theorem Tracked.passage {limit : Nat} (h : call.Tracked s) (hlimit : call.number < limit)
    (hp : Passage limit s s' events) : call.Tracked s' where
  begun := by
    rw [hp.journal, List.length_append]
    exact Nat.le_add_right_of_le h.begun
  numbered := Nat.lt_of_lt_of_le h.numbered hp.computations
  awaits := by
    rw [hp.awaits call.node call.number hlimit, h.awaits, dropped_append h.begun hp.journal,
      Bool.not_or]

theorem dropped_begun (h : call.Missing) : call.dropped call.begun = false := by
  rw [dropped, (Passage.begun h).journal, List.drop_left]
  rfl

theorem tracked_begun (h : call.Missing) : call.Tracked call.begun where
  begun := (Passage.begun h).journal ▸ by simp
  numbered := Nat.lt_succ_self _
  awaits := by
    rw [dropped_begun h]
    exact Cache.awaits_reserve h

def inPlace (calls : List CacheCall) (s : JournaledCache) : List (String × Nat) :=
  (calls.filter fun call => !call.dropped s).map fun call => (call.node, call.number)

theorem inPlace_cons (call : CacheCall) (calls : List CacheCall) (s : JournaledCache) :
    inPlace (call :: calls) s =
      if call.dropped s then inPlace calls s
      else (call.node, call.number) :: inPlace calls s := by
  cases hdropped : call.dropped s <;> simp [inPlace, hdropped]

theorem inPlace_congr (hjournal : s'.journal = s.journal) (calls : List CacheCall) :
    inPlace calls s' = inPlace calls s := by
  simp only [inPlace, dropped, hjournal]

theorem inPlace_append {calls : List CacheCall} (h : ∀ call ∈ calls, call.Tracked s)
    (hjournal : s'.journal = s.journal ++ events) :
    inPlace calls s' = (inPlace calls s).filter fun entry => !events.drops entry.1 := by
  rw [inPlace, inPlace, List.filter_map, List.filter_filter]
  congr 1
  refine List.filter_congr fun call hcall => ?_
  rw [dropped_append (h call hcall).begun hjournal, Bool.not_or, Bool.and_comm]
  rfl

end CacheCall

structure Cache.Counts (c : Cache) (ended : List CacheOutcome) : Prop where
  hits : c.hits = ended.count (.answered false)
  misses : c.misses = ended.count (.answered true)
  invalidations : c.invalidations = ended.count (.invalidated true) + ended.count .cleared

namespace Cache.Counts

variable {c : Cache} {ended : List CacheOutcome}

theorem empty : Cache.empty.Counts [] := ⟨rfl, rfl, rfl⟩

theorem invalidate (h : c.Counts ended) (k : String) :
    (c.invalidate k).2.Counts (ended ++ [.invalidated (c.invalidate k).1]) := by
  unfold Cache.invalidate
  split
  · refine ⟨h.hits.trans (by simp), h.misses.trans (by simp), ?_⟩
    exact (congrArg (· + 1) h.invalidations).trans (by simp [Nat.add_right_comm])
  · exact ⟨h.hits.trans (by simp), h.misses.trans (by simp), h.invalidations.trans (by simp)⟩

theorem invalidateAll (h : c.Counts ended) : c.invalidateAll.Counts (ended ++ [.cleared]) where
  hits := h.hits.trans (by simp)
  misses := h.misses.trans (by simp)
  invalidations := (congrArg (· + 1) h.invalidations).trans (by simp [Nat.add_assoc])

theorem countHit (h : c.Counts ended) : c.countHit.Counts (ended ++ [.answered false]) where
  hits := (congrArg (· + 1) h.hits).trans (by simp)
  misses := h.misses.trans (by simp)
  invalidations := h.invalidations.trans (by simp)

theorem fulfil (h : c.Counts ended) (k : String) (n : Nat) (d : Decision) :
    (c.fulfil k n d).Counts (ended ++ [.answered true]) where
  hits := h.hits.trans (by simp)
  misses := (congrArg (· + 1) h.misses).trans (by simp)
  invalidations := h.invalidations.trans (by simp)

theorem brokeOff (h : c.Counts ended) : c.Counts (ended ++ [.brokeOff]) where
  hits := h.hits.trans (by simp)
  misses := h.misses.trans (by simp)
  invalidations := h.invalidations.trans (by simp)

theorem abandon (h : c.Counts ended) (k : String) (n : Nat) : (c.abandon k n).Counts ended := by
  unfold Cache.abandon
  split
  · exact ⟨h.hits, h.misses, h.invalidations⟩
  · exact h

end Cache.Counts

namespace CacheCall

variable {call : CacheCall}

theorem distinct_answer (hmissing : call.Missing) (h : call.own.2.cache.Distinct) :
    call.answer.2.cache.Distinct := by
  cases hown : call.own.1 with
  | ok d =>
    rw [call.answer_of_ok hmissing hown]
    exact h.fulfil call.node call.number d
  | error f =>
    rw [call.answer_of_error hmissing hown]
    exact h.abandon call.node call.number

theorem waiting_answer (hmissing : call.Missing) :
    call.answer.2.cache.waiting =
      if call.own.2.cache.awaits call.node call.number then
        call.own.2.cache.waiting.filter (·.1 ≠ call.node)
      else call.own.2.cache.waiting := by
  cases hown : call.own.1 with
  | ok d =>
    rw [call.answer_of_ok hmissing hown]
    exact Cache.waiting_fulfil _ call.node call.number d
  | error f =>
    rw [call.answer_of_error hmissing hown]
    exact Cache.waiting_abandon _ call.node call.number

theorem counts_answer (hmissing : call.Missing) {ended : List CacheOutcome}
    (h : call.own.2.cache.Counts ended) :
    call.answer.2.cache.Counts (ended ++ [call.outcome]) := by
  cases hown : call.own.1 with
  | ok d =>
    rw [outcome, call.answer_of_ok hmissing hown, ran_of_missing hmissing]
    exact h.fulfil call.node call.number d
  | error f =>
    rw [outcome, call.answer_of_error hmissing hown]
    exact (h.abandon call.node call.number).brokeOff

end CacheCall

namespace CachePoint

/-- The entries without a decision are those of the computations whose entry was not dropped, and
the counters are those of the calls that have ended. -/
structure Accounted (p : CachePoint) : Prop where
  distinct : p.state.cache.Distinct
  tracked : ∀ call ∈ p.underWay, call.Tracked p.state
  waiting : p.state.cache.waiting = (CacheCall.inPlace p.underWay p.state).reverse
  counts : p.state.cache.Counts p.ended

variable {p : CachePoint} {made : CacheCall}

theorem accounted_start : start.Accounted := ⟨Cache.distinct_empty, nofun, rfl, .empty⟩

namespace Accounted

theorem invalidate (h : p.Accounted) (node : String) : (p.invalidate node).Accounted where
  distinct := h.distinct.invalidate node
  tracked call hcall :=
    (h.tracked call hcall).passage (h.tracked call hcall).numbered (Passage.invalidate _ _ node)
  waiting := by
    have hplace : CacheCall.inPlace p.underWay (p.state.invalidate node).2 =
        (CacheCall.inPlace p.underWay p.state).filter (·.1 ≠ node) := by
      rw [CacheCall.inPlace_append h.tracked (Passage.invalidate 0 p.state node).journal]
      refine List.filter_congr fun entry _ => ?_
      simp [Journal.drops, CacheEvent.drops, eq_comm, beq_eq_decide]
    refine (Cache.waiting_invalidate _ node).trans ?_
    rw [h.waiting, List.filter_reverse]
    exact congrArg List.reverse hplace.symm
  counts := h.counts.invalidate node

theorem invalidateAll (h : p.Accounted) : p.invalidateAll.Accounted where
  distinct := Cache.distinct_invalidateAll _
  tracked call hcall :=
    (h.tracked call hcall).passage (h.tracked call hcall).numbered (Passage.invalidateAll _ _)
  waiting := by
    have hplace : CacheCall.inPlace p.underWay p.state.invalidateAll = [] := by
      rw [CacheCall.inPlace_append h.tracked (Passage.invalidateAll 0 p.state).journal]
      exact List.filter_eq_nil_iff.mpr fun entry _ => Bool.false_ne_true
    exact (congrArg List.reverse hplace).symm
  counts := h.counts.invalidateAll

theorem enter (h : p.Accounted) (hstate : made.state = p.state) (hmissing : made.Missing) :
    (p.enter made).Accounted := by
  obtain ⟨node, body, within, s⟩ := made
  subst hstate
  have hbegun := Passage.begun hmissing
  exact {
    distinct := h.distinct.reserve hmissing
    tracked := by
      intro call hcall
      rcases List.mem_cons.mp hcall with rfl | hcall
      · exact CacheCall.tracked_begun hmissing
      · exact (h.tracked call hcall).passage (h.tracked call hcall).numbered hbegun
    waiting := by
      have hplace : CacheCall.inPlace p.underWay (CacheCall.begun ⟨node, body, within, p.state⟩) =
          CacheCall.inPlace p.underWay p.state := by
        rw [CacheCall.inPlace_append h.tracked hbegun.journal]
        exact List.filter_eq_self.mpr fun entry _ => rfl
      refine (Cache.waiting_reserve _ node).trans ?_
      rw [enter, CacheCall.inPlace_cons, CacheCall.dropped_begun hmissing,
        if_neg Bool.false_ne_true, hplace, List.reverse_cons, h.waiting]
      rfl
    counts := ⟨h.counts.hits, h.counts.misses, h.counts.invalidations⟩ }

/-- The end of a computation takes out its entry, if that is in place, and no other. -/
theorem waiting_of_underWay (h : p.Accounted) {calls : List CacheCall}
    (hcalls : p.underWay = made :: calls) :
    (if p.state.cache.awaits made.node made.number then
        p.state.cache.waiting.filter (·.1 ≠ made.node)
      else p.state.cache.waiting) = (CacheCall.inPlace calls p.state).reverse := by
  have hmade : made.Tracked p.state := h.tracked made (hcalls ▸ List.mem_cons_self)
  have hwaiting := h.waiting
  rw [hcalls, CacheCall.inPlace_cons] at hwaiting
  cases hdropped : made.dropped p.state with
  | true =>
    rw [hmade.awaits, hdropped, Bool.not_true, if_neg Bool.false_ne_true, hwaiting, hdropped,
      if_pos rfl]
  | false =>
    rw [hdropped, if_neg Bool.false_ne_true, List.reverse_cons] at hwaiting
    have hother : ∀ entry ∈ (CacheCall.inPlace calls p.state).reverse, entry.1 ≠ made.node := by
      have hnodup := h.distinct.nodup_waiting
      rw [hwaiting, List.map_append, List.nodup_append] at hnodup
      intro entry hentry
      exact hnodup.2.2 _ (List.mem_map_of_mem hentry) _ (by simp)
    rw [hmade.awaits, hdropped, Bool.not_false, if_pos rfl, hwaiting, List.filter_append,
      List.filter_eq_self.mpr (by simpa using hother)]
    simp

/-- A request that finds an entry leaves what waits as it was. -/
theorem leave_of_entry (h : p.Accounted) (hstate : made.state = p.state) {entry : CacheEntry}
    (hentry : made.state.cache.entries.lookup made.node = some entry) :
    (p.leave made).Accounted := by
  have hran := CacheCall.ran_of_entry hentry
  obtain ⟨number, _ | d⟩ := entry
  · obtain ⟨f, hf⟩ := CacheCall.exists_fault_of_waiting hentry
    have houtcome : made.outcome = .brokeOff := by rw [CacheCall.outcome, hf]
    rw [leave, hran, houtcome, hf, hstate]
    exact ⟨h.distinct, h.tracked, h.waiting, h.counts.brokeOff⟩
  · have hkept : made.state.cache.get? made.node = some d := by
      rw [Cache.get?, hentry]
      rfl
    have houtcome : made.outcome = .answered false := by
      rw [CacheCall.outcome, made.answer_of_kept hkept, hran]
    rw [leave, hran, houtcome, made.answer_of_kept hkept, hstate]
    refine ⟨h.distinct, fun call hcall => ?_, h.waiting, h.counts.countHit⟩
    have htracked := h.tracked call hcall
    exact ⟨htracked.begun, htracked.numbered, htracked.awaits⟩

theorem leave_of_missing (h : p.Accounted) (hstate : made.state = p.state)
    (hmissing : made.Missing) (hown : ((p.enter made).after made.body).Accounted) :
    (p.leave made).Accounted := by
  have hended := Passage.ended hmissing
  have hbelow : ∀ call ∈ p.underWay, call.number < made.number := by
    intro call hcall
    have hnumbered := (h.tracked call hcall).numbered
    rwa [← hstate] at hnumbered
  have hplace : CacheCall.inPlace p.underWay made.answer.2 =
      CacheCall.inPlace p.underWay made.own.2 :=
    CacheCall.inPlace_congr (hended.journal.trans (List.append_nil _)) _
  rw [CachePoint.leave, CacheCall.ran_of_missing hmissing, if_pos rfl]
  exact {
    distinct := CacheCall.distinct_answer hmissing hown.distinct
    tracked := fun call hcall =>
      (hown.tracked call (List.mem_cons_of_mem _ hcall)).passage (hbelow call hcall) hended
    waiting := by
      rw [hplace]
      exact (CacheCall.waiting_answer hmissing).trans (hown.waiting_of_underWay rfl)
    counts := CacheCall.counts_answer hmissing hown.counts }

theorem leave (h : p.Accounted) (hstate : made.state = p.state)
    (hown : made.Missing → ((p.enter made).after made.body).Accounted) :
    (p.leave made).Accounted := by
  cases hentry : made.state.cache.entries.lookup made.node with
  | some entry => exact h.leave_of_entry hstate hentry
  | none => exact h.leave_of_missing hstate hentry (hown hentry)

end Accounted

theorem after_invalidate (p : CachePoint) (node : String) (next : Bool → CacheSession) :
    p.after (.invalidate node next) =
      (p.invalidate node).after (next (p.state.invalidate node).1) := by
  simp only [after, CacheSession.run, CacheSession.outcomes, invalidate, List.append_assoc,
    List.singleton_append]

theorem after_invalidateAll (p : CachePoint) (next : CacheSession) :
    p.after (.invalidateAll next) = p.invalidateAll.after next := by
  simp only [after, CacheSession.run, CacheSession.outcomes, invalidateAll, List.append_assoc,
    List.singleton_append]

theorem after_compute (p : CachePoint) (node : String) (body : CacheSession)
    (next : Except Fault Decision → CacheSession) :
    p.after (.compute node body next) =
      (p.leave (p.call node body)).after (next (p.call node body).answer.1) := by
  have hended : (p.leave (p.call node body)).ended =
      p.ended ++ ((if (p.call node body).ran then body.outcomes (p.call node body).begun else []) ++
        [(p.call node body).outcome]) := by
    rw [leave]
    split
    · exact List.append_assoc ..
    · rfl
  rw [after, after, hended, List.append_assoc, List.append_assoc]
  rfl

/-- A session keeps the accounts up to its end. -/
theorem Accounted.after (h : p.Accounted) (t : CacheSession) : (p.after t).Accounted := by
  induction t generalizing p with
  | finish outcome =>
    rw [CachePoint.after, CacheSession.outcomes, List.append_nil]
    exact h
  | get node next ih => exact ih _ h
  | stats next ih => exact ih _ h
  | invalidate node next ih =>
    rw [after_invalidate]
    exact ih _ (h.invalidate node)
  | invalidateAll next ih =>
    rw [after_invalidateAll]
    exact ih h.invalidateAll
  | compute node body next ihbody ihnext =>
    rw [after_compute]
    exact ihnext _ (h.leave rfl fun hmissing => ihbody (h.enter rfl hmissing))

/-- The accounts are kept at every point that a session comes by. -/
theorem Accounted.passes {t : CacheSession} {now : CachePoint} (h : now.Accounted)
    (hp : t.Passes p now) : p.Accounted := by
  induction t generalizing now with
  | finish outcome =>
    obtain rfl := hp
    exact h
  | get node next ih =>
    rcases hp with rfl | hp
    · exact h
    · exact ih _ h hp
  | stats next ih =>
    rcases hp with rfl | hp
    · exact h
    · exact ih _ h hp
  | invalidate node next ih =>
    rcases hp with rfl | hp
    · exact h
    · exact ih _ (h.invalidate node) hp
  | invalidateAll next ih =>
    rcases hp with rfl | hp
    · exact h
    · exact ih h.invalidateAll hp
  | compute node body next ihbody ihnext =>
    have henter (hmissing : (now.call node body).Missing) := h.enter rfl hmissing
    rcases hp with rfl | ⟨hran, hp⟩ | hp
    · exact h
    · exact ihbody (henter (CacheCall.ran_iff_missing.mp hran)) hp
    · exact ihnext _ (h.leave rfl fun hmissing => (henter hmissing).after body) hp

/-- A node has an entry where it has a decision, or a computation under way whose entry was not
dropped. -/
theorem Accounted.isSome_lookup_iff (h : p.Accounted) (node : String) :
    (p.state.cache.entries.lookup node).isSome = true ↔
      (∃ d, p.state.cache.get? node = some d) ∨
        ∃ call ∈ p.underWay, call.node = node ∧ call.dropped p.state = false := by
  constructor
  · intro hsome
    obtain ⟨⟨n, _ | d⟩, hentry⟩ := Option.isSome_iff_exists.mp hsome
    · right
      have hmem := Cache.mem_waiting_of_lookup hentry
      rw [h.waiting, List.mem_reverse] at hmem
      obtain ⟨call, hcall, heq⟩ := List.mem_map.mp hmem
      obtain ⟨hunder, hdropped⟩ := List.mem_filter.mp hcall
      exact ⟨call, hunder, congrArg Prod.fst heq, by simpa using hdropped⟩
    · left
      exact ⟨d, by rw [Cache.get?, hentry]; rfl⟩
  · rintro (⟨d, hd⟩ | ⟨call, hcall, rfl, hdropped⟩)
    · obtain ⟨entry, hentry, -⟩ := Option.bind_eq_some_iff.mp hd
      rw [hentry]
      rfl
    · have hplace := (h.tracked call hcall).awaits
      rw [hdropped] at hplace
      obtain ⟨decision, hentry⟩ := Cache.awaits_eq_true_iff.mp hplace
      rw [hentry]
      rfl

end CachePoint

/-- At every point of a run that begins with an empty cache, the entries without a decision are
those of the computations under way whose entry was not dropped, the counters are those of the calls
that have ended, and to drop an entry succeeds just where the node has one. -/
theorem CacheSession.accounts_of_passes (t : CacheSession) (p : CachePoint)
    (hp : t.Passes p .start) :
    p.state.cache.size = {node | p.state.cache.get? node ≠ none}.ncard +
        p.underWay.countP (fun call => !call.dropped p.state) ∧
      (p.underWay = [] → p.state.cache.Settled) ∧
      p.state.cache.hits = p.ended.count (.answered false) ∧
      p.state.cache.misses = p.ended.count (.answered true) ∧
      p.state.cache.invalidations =
        p.ended.count (.invalidated true) + p.ended.count .cleared ∧
      ∀ node, (p.state.invalidate node).1 = true ↔
        (∃ d, p.state.cache.get? node = some d) ∨
          ∃ call ∈ p.underWay, call.node = node ∧ call.dropped p.state = false := by
  have h := CachePoint.accounted_start.passes hp
  refine ⟨?_, ?_, h.counts.hits, h.counts.misses, h.counts.invalidations, ?_⟩
  · rw [h.distinct.size_eq, h.waiting, List.length_reverse, CacheCall.inPlace, List.length_map,
      List.countP_eq_length_filter]
  · intro hnone
    refine Cache.settled_of_waiting ?_
    rw [h.waiting, hnone]
    rfl
  · intro node
    rw [← h.isSome_lookup_iff node]
    exact Bool.eq_iff_iff.mp (p.state.cache.invalidate_fst node)

/-- A computation for `a` asks for `b`, whose computation drops the entry of `a` and breaks off. The
first computation goes on and asks for `a` anew. -/
def CacheSession.retrying : CacheSession :=
  .compute "a"
    (.compute "b" (.invalidate "a" fun _ => .finish (.error ⟨"broken resolver"⟩)) fun _ =>
      .compute "a" (.finish (.ok .deny)) fun _ => .finish (.ok .allow))
    .finish

theorem CacheSession.accounts_of_passes_retrying :
    ∃ p : CachePoint, retrying.Passes p .start ∧
      p.underWay.map CacheCall.node = ["a", "a"] ∧ p.ended = [.invalidated true, .brokeOff] ∧
      p.state.cache.size = {node | p.state.cache.get? node ≠ none}.ncard +
        p.underWay.countP (fun call => !call.dropped p.state) ∧
      p.underWay.countP (fun call => !call.dropped p.state) = 1 ∧
      p.state.cache.misses = 0 ∧ p.state.cache.invalidations = 1 ∧
      (p.state.invalidate "a").1 = true := by
  have hran : ∀ call : CacheCall, call.Missing → call.ran = true := fun _ =>
    CacheCall.ran_of_missing
  -- inside the second computation for `a`, after the one for `b` broke off
  have hp : retrying.Passes _ .start :=
    .inr (.inl ⟨hran _ rfl, .inr (.inr (.inr (.inl ⟨hran _ rfl, rfl⟩)))⟩)
  refine ⟨_, hp, rfl, ?_, (retrying.accounts_of_passes _ hp).1, ?_, ?_, ?_, ?_⟩ <;> decide +kernel

end PermissionGraph
