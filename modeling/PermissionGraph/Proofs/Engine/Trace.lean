import Mathlib
import PermissionGraph.Proofs.Engine.Contexts

/-!
# Answers along a run

A check that returns gives the live answer at the first check of the same lower-cased node that
returned since the subject last dropped what it keeps for it. Along a run this rests on one
invariant: a kept answer has such an origin, and where nothing is kept, whatever was returned has
been dropped.
-/

namespace PermissionGraph

open Text

def Operation.check? : Operation → Option (ContextId × String)
  | permission s m | holds s m => some (s, m)
  | _ => none

namespace Engine

/-- The operation drops what `s` keeps for the lower-cased node `k`. -/
def Drops (e : Engine) (s : ContextId) (k : String) : Operation → Prop
  | .invalidate s' m => s' = s ∧ lower m = k
  | .invalidateAll s' => s' = s
  | .setResolver s' r => s' = s ∧ e.resolverOf s ≠ r
  | _ => False

/-- A context that is there, none of whose cache entries waits for its decision. -/
structure Ready (e : Engine) (s : ContextId) : Prop where
  known : s < e.graph.contexts.size
  settled : (e.cache s).Settled

variable {e : Engine} {s : ContextId} {k : String} {op : Operation}

theorem cache_setResolver_same : (e.setResolver s (e.resolverOf s)).cache s = e.cache s := by
  rw [setResolver, if_neg fun h => h.1 rfl]
  rfl

theorem cache_setResolver_changed {r : ResolverId} (h : e.resolverOf s ≠ r) :
    (e.setResolver s r).cache s = Cache.empty ∨
      (e.setResolver s r).cache s = (e.cache s).invalidateAll := by
  rw [setResolver]
  split
  · exact Or.inr (cache_setCache_self _ s _)
  · next hs =>
    have hnone : e.caches.get? s = none := by
      have hsub : ¬ (e.caches.get? s).isSome := fun hsome => hs ⟨h, hsome⟩
      simpa using hsub
    refine Or.inl ?_
    rw [cache, modifyContext, hnone, Option.getD_none]

theorem settled_step (h : e.Ready s) (op : Operation) : ((e.step op).cache s).Settled := by
  by_cases hop : op.cacheUser? = some s
  · cases op with
    | permission s' m => cases hop; exact settled_permission h.settled
    | holds s' m => cases hop; exact settled_permission h.settled
    | invalidate s' m =>
      cases hop
      rw [step, invalidate, cache_setCache_self]
      exact h.settled.invalidate _
    | invalidateAll s' =>
      cases hop
      rw [step, invalidateAll, cache_setCache_self]
      exact Cache.settled_invalidateAll _
    | setResolver s' r =>
      cases hop
      by_cases hr : e.resolverOf s = r
      · subst hr
        rw [step, cache_setResolver_same]
        exact h.settled
      · rcases cache_setResolver_changed hr with hc | hc
        · rw [step, hc]; exact Cache.settled_empty
        · rw [step, hc]; exact Cache.settled_invalidateAll _
    | _ => cases hop
  · rw [cache_step_of_other h.known hop]
    exact h.settled

theorem Ready.step (h : e.Ready s) (op : Operation) : (e.step op).Ready s :=
  ⟨Nat.lt_of_lt_of_le h.known (e.size_step op), settled_step h op⟩

theorem kept_step_of_drops (hop : e.Drops s k op) : ((e.step op).cache s).get? k = none := by
  cases op with
  | invalidate s' m =>
    obtain ⟨rfl, rfl⟩ := hop
    simp [step, invalidate]
  | invalidateAll s' =>
    obtain rfl := hop
    simp [step, invalidateAll]
  | setResolver s' r =>
    obtain ⟨rfl, hr⟩ := hop
    rcases cache_setResolver_changed hr with hc | hc <;> simp [step, hc]
  | _ => cases hop

theorem step_of_check {m : String} (hop : op.check? = some (s, m)) :
    e.step op = (e.permission s m).2 := by
  cases op <;> cases hop <;> rfl

theorem kept_step_of_check (h : e.Ready s) {m : String} (hop : op.check? = some (s, m)) :
    ((e.step op).cache s).get? (lower m) = (e.permission s m).1.toOption := by
  rw [step_of_check hop, get?_permission h.settled, if_pos rfl]

theorem kept_step_of_other (h : e.Ready s) (hdrop : ¬ e.Drops s k op)
    (hcheck : ∀ m, op.check? = some (s, m) → lower m ≠ k) :
    ((e.step op).cache s).get? k = (e.cache s).get? k := by
  by_cases hop : op.cacheUser? = some s
  · cases op with
    | permission s' m =>
      cases hop
      have hm : k ≠ lower m := (hcheck m rfl).symm
      simp [step, get?_permission h.settled, hm]
    | holds s' m =>
      cases hop
      have hm : k ≠ lower m := (hcheck m rfl).symm
      rw [step_of_check rfl]
      simp [get?_permission h.settled, hm]
    | invalidate s' m =>
      cases hop
      have hm : lower m ≠ k := fun hm => hdrop ⟨rfl, hm⟩
      rw [step, invalidate, cache_setCache_self]
      exact Cache.get?_invalidate_of_ne _ hm
    | invalidateAll s' => cases hop; exact absurd rfl hdrop
    | setResolver s' r =>
      cases hop
      have hr : e.resolverOf s = r := Decidable.byContradiction fun hr => hdrop ⟨rfl, hr⟩
      rw [step, ← hr, cache_setResolver_same]
    | _ => cases hop
  · rw [cache_step_of_other h.known hop]

theorem resolverOf_step_of_not_drops (h : e.Ready s) (hdrop : ¬ e.Drops s k op) :
    (e.step op).resolverOf s = e.resolverOf s := by
  by_cases hop : ∃ r, op = .setResolver s r
  · obtain ⟨r, rfl⟩ := hop
    have hr : e.resolverOf s = r := Decidable.byContradiction fun hr => hdrop ⟨rfl, hr⟩
    rw [step, resolverOf, graph_setResolver, ← resolverOf, resolverOf_modifyContext_self h.known, hr]
  · exact resolverOf_step h.known fun r hr => hop ⟨r, hr⟩

variable {ops : List Operation} {n i : Nat} {d : Decision}

/-- Operation number `j` is a check for the lower-cased node `k` that returns. -/
def ReturnsAt (e : Engine) (ops : List Operation) (s : ContextId) (k : String) (j : Nat) : Prop :=
  ∃ op m d, ops[j]? = some op ∧ op.check? = some (s, m) ∧ lower m = k ∧
    ((e.before ops j).permission s m).1 = .ok d

def DropsAt (e : Engine) (ops : List Operation) (s : ContextId) (k : String) (j : Nat) : Prop :=
  ∃ op, ops[j]? = some op ∧ (e.before ops j).Drops s k op

/-- Whatever a check for `k` returned before operation number `n` has been dropped since. -/
def Cleared (e : Engine) (ops : List Operation) (s : ContextId) (k : String) (n : Nat) : Prop :=
  ∀ j, j < n → e.ReturnsAt ops s k j → ∃ l, j < l ∧ l < n ∧ e.DropsAt ops s k l

theorem Cleared.succ (h : e.Cleared ops s k n) (hn : ¬ e.ReturnsAt ops s k n) :
    e.Cleared ops s k (n + 1) := by
  intro j hj hreturns
  rcases Nat.lt_succ_iff_lt_or_eq.mp hj with hj | rfl
  · obtain ⟨l, hjl, hln, hl⟩ := h j hj hreturns
    exact ⟨l, hjl, Nat.lt_succ_of_lt hln, hl⟩
  · exact absurd hreturns hn

/-- Seen from before operation number `n`, number `i` is the first check for `k` that returned since
`k` was last dropped. Where there is none, `i` is `n` itself. -/
structure Origin (e : Engine) (ops : List Operation) (s : ContextId) (k : String) (n i : Nat) :
    Prop where
  le : i ≤ n
  returns : i = n ∨ e.ReturnsAt ops s k i
  undropped : ∀ j, i ≤ j → j < n → ¬ e.DropsAt ops s k j
  cleared : e.Cleared ops s k i

/-- The live answer at the origin is `d`, and the subject still has the resolver it had then. -/
structure AnsweredAt (e : Engine) (ops : List Operation) (s : ContextId) (k : String) (n i : Nat)
    (d : Decision) : Prop where
  origin : e.Origin ops s k n i
  answer : ((e.before ops i).live s k).1 = .ok d
  resolver : (e.before ops n).resolverOf s = (e.before ops i).resolverOf s

theorem AnsweredAt.succ (ha : e.AnsweredAt ops s k n i d) (hr : e.ReturnsAt ops s k i)
    (hready : (e.before ops n).Ready s) (hop : ops[n]? = some op)
    (hdrop : ¬ (e.before ops n).Drops s k op) : e.AnsweredAt ops s k (n + 1) i d where
  origin :=
    { le := Nat.le_succ_of_le ha.origin.le
      returns := Or.inr hr
      undropped := by
        intro j hij hj
        rcases Nat.lt_succ_iff_lt_or_eq.mp hj with hj | rfl
        · exact ha.origin.undropped j hij hj
        · rintro ⟨op', hop', hdrop'⟩
          obtain rfl : op = op' := Option.some.inj (hop.symm.trans hop')
          exact hdrop hdrop'
      cleared := ha.origin.cleared }
  answer := ha.answer
  resolver := by
    rw [before_succ e hop, resolverOf_step_of_not_drops hready hdrop]
    exact ha.resolver

/-- What is kept has an origin, and where nothing is kept, nothing that was returned stands. -/
structure Accounted (e : Engine) (ops : List Operation) (s : ContextId) (k : String) (n : Nat) :
    Prop where
  ready : (e.before ops n).Ready s
  kept : ∀ d, ((e.before ops n).cache s).get? k = some d →
    ∃ i, e.ReturnsAt ops s k i ∧ e.AnsweredAt ops s k n i d
  cleared : ((e.before ops n).cache s).get? k = none → e.Cleared ops s k n

theorem Accounted.permission (h : e.Accounted ops s k n) {m : String} (hm : lower m = k)
    (hd : ((e.before ops n).permission s m).1 = .ok d) : ∃ i, e.AnsweredAt ops s k n i d := by
  rw [permission_fst h.ready.settled, hm] at hd
  cases hk : ((e.before ops n).cache s).get? k with
  | some d' =>
    rw [hk] at hd
    obtain rfl : d' = d := Except.ok.inj hd
    obtain ⟨i, -, hi⟩ := h.kept d' hk
    exact ⟨i, hi⟩
  | none =>
    rw [hk] at hd
    refine ⟨n, ⟨Nat.le_refl n, Or.inl rfl, ?_, h.cleared hk⟩, hd, rfl⟩
    intro j hnj hjn
    omega

/-- An operation that drops clears what was returned before it. -/
theorem Accounted.succ_of_drops (h : e.Accounted ops s k n) (hop : ops[n]? = some op)
    (hdrop : (e.before ops n).Drops s k op) : e.Accounted ops s k (n + 1) where
  ready := before_succ e hop ▸ h.ready.step op
  kept := by
    intro d hd
    rw [before_succ e hop, kept_step_of_drops hdrop] at hd
    cases hd
  cleared := by
    intro _ j hj hreturns
    rcases Nat.lt_succ_iff_lt_or_eq.mp hj with hj | rfl
    · exact ⟨n, hj, Nat.lt_succ_self n, op, hop, hdrop⟩
    · obtain ⟨op', m, d, hop', hcheck, -⟩ := hreturns
      obtain rfl : op = op' := Option.some.inj (hop.symm.trans hop')
      cases op <;> first | cases hcheck; done | cases hdrop

/-- A check that is no drop starts an origin where nothing is kept and it returns. -/
theorem Accounted.succ_of_check (h : e.Accounted ops s k n) (hop : ops[n]? = some op)
    (hdrop : ¬ (e.before ops n).Drops s k op) {m : String} (hcheck : op.check? = some (s, m))
    (hm : lower m = k) : e.Accounted ops s k (n + 1) where
  ready := before_succ e hop ▸ h.ready.step op
  kept := by
    intro d hd
    rw [before_succ e hop, ← hm, kept_step_of_check h.ready hcheck] at hd
    have hanswer : ((e.before ops n).permission s m).1 = .ok d := eq_ok_of_toOption hd
    have hreturns : e.ReturnsAt ops s k n := ⟨op, m, d, hop, hcheck, hm, hanswer⟩
    obtain ⟨i, hi⟩ := h.permission hm hanswer
    rcases hi.origin.returns with rfl | hri
    · exact ⟨i, hreturns, hi.succ hreturns h.ready hop hdrop⟩
    · exact ⟨i, hri, hi.succ hri h.ready hop hdrop⟩
  cleared := by
    intro hnone
    rw [before_succ e hop, ← hm, kept_step_of_check h.ready hcheck] at hnone
    have hk : ((e.before ops n).cache s).get? k = none := by
      cases hk : ((e.before ops n).cache s).get? k with
      | none => rfl
      | some d =>
        rw [permission_fst h.ready.settled, hm, hk] at hnone
        cases hnone
    apply (h.cleared hk).succ
    rintro ⟨op', m', d, hop', hcheck', -, hanswer⟩
    obtain rfl : op = op' := Option.some.inj (hop.symm.trans hop')
    obtain rfl : m = m' := by simpa using hcheck.symm.trans hcheck'
    rw [hanswer] at hnone
    cases hnone

theorem Accounted.succ_of_other (h : e.Accounted ops s k n) (hop : ops[n]? = some op)
    (hdrop : ¬ (e.before ops n).Drops s k op)
    (hcheck : ∀ m, op.check? = some (s, m) → lower m ≠ k) : e.Accounted ops s k (n + 1) where
  ready := before_succ e hop ▸ h.ready.step op
  kept := by
    intro d hd
    rw [before_succ e hop, kept_step_of_other h.ready hdrop hcheck] at hd
    obtain ⟨i, hreturns, hi⟩ := h.kept d hd
    exact ⟨i, hreturns, hi.succ hreturns h.ready hop hdrop⟩
  cleared := by
    intro hnone
    rw [before_succ e hop, kept_step_of_other h.ready hdrop hcheck] at hnone
    apply (h.cleared hnone).succ
    rintro ⟨op', m, d, hop', hcheck', hm, -⟩
    obtain rfl : op = op' := Option.some.inj (hop.symm.trans hop')
    exact hcheck m hcheck' hm

theorem accounted_before (h : e.Ready s) (hnone : (e.cache s).get? k = none) (hn : n ≤ ops.length) :
    e.Accounted ops s k n := by
  induction n with
  | zero =>
    refine ⟨h, ?_, ?_⟩
    · intro d hd
      rw [before_zero, hnone] at hd
      cases hd
    · intro _ j hj
      omega
  | succ n ih =>
    have hacc := ih (by omega)
    have hop : ops[n]? = some ops[n] := List.getElem?_eq_getElem hn
    by_cases hdrop : (e.before ops n).Drops s k ops[n]
    · exact hacc.succ_of_drops hop hdrop
    · by_cases hcheck : ∃ m, ops[n].check? = some (s, m) ∧ lower m = k
      · obtain ⟨m, hm, hk⟩ := hcheck
        exact hacc.succ_of_check hop hdrop hm hk
      · exact hacc.succ_of_other hop hdrop fun m hm hk => hcheck ⟨m, hm, hk⟩

theorem ready_addSubject (e : Engine) (name : String) (resolver : Option ResolverId) :
    (e.addSubject name resolver).2.Ready (e.addSubject name resolver).1 ∧
      (e.addSubject name resolver).2.cache (e.addSubject name resolver).1 = Cache.empty := by
  have hcache : (e.addSubject name resolver).2.cache (e.addSubject name resolver).1 =
      Cache.empty := by
    cases resolver <;>
      exact congrArg (Option.getD · Cache.empty) (Keyed.get?_assign_self e.caches _ Cache.empty)
  refine ⟨⟨?_, hcache ▸ Cache.settled_empty⟩, hcache⟩
  cases resolver <;> simp [addSubject, addContext, addResolver, modifyContext]

/-- A check answers with the live decision at its origin, and nothing but a drop changes what is
kept. Live questions leave the caches alone, and a check that breaks off leaves what was kept and
what was counted. -/
theorem addSubject_check_trace (e : Engine) (name : String) (resolver : Option ResolverId)
    (ops : List Operation) (n : Nat) (hn : n ≤ ops.length) :
    let s := (e.addSubject name resolver).1
    let e := (e.addSubject name resolver).2
    let now := e.before ops n
    (∀ m d, (now.permission s m).1 = .ok d → ∃ i, e.AnsweredAt ops s (lower m) n i d) ∧
      (∀ m, now.holds s m =
        ((now.permission s m).1.map Decision.isAllowed, (now.permission s m).2)) ∧
      (∀ k d, (now.cache s).get? k = some d → ∃ i, e.AnsweredAt ops s k n i d) ∧
      (∀ k d op, (now.cache s).get? k = some d → ¬ now.Drops s k op →
        ((now.step op).cache s).get? k = some d) ∧
      (now.setResolver s (now.resolverOf s)).cache s = now.cache s ∧
      (∀ s' m, (now.live s' m).2.cache s = now.cache s) ∧
      (∀ s' r m, (now.holdsWith s' r m).2.cache s = now.cache s) ∧
      (∀ m f, (now.permission s m).1 = .error f →
        (now.cache s).get? (lower m) = none ∧ (now.live s (lower m)).1 = .error f ∧
          (now.permission s m).2.cache s =
            { now.cache s with computations := (now.cache s).computations + 1 }) := by
  intro s e₀ now
  obtain ⟨hready, hempty⟩ := e.ready_addSubject name resolver
  have hacc : ∀ k, e₀.Accounted ops s k n := by
    intro k
    apply accounted_before hready _ hn
    simp [hempty]
  have hnow : now.Ready s := (hacc "").ready
  refine ⟨?_, fun _ => rfl, ?_, ?_, cache_setResolver_same, ?_, ?_, ?_⟩
  · intro m d hd
    exact (hacc (lower m)).permission rfl hd
  · intro k d hd
    obtain ⟨i, -, hi⟩ := (hacc k).kept d hd
    exact ⟨i, hi⟩
  · intro k d op hd hdrop
    by_cases hcheck : ∃ m, op.check? = some (s, m) ∧ lower m = k
    · obtain ⟨m, hm, rfl⟩ := hcheck
      rw [kept_step_of_check hnow hm, permission_fst hnow.settled, hd]
      rfl
    · rw [kept_step_of_other hnow hdrop fun m hm hk => hcheck ⟨m, hm, hk⟩]
      exact hd
  · intro s' m
    exact cache_live now s' m s
  · intro s' r m
    exact cache_holdsWith now s' m r s
  · intro m f hf
    exact of_permission_error hnow.settled hf

/-- A grant is kept after the table that gave it has come to revoke. -/
def staleRun : List Operation :=
  [.addDatabase (.flat ⟨[("a.b", [⟨"a.b", true⟩])]⟩), .setLayers (.context 0) [.database 0],
    .holds 0 "A.b", .setTable 0 ⟨[("a.b", [⟨"a.b", false⟩])]⟩]

theorem staleRun_check_trace :
    let e := (initial.addSubject "s" none).2
    ((e.before staleRun 4).permission 0 "a.B").1 = .ok .allow ∧
      ((e.before staleRun 4).live 0 "a.b").1 = .ok .deny ∧
      ∃ i, e.AnsweredAt staleRun 0 (lower "a.B") 4 i .allow := by
  have hkept : (((initial.addSubject "s" none).2.before staleRun 4).permission 0 "a.B").1 =
      .ok .allow := by cbv
  exact ⟨hkept, by cbv,
    (addSubject_check_trace initial "s" none staleRun 4 (by decide)).1 "a.B" .allow hkept⟩

end Engine

end PermissionGraph
