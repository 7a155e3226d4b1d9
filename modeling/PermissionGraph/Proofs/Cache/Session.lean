import PermissionGraph.Cache
import PermissionGraph.Proofs.Cache.Owner

/-!
# Sessions on a cache

A session is any course of operations on one cache in which each step may depend on the answers
before it. A computation that is passed to the cache is itself a session, and may break off. The
users of the cache keep a journal: a computation notes that it begins, and whoever drops entries
notes what was dropped.
-/

namespace PermissionGraph

inductive CacheEvent
  | started (node : String)
  | invalidated (node : String)
  | cleared
deriving DecidableEq

abbrev Journal := List CacheEvent

def CacheEvent.drops (node : String) : CacheEvent → Bool
  | started _ => false
  | invalidated dropped => dropped == node
  | cleared => true

def Journal.drops (events : Journal) (node : String) : Bool := events.any (·.drops node)

theorem Journal.drops_append (events later : Journal) (node : String) :
    Journal.drops (events ++ later) node = (events.drops node || later.drops node) :=
  List.any_append

structure JournaledCache where
  cache : Cache
  journal : Journal

namespace JournaledCache

def empty : JournaledCache := ⟨Cache.empty, []⟩

def place : CachePlace JournaledCache where
  get s := s.cache
  set c s := { s with cache := c }

def note (s : JournaledCache) (event : CacheEvent) : JournaledCache :=
  { s with journal := s.journal ++ [event] }

def invalidate (s : JournaledCache) (node : String) : Bool × JournaledCache :=
  let (dropped, c) := s.cache.invalidate node
  (dropped, { s with cache := c }.note (.invalidated node))

def invalidateAll (s : JournaledCache) : JournaledCache :=
  { s with cache := s.cache.invalidateAll }.note .cleared

end JournaledCache

inductive CacheSession
  | finish (outcome : Except Fault Decision)
  | get (node : String) (next : Option Decision → CacheSession)
  | stats (next : CacheStats → CacheSession)
  | invalidate (node : String) (next : Bool → CacheSession)
  | invalidateAll (next : CacheSession)
  | compute (node : String) (body : CacheSession) (next : Except Fault Decision → CacheSession)

/-- Runs a session to its outcome, a decision or the fault that breaks it off. A fault of a
computation reaches the session that asked for it, which may break off in turn or go on. -/
def CacheSession.run : CacheSession → JournaledCache → Except Fault Decision × JournaledCache
  | finish outcome, s => (outcome, s)
  | get node next, s => (next (s.cache.get? node)).run s
  | stats next, s => (next s.cache.stats).run s
  | invalidate node next, s => (next (s.invalidate node).1).run (s.invalidate node).2
  | invalidateAll next, s => next.run s.invalidateAll
  | compute node body next, s =>
    let answer := JournaledCache.place.compute node (fun s => body.run (s.note (.started node))) s
    (next answer.1).run answer.2

/-- One request for the decision on `node`: the computation passed to it, the state it is made in,
and the computations that are under way around it, each with its node and the number of its
entry. -/
structure CacheCall where
  node : String
  body : CacheSession
  within : List (String × Nat)
  state : JournaledCache

namespace CacheCall

variable (call : CacheCall)

def Missing : Prop := call.state.cache.entries.lookup call.node = none

def number : Nat := call.state.cache.computations

def begun : JournaledCache :=
  { call.state with cache := call.state.cache.reserve call.node }.note (.started call.node)

def own : Except Fault Decision × JournaledCache := call.body.run call.begun

def answer : Except Fault Decision × JournaledCache :=
  JournaledCache.place.compute call.node
    (fun s => call.body.run (s.note (.started call.node))) call.state

/-- No computation around the call that waits for the node still has its entry in place. -/
def Polite : Prop :=
  ∀ n, (call.node, n) ∈ call.within → call.state.cache.awaits call.node n = false

end CacheCall

/-- The session makes the call, itself or at any depth within a computation that it runs. -/
def CacheSession.Makes (call : CacheCall) :
    CacheSession → List (String × Nat) → JournaledCache → Prop
  | finish _, _, _ => False
  | get node next, within, s => (next (s.cache.get? node)).Makes call within s
  | stats next, within, s => (next s.cache.stats).Makes call within s
  | invalidate node next, within, s =>
    (next (s.invalidate node).1).Makes call within (s.invalidate node).2
  | invalidateAll next, within, s => next.Makes call within s.invalidateAll
  | compute node body next, within, s =>
    let made : CacheCall := ⟨node, body, within, s⟩
    call = made ∨
      (made.Missing ∧ body.Makes call ((node, made.number) :: within) made.begun) ∨
      (next made.answer.1).Makes call within made.answer.2

namespace CacheCall

variable {call : CacheCall}

theorem answer_of_kept {d : Decision} (h : call.state.cache.get? call.node = some d) :
    call.answer = (.ok d, { call.state with cache := call.state.cache.countHit }) :=
  JournaledCache.place.compute_of_kept h

theorem exists_fault_of_waiting {n : Nat}
    (h : call.state.cache.entries.lookup call.node = some ⟨n, none⟩) :
    ∃ f, call.answer = (.error f, call.state) :=
  JournaledCache.place.compute_of_waiting h

theorem answer_of_waiting {n : Nat}
    (h : call.state.cache.entries.lookup call.node = some ⟨n, none⟩) :
    call.answer.2 = call.state := by
  obtain ⟨f, hf⟩ := exists_fault_of_waiting h
  exact congrArg Prod.snd hf

theorem answer_of_ok (h : call.Missing) {d : Decision} (hd : call.own.1 = .ok d) :
    call.answer = (.ok d, { call.own.2 with
      cache := call.own.2.cache.fulfil call.node call.number d }) :=
  JournaledCache.place.compute_of_ok h (Prod.ext hd rfl)

theorem answer_of_error (h : call.Missing) {f : Fault} (hf : call.own.1 = .error f) :
    call.answer = (.error f, { call.own.2 with
      cache := call.own.2.cache.abandon call.node call.number }) :=
  JournaledCache.place.compute_of_error h (Prod.ext hf rfl)

/-- A call finds a decision, finds an entry without one, or runs its computation to one of its two
ends. -/
theorem answer_cases (call : CacheCall) :
    (∃ d, call.state.cache.get? call.node = some d) ∨
      (∃ n, call.state.cache.entries.lookup call.node = some ⟨n, none⟩) ∨
      (call.Missing ∧ ∃ d, call.own.1 = .ok d) ∨ (call.Missing ∧ ∃ f, call.own.1 = .error f) := by
  cases hl : call.state.cache.entries.lookup call.node with
  | some entry =>
    obtain ⟨n, _ | d⟩ := entry
    · exact .inr (.inl ⟨n, rfl⟩)
    · exact .inl ⟨d, by rw [Cache.get?, hl]; rfl⟩
  | none =>
    cases hown : call.own.1 with
    | ok d => exact .inr (.inr (.inl ⟨hl, d, rfl⟩))
    | error f => exact .inr (.inr (.inr ⟨hl, f, rfl⟩))

end CacheCall

end PermissionGraph
