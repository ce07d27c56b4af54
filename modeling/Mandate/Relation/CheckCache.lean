import Mandate.Relation.Reach

/-!
# Kept answers

A cache in front of the checks. Allowing and refusing answers have lifetimes of their own, and
failures are not kept. A check that finds no answer is three steps: it looks up and remembers the
generation, it asks the graph, and it keeps the answer only if the generation is still the same.
A write goes to the store first and then clears the cache, which starts a new generation; so an
answer from before a write is not kept after it.
-/

namespace Mandate.Relation

/-- An answer with the moment from which it no longer holds. Moments are in milliseconds. -/
structure KeptAnswer where
  allowed : Bool
  expires : Nat
  deriving DecidableEq, Repr, Inhabited

/-- Kept answers by query. -/
structure CheckCache where
  /-- Lifetime of answers in milliseconds. -/
  ttl : Nat
  /-- Lifetime of refusals; zero means the same as for other answers. -/
  negativeTtl : Nat
  entries : List (String × KeptAnswer) := []
  generation : Nat := 0
  /-- How often other processes were told to clear their caches. -/
  published : Nat := 0
  deriving DecidableEq, Repr, Inhabited

namespace CheckCache

/-- The text under which the answer to a query is kept. -/
def key (subject : Node) (relation : String) (object : Node) : String :=
  subject.text ++ "#" ++ relation ++ "@" ++ object.text

/-- The kept answer, unless its time is over. -/
def lookup? (cache : CheckCache) (key : String) (now : Nat) : Option Bool :=
  (cache.entries.lookup key).bind fun e => if now < e.expires then some e.allowed else none

/-- How long an answer is kept. -/
def lifetime (cache : CheckCache) (allowed : Bool) : Nat :=
  if !allowed && cache.negativeTtl ≠ 0 then cache.negativeTtl else cache.ttl

/-- Keep an answer that was asked for in a generation, if that is still the current one. -/
def keep (cache : CheckCache) (generation : Nat) (key : String) (allowed : Bool) (now : Nat) :
    CheckCache :=
  if cache.generation = generation then
    { cache with entries :=
        (key, ⟨allowed, now + cache.lifetime allowed⟩) :: cache.entries.filter (·.1 != key) }
  else cache

/-- Drop all answers and start a new generation. -/
def clear (cache : CheckCache) : CheckCache :=
  { cache with entries := [], generation := cache.generation + 1 }

/-- Clear after a write and tell other processes. -/
def afterWrite (cache : CheckCache) : CheckCache :=
  { cache.clear with published := cache.published + 1 }

/-- What a check knows after its first step: the answer, or the generation in which it asks. -/
inductive Start where
  | hit (allowed : Bool)
  | miss (generation : Nat)
  deriving DecidableEq, Repr

/-- The first step of a check. -/
def start (cache : CheckCache) (key : String) (now : Nat) : Start :=
  match cache.lookup? key now with
  | some allowed => .hit allowed
  | none => .miss cache.generation

end CheckCache

end Mandate.Relation
