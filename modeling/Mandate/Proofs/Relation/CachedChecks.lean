import Mandate.Proofs.Relation.QueryKey
import Mandate.Proofs.Relation.Search
import Mandate.Relation.Client

/-! # Answers from the cache

A cached graph answers as the graph behind it does, as long as no two queries that are asked share
a key; otherwise the answer to one of them can be given for the other. Every write drops all kept
answers, so a kept answer is what the graph would still say about the query for which it was kept.
-/

namespace Mandate.Relation

/-! ## Runs -/

/-- A call to a graph: a batch of tuples to store, or a query with the two readings of the clock
that it takes. -/
inductive GraphCall where
  | insert (batch : List Tuple)
  | check (query : Query) (asked answered : Nat)

/-- The readings of the clock in a run, in order. -/
def readings (calls : List GraphCall) : List Nat :=
  calls.flatMap fun
    | .insert _ => []
    | .check _ asked answered => [asked, answered]

/-- All queries of a run are among the given ones. -/
def Asks (queries : Set Query) (calls : List GraphCall) : Prop :=
  ∀ query asked answered, .check query asked answered ∈ calls → query ∈ queries

namespace Client

/-- A graph with an empty cache in front of it. -/
def cached (graph : Graph) (store : TupleStore) (ttl negativeTtl : Nat) : Client :=
  { graph, store, cache := some { ttl, negativeTtl } }

/-- What the graph behind the cache says about a query. -/
def inner (client : Client) (q : Query) : Except GraphError Bool :=
  (client.ask q.subject q.relation q.object).map CheckResult.allowed

/-- Check a query with nothing else going on. -/
def checkQuery (client : Client) (q : Query) (asked answered : Nat) :
    Except GraphError CheckResult × Client :=
  client.checkTimed id asked answered q.subject q.relation q.object

/-- The client after a call. A refused batch changes nothing. -/
def afterCall (client : Client) : GraphCall → Client
  | .insert batch => (client.insert batch).toOption.getD client
  | .check q asked answered => (client.checkQuery q asked answered).2

/-- Every check in a run answers what the graph behind the cache would say at that moment. -/
def Transparent (client : Client) : List GraphCall → Prop
  | [] => True
  | .insert batch :: rest => (client.afterCall (.insert batch)).Transparent rest
  | .check q asked answered :: rest =>
      (client.checkQuery q asked answered).1.map CheckResult.allowed = client.inner q ∧
        (client.afterCall (.check q asked answered)).Transparent rest

/-! ## Kept answers -/

/-- Every kept answer is what the graph says about one of the queries, under whose key it is
kept. -/
def KeepsRight (queries : Set Query) (client : Client) : Prop :=
  ∀ cache, client.cache = some cache → ∀ entry ∈ cache.entries,
    ∃ q ∈ queries, q.key = entry.1 ∧ client.inner q = .ok entry.2.allowed

variable {queries : Set Query} {client : Client}

theorem mem_of_lookup? {cache : CheckCache} {key : String} {now : Nat} {allowed : Bool}
    (hlookup : cache.lookup? key now = some allowed) :
    ∃ entry, (key, entry) ∈ cache.entries ∧ now < entry.expires ∧ entry.allowed = allowed := by
  obtain ⟨entry, hentry, hcurrent⟩ := Option.bind_eq_some_iff.mp hlookup
  obtain ⟨before, after, hentries, -⟩ := List.lookup_eq_some_iff.mp hentry
  refine ⟨entry, ?_, ?_⟩
  · rw [hentries]
    exact List.mem_append_right _ List.mem_cons_self
  · simpa using hcurrent

theorem start_of_lookup?_some {cache : CheckCache} {key : String} {now : Nat} {allowed : Bool}
    (hlookup : cache.lookup? key now = some allowed) : cache.start key now = .hit allowed := by
  rw [CheckCache.start, hlookup]

theorem start_of_lookup?_none {cache : CheckCache} {key : String} {now : Nat}
    (hlookup : cache.lookup? key now = none) : cache.start key now = .miss cache.generation := by
  rw [CheckCache.start, hlookup]

theorem checkQuery_of_no_cache (hcache : client.cache = none) (q : Query)
    (asked answered : Nat) :
    client.checkQuery q asked answered =
      (client.ask q.subject q.relation q.object, client) := by
  simp [checkQuery, checkTimed, hcache]

theorem checkQuery_of_hit {cache : CheckCache} (hcache : client.cache = some cache) {q : Query}
    {asked : Nat} {allowed : Bool} (hlookup : cache.lookup? q.key asked = some allowed)
    (answered : Nat) :
    client.checkQuery q asked answered = (.ok ⟨allowed, cacheSource⟩, client) := by
  have hstart : cache.start (CheckCache.key q.subject q.relation q.object) asked =
      .hit allowed :=
    start_of_lookup?_some hlookup
  simp [checkQuery, checkTimed, hcache, hstart]

theorem checkQuery_of_miss {cache : CheckCache} (hcache : client.cache = some cache) {q : Query}
    {asked : Nat} (hlookup : cache.lookup? q.key asked = none) (answered : Nat) :
    client.checkQuery q asked answered = (client.ask q.subject q.relation q.object,
      client.keep cache.generation q.key answered
        (client.ask q.subject q.relation q.object)) := by
  have hstart : cache.start (CheckCache.key q.subject q.relation q.object) asked =
      .miss cache.generation :=
    start_of_lookup?_none hlookup
  simp only [checkQuery, checkTimed, hcache, hstart]
  rfl

/-- Keeping an answer changes nothing that the graph says. -/
theorem inner_keep (generation : Nat) (key : String) (now : Nat)
    (result : Except GraphError CheckResult) (q : Query) :
    (client.keep generation key now result).inner q = client.inner q := by
  cases result <;> rfl

theorem inner_afterCheck (q p : Query) (asked answered : Nat) :
    (client.afterCall (.check q asked answered)).inner p = client.inner p := by
  unfold afterCall
  dsimp only
  cases hcache : client.cache with
  | none => rw [checkQuery_of_no_cache hcache]
  | some cache =>
      cases hlookup : cache.lookup? q.key asked with
      | some allowed => rw [checkQuery_of_hit hcache hlookup]
      | none =>
          rw [checkQuery_of_miss hcache hlookup]
          exact inner_keep ..

/-- What a batch leaves of the cache: all of it if the batch is refused, and nothing else. -/
theorem afterInsert_cases (client : Client) (batch : List Tuple) :
    client.afterCall (.insert batch) = client ∨
      ∃ store, client.afterCall (.insert batch) =
        { client with store, cache := client.cache.map CheckCache.afterWrite } := by
  unfold afterCall
  dsimp only
  unfold Client.insert
  cases client.outage with
  | some why => exact Or.inl rfl
  | none =>
      cases hinsert : client.store.insert batch with
      | error e => exact Or.inl rfl
      | ok store => exact Or.inr ⟨store, rfl⟩

/-- What a check leaves in the cache: what was there, and at most the answer of the graph. -/
theorem cache_afterCheck {q : Query} {asked answered : Nat} {next : CheckCache}
    (hnext : (client.afterCall (.check q asked answered)).cache = some next) :
    ∃ cache, client.cache = some cache ∧ next.ttl = cache.ttl ∧
      next.negativeTtl = cache.negativeTtl ∧
      ∀ entry ∈ next.entries, entry ∈ cache.entries ∨
        ∃ allowed, client.inner q = .ok allowed ∧
          entry = (q.key, ⟨allowed, answered + cache.lifetime allowed⟩) := by
  unfold afterCall at hnext
  dsimp only at hnext
  cases hcache : client.cache with
  | none =>
      rw [checkQuery_of_no_cache hcache, hcache] at hnext
      cases hnext
  | some cache =>
      refine ⟨cache, rfl, ?_⟩
      cases hlookup : cache.lookup? q.key asked with
      | some allowed =>
          rw [checkQuery_of_hit hcache hlookup, hcache] at hnext
          obtain rfl := Option.some.inj hnext
          exact ⟨rfl, rfl, fun entry hentry => Or.inl hentry⟩
      | none =>
          rw [checkQuery_of_miss hcache hlookup] at hnext
          cases hask : client.ask q.subject q.relation q.object with
          | error e =>
              rw [hask] at hnext
              obtain rfl := Option.some.inj (hcache.symm.trans hnext)
              exact ⟨rfl, rfl, fun entry hentry => Or.inl hentry⟩
          | ok answer =>
              have hkeep : (client.keep cache.generation q.key answered (.ok answer)).cache =
                  some (cache.keep cache.generation q.key answer.allowed answered) := by
                simp [keep, hcache]
              rw [hask, hkeep] at hnext
              obtain rfl := Option.some.inj hnext
              unfold CheckCache.keep
              rw [if_pos rfl]
              refine ⟨rfl, rfl, fun entry hentry => ?_⟩
              rcases List.mem_cons.mp hentry with rfl | hold
              · exact Or.inr ⟨answer.allowed, by rw [inner, hask]; rfl, rfl⟩
              · exact Or.inl (List.mem_filter.mp hold).1

theorem KeepsRight.insert (hkeeps : client.KeepsRight queries) (batch : List Tuple) :
    (client.afterCall (.insert batch)).KeepsRight queries := by
  rcases afterInsert_cases client batch with hsame | ⟨store, hwritten⟩
  · rw [hsame]
    exact hkeeps
  · rw [hwritten]
    intro cache hcache entry hentry
    obtain ⟨before, -, rfl⟩ := Option.map_eq_some_iff.mp hcache
    exact absurd hentry List.not_mem_nil

theorem KeepsRight.check (hkeeps : client.KeepsRight queries) {q : Query} (hq : q ∈ queries)
    (asked answered : Nat) :
    (client.afterCall (.check q asked answered)).KeepsRight queries := by
  intro next hnext entry hentry
  obtain ⟨cache, hcache, -, -, hentries⟩ := cache_afterCheck hnext
  rcases hentries entry hentry with hold | ⟨allowed, hinner, rfl⟩
  · obtain ⟨p, hp, hkey, hinner⟩ := hkeeps cache hcache entry hold
    exact ⟨p, hp, hkey, (inner_afterCheck ..).trans hinner⟩
  · exact ⟨q, hq, rfl, (inner_afterCheck ..).trans hinner⟩

theorem KeepsRight.answer (hkeeps : client.KeepsRight queries) {q : Query} (hq : q ∈ queries)
    (hkeys : Set.InjOn Query.key queries) (asked answered : Nat) :
    (client.checkQuery q asked answered).1.map CheckResult.allowed = client.inner q := by
  cases hcache : client.cache with
  | none =>
      rw [checkQuery_of_no_cache hcache]
      rfl
  | some cache =>
      cases hlookup : cache.lookup? q.key asked with
      | some allowed =>
          obtain ⟨entry, hentry, -, rfl⟩ := mem_of_lookup? hlookup
          obtain ⟨p, hp, hkey, hinner⟩ := hkeeps cache hcache _ hentry
          obtain rfl := hkeys hp hq hkey
          rw [checkQuery_of_hit hcache hlookup, hinner]
          rfl
      | none =>
          rw [checkQuery_of_miss hcache hlookup]
          rfl

/-- As long as no two queries share a key, kept answers are right, whatever the clock says. -/
theorem KeepsRight.transparent (hkeeps : client.KeepsRight queries)
    (hkeys : Set.InjOn Query.key queries) {calls : List GraphCall} (hasks : Asks queries calls) :
    client.Transparent calls := by
  induction calls generalizing client with
  | nil => trivial
  | cons call rest ih =>
      have hrest : Asks queries rest :=
        fun q asked answered hmem => hasks q asked answered (List.mem_cons_of_mem _ hmem)
      cases call with
      | insert batch => exact ih (hkeeps.insert batch) hrest
      | check q asked answered =>
          have hq := hasks q asked answered List.mem_cons_self
          exact ⟨hkeeps.answer hq hkeys asked answered, ih (hkeeps.check hq asked answered) hrest⟩

/-! ## Answers that are kept for no time -/

/-- Answers are kept for no time, and those that are kept are over at every given moment. -/
def KeepsNothing (moments : List Nat) (client : Client) : Prop :=
  ∀ cache, client.cache = some cache → cache.ttl = 0 ∧ cache.negativeTtl = 0 ∧
    ∀ entry ∈ cache.entries, ∀ moment ∈ moments, entry.2.expires ≤ moment

theorem KeepsNothing.insert {moments : List Nat} (hnothing : client.KeepsNothing moments)
    (batch : List Tuple) : (client.afterCall (.insert batch)).KeepsNothing moments := by
  rcases afterInsert_cases client batch with hsame | ⟨store, hwritten⟩
  · rw [hsame]
    exact hnothing
  · rw [hwritten]
    intro cache hcache
    obtain ⟨before, hbefore, rfl⟩ := Option.map_eq_some_iff.mp hcache
    obtain ⟨httl, hnegative, -⟩ := hnothing before hbefore
    exact ⟨httl, hnegative, fun entry hentry => absurd hentry List.not_mem_nil⟩

theorem KeepsNothing.check {asked answered : Nat} {moments : List Nat} {q : Query}
    (hnothing : client.KeepsNothing (asked :: answered :: moments))
    (hlater : ∀ moment ∈ moments, answered ≤ moment) :
    (client.afterCall (.check q asked answered)).KeepsNothing moments := by
  intro next hnext
  obtain ⟨cache, hcache, httl, hnegative, hentries⟩ := cache_afterCheck hnext
  obtain ⟨hzero, hnegativeZero, hover⟩ := hnothing cache hcache
  refine ⟨httl.trans hzero, hnegative.trans hnegativeZero, ?_⟩
  intro entry hentry moment hmoment
  rcases hentries entry hentry with hold | ⟨allowed, -, rfl⟩
  · exact hover entry hold moment (List.mem_cons_of_mem _ (List.mem_cons_of_mem _ hmoment))
  -- an answer is over at the moment from which it is kept
  · have hlifetime : cache.lifetime allowed = 0 := by
      simp [CheckCache.lifetime, hzero, hnegativeZero]
    rw [hlifetime]
    exact hlater moment hmoment

theorem KeepsNothing.answer {asked answered : Nat} {moments : List Nat}
    (hnothing : client.KeepsNothing (asked :: moments)) (q : Query) :
    (client.checkQuery q asked answered).1.map CheckResult.allowed = client.inner q := by
  cases hcache : client.cache with
  | none =>
      rw [checkQuery_of_no_cache hcache]
      rfl
  | some cache =>
      cases hlookup : cache.lookup? q.key asked with
      | some allowed =>
          obtain ⟨entry, hentry, hcurrent, -⟩ := mem_of_lookup? hlookup
          have hover := (hnothing cache hcache).2.2 _ hentry asked List.mem_cons_self
          exact absurd hcurrent (Nat.not_lt.mpr hover)
      | none =>
          rw [checkQuery_of_miss hcache hlookup]
          rfl

/-- As long as the clock does not run backwards, answers that are kept for no time are never
shown. -/
theorem KeepsNothing.transparent {calls : List GraphCall}
    (hnothing : client.KeepsNothing (readings calls))
    (hclock : (readings calls).Pairwise (· ≤ ·)) : client.Transparent calls := by
  induction calls generalizing client with
  | nil => trivial
  | cons call rest ih =>
      cases call with
      | insert batch => exact ih (hnothing.insert batch) hclock
      | check q asked answered =>
          have hanswered := (List.pairwise_cons.mp hclock).2
          obtain ⟨hlater, hrest⟩ := List.pairwise_cons.mp hanswered
          exact ⟨hnothing.answer q, ih (hnothing.check hlater) hrest⟩

/-! ## Queries that share a key -/

/-- A graph that holds a single tuple, after it has been stored. -/
def holding (graph : Graph) (q : Query) (ttl negativeTtl : Nat) : Client :=
  { graph, store := ⟨[q.tuple]⟩,
    cache := some { ttl, negativeTtl, generation := 1, published := 1 } }

variable {graph : Graph} {ttl negativeTtl : Nat} {p q : Query}

theorem cached_insert_tuple (hq : q.WellFormed) :
    (cached graph {} ttl negativeTtl).afterCall (.insert [q.tuple]) =
      holding graph q ttl negativeTtl := by
  obtain ⟨_, hsubject⟩ := hq.subject
  obtain ⟨_, hobject⟩ := hq.object
  obtain ⟨-, hsubjectSpace, hsubjectId⟩ := Node.parse_ok hsubject
  obtain ⟨-, hobjectSpace, hobjectId⟩ := Node.parse_ok hobject
  have hvalid : q.tuple.validate = .ok () := by
    simp [Tuple.validate, Query.tuple, hq.relation, Tuple.checkNode, hsubjectSpace, hsubjectId,
      hobjectSpace, hobjectId, bind, Except.bind]
  have hstored : (TupleStore.insert {} [q.tuple]) = .ok ⟨[q.tuple]⟩ := by
    simp [TupleStore.insert, TupleStore.validateAll, hvalid, TupleStore.addMissing, bind,
      Except.bind, pure, Except.pure]
  simp only [afterCall, Client.insert, cached]
  rw [hstored]
  rfl

/-- The graph says yes to the query of its tuple. -/
theorem holding_inner_self (hrelation : Text.isBlankText q.relation = false) :
    (holding graph q ttl negativeTtl).inner q = .ok true := by
  simp [inner, ask, holding, source, Graph.check, hrelation, TupleSource.ofStore,
    TupleStore.relationsBetween, Query.tuple, Hierarchy.implies, bind, Except.bind, pure,
    Except.pure, Except.map]

/-- It says no to any other query with the same key. -/
theorem holding_inner_other (hrelation : Text.isBlankText p.relation = false)
    (hkey : p.key = q.key) (hne : p ≠ q) :
    (holding graph q ttl negativeTtl).inner p = .ok false := by
  -- with the same subject and object the key would leave no room for another relation
  have hapart : q.subject ≠ p.subject ∨ q.object ≠ p.object := by
    by_contra hsame
    obtain ⟨hsubject, hobject⟩ := not_or.mp hsame
    exact hne (Query.eq_of_key hkey (not_not.mp hsubject).symm (not_not.mp hobject).symm)
  have hdirect : (⟨[q.tuple]⟩ : TupleStore).relationsBetween p.subject p.object = [] := by
    have hnone : (q.tuple.subject == p.subject && q.tuple.object == p.object) = false := by
      simpa [Query.tuple, imp_iff_not_or] using hapart
    simp [TupleStore.relationsBetween, hnone]
  have hsearch : graph.search (.ofStore ⟨[q.tuple]⟩) p.relation p.object graph.maxDepth
      [p.subject] [p.subject] = .ok false := by
    rcases hapart with hsubject | hobject
    · apply Graph.search_of_isolated
      simp [TupleStore.outgoing, Query.tuple, hsubject]
    · apply Graph.search_of_no_grant
      simp [Graph.grants, Query.tuple, hobject]
  have hcheck := Graph.check_of_no_direct hrelation hdirect hsearch
  change (graph.check (.ofStore ⟨[q.tuple]⟩) p.subject p.relation p.object).map
    CheckResult.allowed = .ok false
  rw [hcheck]
  rfl

/-- The refusal is kept, and shown for every query with the same key. -/
theorem holding_check_refused (hrefused : (holding graph q ttl negativeTtl).inner p = .ok false)
    (hkey : p.key = q.key) (hlifetime : ¬ (ttl = 0 ∧ negativeTtl = 0)) :
    (((holding graph q ttl negativeTtl).afterCall (.check p 0 0)).checkQuery q 0 0).1 =
      .ok ⟨false, cacheSource⟩ := by
  let cache : CheckCache := { ttl, negativeTtl, generation := 1, published := 1 }
  have hcache : (holding graph q ttl negativeTtl).cache = some cache := rfl
  have hnone : cache.lookup? p.key 0 = none := rfl
  have hmiss := checkQuery_of_miss hcache hnone 0
  have hpositive : 0 < cache.lifetime false := by
    simp only [CheckCache.lifetime, cache]
    by_cases hzero : negativeTtl = 0
    · simp [hzero]
      omega
    · simp [hzero]
      omega
  cases hask : (holding graph q ttl negativeTtl).ask p.subject p.relation p.object with
  | error e =>
      rw [inner, hask] at hrefused
      cases hrefused
  | ok answer =>
      rw [inner, hask] at hrefused
      have hdenied : answer.allowed = false := Except.ok.inj hrefused
      have hkept : ((holding graph q ttl negativeTtl).afterCall (.check p 0 0)).cache =
          some (cache.keep 1 p.key false 0) := by
        rw [afterCall, hmiss, hask, ← hdenied]
        rfl
      have hlookup : (cache.keep 1 p.key false 0).lookup? q.key 0 = some false := by
        rw [← hkey]
        simpa [CheckCache.keep, CheckCache.lookup?, cache] using Nat.ne_of_gt hpositive
      rw [checkQuery_of_hit hkept hlookup]

/-- If two queries share a key, and refusals are kept for a while, the refusal of one is given for
the other. -/
theorem not_transparent_of_same_key (hp : p.WellFormed) (hq : q.WellFormed)
    (hkey : p.key = q.key) (hne : p ≠ q) (hlifetime : ¬ (ttl = 0 ∧ negativeTtl = 0)) :
    ¬ (cached graph {} ttl negativeTtl).Transparent
      [.insert [q.tuple], .check p 0 0, .check q 0 0] := by
  rintro htransparent
  change ((cached graph {} ttl negativeTtl).afterCall (.insert [q.tuple])).Transparent
    [.check p 0 0, .check q 0 0] at htransparent
  rw [cached_insert_tuple hq] at htransparent
  obtain ⟨-, hright, -⟩ := htransparent
  have hrefused : (holding graph q ttl negativeTtl).inner p = .ok false :=
    holding_inner_other hp.relation hkey hne
  rw [holding_check_refused hrefused hkey hlifetime, inner_afterCheck,
    holding_inner_self hq.relation] at hright
  cases hright

/-- Among well-formed queries, a cached graph answers every run of calls as the graph behind it
would, as long as the clock does not run backwards, exactly if it keeps answers for no time at all
or no two of the queries share a key. In the latter case not even the clock matters. -/
theorem transparent_iff_injOn_key (graph : Graph) (ttl negativeTtl : Nat) (queries : Set Query)
    (hqueries : ∀ q ∈ queries, q.WellFormed) :
    ((∀ store calls, Asks queries calls → (readings calls).Pairwise (· ≤ ·) →
        (cached graph store ttl negativeTtl).Transparent calls) ↔
      (ttl = 0 ∧ negativeTtl = 0) ∨ Set.InjOn Query.key queries) ∧
    (Set.InjOn Query.key queries → ∀ store calls, Asks queries calls →
      (cached graph store ttl negativeTtl).Transparent calls) := by
  have hright : Set.InjOn Query.key queries → ∀ store calls, Asks queries calls →
      (cached graph store ttl negativeTtl).Transparent calls := by
    intro hkeys store calls hasks
    refine KeepsRight.transparent ?_ hkeys hasks
    intro cache hcache entry hentry
    obtain rfl := Option.some.inj hcache
    exact absurd hentry List.not_mem_nil
  refine ⟨⟨?_, ?_⟩, hright⟩
  · intro htransparent
    by_cases hlifetime : ttl = 0 ∧ negativeTtl = 0
    · exact Or.inl hlifetime
    · refine Or.inr fun p hp q hq hkey => ?_
      by_contra hne
      -- a run in which one of them is granted, and the other one is asked first
      refine absurd (htransparent {} [.insert [q.tuple], .check p 0 0, .check q 0 0] ?_ ?_)
        (not_transparent_of_same_key (hqueries p hp) (hqueries q hq) hkey hne hlifetime)
      · intro query asked answered hmem
        simp only [List.mem_cons, reduceCtorEq, GraphCall.check.injEq, List.not_mem_nil,
          or_false, false_or] at hmem
        rcases hmem with ⟨rfl, -⟩ | ⟨rfl, -⟩
        · exact hp
        · exact hq
      · simp [readings]
  · rintro (⟨rfl, rfl⟩ | hkeys) store calls hasks hclock
    · refine KeepsNothing.transparent ?_ hclock
      intro cache hcache
      obtain rfl := Option.some.inj hcache
      exact ⟨rfl, rfl, fun entry hentry => absurd hentry List.not_mem_nil⟩
    · exact hright hkeys store calls hasks

/-- Two queries that share the key `a:1#r@b:2#s@c:3`. -/
def longSubject : Query := ⟨⟨"a", "1#r@b:2"⟩, "s", ⟨"c", "3"⟩⟩

def longObject : Query := ⟨⟨"a", "1"⟩, "r", ⟨"b", "2#s@c:3"⟩⟩

theorem longSubject_wellFormed : longSubject.WellFormed where
  subject := ⟨"a:1#r@b:2", by decide⟩
  relation := by decide
  object := ⟨"c:3", by decide⟩

theorem longObject_wellFormed : longObject.WellFormed where
  subject := ⟨"a:1", by decide⟩
  relation := by decide
  object := ⟨"b:2#s@c:3", by decide⟩

/-- After a permission has been kept for one of them, the other one is allowed too, although the
graph refuses it. -/
theorem longObject_allowed_by_longSubject :
    longSubject.WellFormed ∧ longObject.WellFormed ∧
    ¬ (cached {} {} 1000 1000).Transparent
      [.insert [longSubject.tuple], .check longSubject 0 0, .check longObject 0 0] := by
  refine ⟨longSubject_wellFormed, longObject_wellFormed, ?_⟩
  rintro ⟨-, hanswer, -⟩
  exact absurd hanswer (by decide)

/-- No cache that keeps answers for a second is transparent for these two queries. -/
theorem not_transparent_longSubject_longObject :
    (∀ q ∈ ({longSubject, longObject} : Set Query), q.WellFormed) ∧
    ¬ ∀ store calls, Asks {longSubject, longObject} calls →
      (readings calls).Pairwise (· ≤ ·) → (cached {} store 1000 1000).Transparent calls := by
  have hqueries : ∀ q ∈ ({longSubject, longObject} : Set Query), q.WellFormed := by
    rintro q (rfl | rfl)
    · exact longSubject_wellFormed
    · exact longObject_wellFormed
  refine ⟨hqueries, fun htransparent => ?_⟩
  rcases (transparent_iff_injOn_key {} 1000 1000 _ hqueries).1.mp htransparent with
    ⟨hzero, -⟩ | hkeys
  · exact absurd hzero (by decide)
  · have hsame := hkeys (Or.inl rfl) (Or.inr rfl)
      (show longSubject.key = longObject.key by decide)
    exact absurd hsame (by decide)

end Client

end Mandate.Relation
