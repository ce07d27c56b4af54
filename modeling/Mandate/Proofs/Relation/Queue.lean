import Mandate.Proofs.Relation.Reachability
import Mathlib.Data.Finset.Card
import Mathlib.Data.Finset.SDiff

/-! # The search as a loop over a queue

The search can be run as one loop. The nodes that wait stand in a queue, each with its distance
from the subject; every turn takes the first of them, and what it leads to for the first time goes
to the end. A turn removes a node from the queue, and a node gets there only once, so the loop ends
after a number of turns that the number of tuples bounds. Its answer is that of the search level by
level, since the queue always holds the rest of one level before what is known of the next.
-/

namespace Mandate.Relation.Graph

/-! ## The loop -/

/-- The nodes that wait, each with its distance from the subject, and the nodes seen so far. -/
structure Queue where
  waiting : List (Node × Nat)
  seen : List Node

/-- What a turn of the loop leads to. -/
inductive Turn where
  | answer (allowed : Bool)
  | next (queue : Queue)

namespace Queue

/-- The queue with the subject alone. -/
def start (subject : Node) : Queue := ⟨[(subject, 0)], [subject]⟩

/-- Follow a tuple of a node at a distance if it is a hop to a node that was not seen before. -/
def follow (g : Graph) (distance : Nat) (queue : Queue) (t : Tuple) : Queue :=
  if g.hops.contains t.relation && !queue.seen.contains t.object then
    ⟨queue.waiting ++ [(t.object, distance + 1)], queue.seen ++ [t.object]⟩
  else queue

/-- Look at the tuples of a node at a distance. There is no queue any more if one of them grants. -/
def scan (g : Graph) (wanted : String) (object : Node) (distance : Nat) :
    List Tuple → Queue → Option Queue
  | [], queue => some queue
  | t :: rest, queue =>
      if g.grants wanted object t then none
      else scan g wanted object distance rest (queue.follow g distance t)

/-- Take the first node that waits. Nodes beyond the depth of the graph are dropped. -/
def turn (g : Graph) (store : TupleStore) (wanted : String) (object : Node) (queue : Queue) :
    Turn :=
  match queue.waiting with
  | [] => .answer false
  | (a, distance) :: rest =>
      if g.maxDepth ≤ distance then .next ⟨rest, queue.seen⟩
      else
        match scan g wanted object distance (store.outgoing a) ⟨rest, queue.seen⟩ with
        | none => .answer true
        | some queue => .next queue

/-- The answer of the loop, if it comes to one within so many turns. -/
def answer? (g : Graph) (store : TupleStore) (wanted : String) (object : Node) :
    (turns : Nat) → Queue → Option Bool
  | 0, _ => none
  | turns + 1, queue =>
      match queue.turn g store wanted object with
      | .answer allowed => some allowed
      | .next queue => answer? g store wanted object turns queue

end Queue

/-- A check that runs the loop, if it comes to an answer within so many turns. -/
def checkInTurns? (g : Graph) (store : TupleStore) (turns : Nat) (subject : Node)
    (wanted : String) (object : Node) : Option (Except GraphError CheckResult) :=
  if Text.isBlankText wanted then some (.error (.invalidRelation wanted))
  else if (store.relationsBetween subject object).any (g.hierarchy.implies · wanted) then
    some (.ok ⟨true, localSource⟩)
  else (Queue.answer? g store wanted object turns (.start subject)).map fun allowed =>
    .ok ⟨allowed, localSource⟩

namespace Queue

variable {g : Graph} {store : TupleStore} {wanted : String} {object : Node} {queue after : Queue}
  {distance : Nat} {allowed : Bool}

/-! ## The loop ends -/

/-- The objects of stored tuples that have not been seen. -/
def unseen (store : TupleStore) (seen : List Node) : Finset Node :=
  (store.tuples.map (·.object)).toFinset \ seen.toFinset

/-- A bound for the turns that are left: the nodes that wait and those that may still come. -/
def work (store : TupleStore) (queue : Queue) : Nat :=
  queue.waiting.length + (unseen store queue.seen).card

theorem work_follow_le {t : Tuple} (ht : t ∈ store.tuples) :
    (queue.follow g distance t).work store ≤ queue.work store := by
  unfold follow
  split
  next hfollow =>
    have hnew : t.object ∉ queue.seen := by
      simp only [Bool.and_eq_true, Bool.not_eq_true', List.contains_eq_mem,
        decide_eq_false_iff_not] at hfollow
      exact hfollow.2
    have hunseen : t.object ∈ unseen store queue.seen := by
      simp only [unseen, Finset.mem_sdiff, List.mem_toFinset, List.mem_map]
      exact ⟨⟨t, ht, rfl⟩, hnew⟩
    have hleft : unseen store (queue.seen ++ [t.object]) =
        (unseen store queue.seen).erase t.object := by
      ext a
      simp only [unseen, Finset.mem_sdiff, Finset.mem_erase, List.mem_toFinset, List.mem_append,
        List.mem_singleton]
      tauto
    have hpos := Finset.card_pos.mpr ⟨_, hunseen⟩
    simp only [work, hleft, Finset.card_erase_of_mem hunseen, List.length_append,
      List.length_singleton]
    omega
  next => exact Nat.le_refl _

theorem work_scan_le {edges : List Tuple} (hedges : ∀ t ∈ edges, t ∈ store.tuples)
    (hscan : scan g wanted object distance edges queue = some after) :
    after.work store ≤ queue.work store := by
  induction edges generalizing queue with
  | nil =>
      cases hscan
      exact Nat.le_refl _
  | cons t rest ih =>
      obtain ⟨ht, hrest⟩ := List.forall_mem_cons.mp hedges
      rw [scan] at hscan
      split at hscan
      next => cases hscan
      next => exact Nat.le_trans (ih hrest hscan) (work_follow_le ht)

theorem work_turn_lt (hturn : queue.turn g store wanted object = .next after) :
    after.work store < queue.work store := by
  obtain ⟨waiting, seen⟩ := queue
  cases waiting with
  | nil => cases hturn
  | cons first rest =>
      have hpop : work store ⟨rest, seen⟩ < work store ⟨first :: rest, seen⟩ := by
        simp [work]
      unfold turn at hturn
      dsimp only at hturn
      split at hturn
      next =>
        cases hturn
        exact hpop
      next =>
        split at hturn
        next => cases hturn
        next hscan =>
          cases hturn
          refine Nat.lt_of_le_of_lt (work_scan_le (fun t ht => ?_) hscan) hpop
          exact (mem_outgoing.mp ht).1

theorem work_start_le (store : TupleStore) (subject : Node) :
    (start subject).work store ≤ store.tuples.length + 1 := by
  have hcard : (unseen store [subject]).card ≤ store.tuples.length := by
    calc (unseen store [subject]).card
        ≤ (store.tuples.map (·.object)).toFinset.card :=
          Finset.card_le_card Finset.sdiff_subset
      _ ≤ (store.tuples.map (·.object)).length := List.toFinset_card_le _
      _ = store.tuples.length := List.length_map _
  change 1 + (unseen store [subject]).card ≤ _
  omega

/-! ## The loop answers what the search answers -/

/-- The loop comes to an answer. -/
inductive Ends (g : Graph) (store : TupleStore) (wanted : String) (object : Node) :
    Queue → Bool → Prop where
  | answer {queue : Queue} {allowed : Bool}
      (hturn : queue.turn g store wanted object = .answer allowed) :
      Ends g store wanted object queue allowed
  | next {queue after : Queue} {allowed : Bool}
      (hturn : queue.turn g store wanted object = .next after)
      (hrest : Ends g store wanted object after allowed) : Ends g store wanted object queue allowed

theorem Ends.answer?_eq (hends : Ends g store wanted object queue allowed) {turns : Nat}
    (hturns : queue.work store < turns) :
    answer? g store wanted object turns queue = some allowed := by
  induction hends generalizing turns with
  | answer hturn =>
      obtain ⟨turns, rfl⟩ := Nat.exists_eq_succ_of_ne_zero (Nat.ne_of_gt (Nat.zero_lt_of_lt hturns))
      rw [answer?, hturn]
  | next hturn _ ih =>
      obtain ⟨turns, rfl⟩ := Nat.exists_eq_succ_of_ne_zero (Nat.ne_of_gt (Nat.zero_lt_of_lt hturns))
      rw [answer?, hturn]
      have hless := work_turn_lt hturn
      exact ih (by omega)

/-- Nodes at a distance. -/
def atDistance (distance : Nat) (nodes : List Node) : List (Node × Nat) := nodes.map (·, distance)

/-- The tuples of a node add to the end of the queue what they add to the next level. -/
theorem scan_eq (edges : List Tuple) (rest : List (Node × Nat)) (level : Level) :
    scan g wanted object distance edges
        ⟨rest ++ atDistance (distance + 1) level.next, level.seen⟩ =
      (g.scanEdges wanted object edges level).map fun found =>
        ⟨rest ++ atDistance (distance + 1) found.next, found.seen⟩ := by
  induction edges generalizing level with
  | nil => rfl
  | cons t more ih =>
      rw [scan, scanEdges]
      split
      next => rfl
      next =>
        rw [← ih (level.follow g t)]
        congr 1
        unfold follow Level.follow
        split <;> simp [atDistance]

theorem turn_cons (hdistance : distance < g.maxDepth) (a : Node) (rest : List (Node × Nat))
    (seen : List Node) :
    turn g store wanted object ⟨(a, distance) :: rest, seen⟩ =
      match scan g wanted object distance (store.outgoing a) ⟨rest, seen⟩ with
      | none => .answer true
      | some queue => .next queue :=
  if_neg (Nat.not_le.mpr hdistance)

/-- A turn at the first node of a level looks at that node as the search does. -/
theorem turn_level (g : Graph) (store : TupleStore) (wanted : String) (object : Node)
    {distance : Nat} (hdistance : distance < g.maxDepth) (a : Node) (rest : List Node)
    (level : Level) :
    turn g store wanted object
        ⟨atDistance distance (a :: rest) ++ atDistance (distance + 1) level.next, level.seen⟩ =
      match g.scanEdges wanted object (store.outgoing a) level with
      | none => .answer true
      | some found =>
          .next ⟨atDistance distance rest ++ atDistance (distance + 1) found.next, found.seen⟩ := by
  refine (turn_cons hdistance a (atDistance distance rest ++ _) _).trans ?_
  rw [scan_eq]
  cases g.scanEdges wanted object (store.outgoing a) level <;> rfl

/-- A level is taken from the queue node by node while the next level comes together at its end. -/
theorem ends_of_scanLevel (hdistance : distance < g.maxDepth) (nodes : List Node) (level : Level)
    {found? : Option Level}
    (hscan : g.scanLevel (.ofStore store) wanted object nodes level = .ok found?)
    (hnone : found? = none → allowed = true)
    (hsome : ∀ found, found? = some found → Ends g store wanted object
      ⟨atDistance (distance + 1) found.next, found.seen⟩ allowed) :
    Ends g store wanted object
      ⟨atDistance distance nodes ++ atDistance (distance + 1) level.next, level.seen⟩ allowed := by
  induction nodes generalizing level with
  | nil =>
      cases hscan
      exact hsome level rfl
  | cons a rest ih =>
      have hturn := turn_level g store wanted object hdistance a rest level
      rw [scanLevel_cons] at hscan
      cases hedges : g.scanEdges wanted object (store.outgoing a) level with
      | none =>
          rw [hedges] at hturn hscan
          cases hscan
          obtain rfl : allowed = true := hnone rfl
          exact .answer hturn
      | some middle =>
          rw [hedges] at hturn hscan
          exact .next hturn (ih middle hscan)

theorem ends_beyond (nodes seen : List Node) (hdistance : g.maxDepth ≤ distance) :
    Ends g store wanted object ⟨atDistance distance nodes, seen⟩ false := by
  induction nodes with
  | nil => exact .answer rfl
  | cons a rest ih => exact .next (if_pos hdistance) ih

theorem ends_of_search {depth : Nat} {level seen : List Node}
    (hdepth : distance + depth = g.maxDepth)
    (hsearch : g.search (.ofStore store) wanted object depth level seen = .ok allowed) :
    Ends g store wanted object ⟨atDistance distance level, seen⟩ allowed := by
  induction depth generalizing distance level seen with
  | zero =>
      cases hsearch
      exact ends_beyond level seen (Nat.le_of_eq hdepth.symm)
  | succ depth ih =>
      obtain ⟨found?, hscan, -⟩ :=
        scanLevel_spec g store wanted object level ⟨[], seen⟩
      rw [search, hscan] at hsearch
      rw [← List.append_nil (atDistance distance level)]
      refine ends_of_scanLevel (by omega) level ⟨[], seen⟩ hscan ?_ ?_
      · rintro rfl
        cases hsearch
        rfl
      · rintro found rfl
        exact ih (by omega) hsearch

end Queue

/-- The loop answers within two turns more than there are tuples, and then it answers what the check
answers. -/
theorem checkInTurns?_eq (g : Graph) (store : TupleStore) (subject object : Node)
    (wanted : String) {turns : Nat} (hturns : store.tuples.length + 2 ≤ turns) :
    g.checkInTurns? store turns subject wanted object =
      some (g.check (.ofStore store) subject wanted object) := by
  unfold checkInTurns? check
  cases Text.isBlankText wanted with
  | true => rfl
  | false =>
      by_cases hdirect :
          (store.relationsBetween subject object).any (g.hierarchy.implies · wanted) = true
      · simp [hdirect, TupleSource.ofStore, bind, Except.bind, pure, Except.pure]
      · obtain ⟨allowed, hsearch, -⟩ :=
          search_spec (.start g store wanted object subject) g.maxDepth
        have hends : Queue.Ends g store wanted object (.start subject) allowed :=
          Queue.ends_of_search (Nat.zero_add _) hsearch
        have hwork := Queue.work_start_le store subject
        rw [hends.answer?_eq (by omega), hsearch]
        simp [hdirect, TupleSource.ofStore, bind, Except.bind, pure, Except.pure]

/-- A check for a relation comes to an answer, also as a loop over a queue, and it allows exactly if
a walk along hops, not longer than the depth of the graph permits, leads from the subject to a node
that holds a sufficient relation on the object. More tuples never turn the answer from allowing to
refusing, and of the tuples that are added only their set counts, neither their order nor how they
were cut into batches. -/
theorem check_decides_reachability (g : Graph) (store : TupleStore) (subject object : Node)
    {wanted : String} (hwanted : Text.isBlankText wanted = false) :
    ∃ allowed,
      (∀ turns, store.tuples.length + 2 ≤ turns →
        g.checkInTurns? store turns subject wanted object =
          some (.ok ⟨allowed, localSource⟩)) ∧
      g.check (.ofStore store) subject wanted object = .ok ⟨allowed, localSource⟩ ∧
      (allowed = true ↔ g.Reaches store subject wanted object) ∧
      (allowed = true → ∀ batches,
        g.check (.ofStore (store.takeAll batches)) subject wanted object =
          .ok ⟨true, localSource⟩) ∧
      ∀ batches batches',
        (∀ t, TupleStore.Accepted batches t ↔ TupleStore.Accepted batches' t) →
        g.check (.ofStore (store.takeAll batches)) subject wanted object =
          g.check (.ofStore (store.takeAll batches')) subject wanted object := by
  obtain ⟨allowed, hcheck, hallowed⟩ := check_spec g store subject object hwanted
  refine ⟨allowed, ?_, hcheck, hallowed, ?_, ?_⟩
  · intro turns hturns
    rw [checkInTurns?_eq g store subject object wanted hturns, hcheck]
  · intro hyes batches
    obtain ⟨later, hlater, hreaches⟩ :=
      check_spec g (store.takeAll batches) subject object hwanted
    have hmore : store.tuples ⊆ (store.takeAll batches).tuples :=
      fun t ht => TupleStore.mem_takeAll.mpr (Or.inl ht)
    rw [hlater, hreaches.mpr ((hallowed.mp hyes).mono hmore)]
  · intro batches batches' hsame
    obtain ⟨one, hone, hreaches⟩ := check_spec g (store.takeAll batches) subject object hwanted
    obtain ⟨other, hother, hreaches'⟩ :=
      check_spec g (store.takeAll batches') subject object hwanted
    have htuples : ∀ t, t ∈ (store.takeAll batches).tuples ↔
        t ∈ (store.takeAll batches').tuples := by
      intro t
      rw [TupleStore.mem_takeAll, TupleStore.mem_takeAll, hsame]
    have heq : one = other := by
      rw [Bool.eq_iff_iff, hreaches, hreaches']
      exact ⟨Reaches.mono fun t => (htuples t).mp, Reaches.mono fun t => (htuples t).mpr⟩
    rw [hone, hother, heq]

/-- Two groups that are members of each other, one of which may edit a document. -/
def circle : TupleStore where
  tuples :=
    [⟨⟨"group", "a"⟩, "member", ⟨"user", "u"⟩⟩, ⟨⟨"group", "b"⟩, "member", ⟨"group", "a"⟩⟩,
      ⟨⟨"group", "a"⟩, "member", ⟨"group", "b"⟩⟩, ⟨⟨"doc", "d"⟩, "editor", ⟨"group", "b"⟩⟩]

/-- A member of the other group may view the document, but not if the search is less deep. -/
theorem circle_is_searched :
    Graph.check {} (.ofStore circle) ⟨"user", "u"⟩ "viewer" ⟨"doc", "d"⟩ =
      .ok ⟨true, localSource⟩ ∧
    Graph.check { maxDepth := 2 } (.ofStore circle) ⟨"user", "u"⟩ "viewer" ⟨"doc", "d"⟩ =
      .ok ⟨false, localSource⟩ := by
  have hwanted : Text.isBlankText "viewer" = false := by decide
  obtain ⟨allowed, -, hcheck, hallowed, -⟩ :=
    check_decides_reachability {} circle ⟨"user", "u"⟩ ⟨"doc", "d"⟩ hwanted
  obtain ⟨near, hturns, hnear, -⟩ :=
    check_decides_reachability { maxDepth := 2 } circle ⟨"user", "u"⟩ ⟨"doc", "d"⟩ hwanted
  have hfirst : Hop {} circle ⟨"user", "u"⟩ ⟨"group", "a"⟩ :=
    ⟨⟨⟨"group", "a"⟩, "member", ⟨"user", "u"⟩⟩, by decide⟩
  have hsecond : Hop {} circle ⟨"group", "a"⟩ ⟨"group", "b"⟩ :=
    ⟨⟨⟨"group", "b"⟩, "member", ⟨"group", "a"⟩⟩, by decide⟩
  have hholds : Holds {} circle "viewer" ⟨"doc", "d"⟩ ⟨"group", "b"⟩ :=
    ⟨⟨⟨"doc", "d"⟩, "editor", ⟨"group", "b"⟩⟩, by decide⟩
  have hreaches : Reaches {} circle ⟨"user", "u"⟩ "viewer" ⟨"doc", "d"⟩ :=
    ⟨2, _, Or.inr (by decide), .hop hfirst (.hop hsecond (.stay _)), hholds⟩
  have hdenied : near = false := by
    have hloop := hturns 6 (by decide)
    have hfalse : Graph.checkInTurns? { maxDepth := 2 } circle 6 ⟨"user", "u"⟩ "viewer"
        ⟨"doc", "d"⟩ = some (.ok ⟨false, localSource⟩) := by decide
    simpa using hloop.symm.trans hfalse
  rw [hcheck, hallowed.mpr hreaches, hnear, hdenied]
  exact ⟨rfl, rfl⟩

end Mandate.Relation.Graph
