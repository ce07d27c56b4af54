import Mandate.Proofs.Relation.Stores
import Mandate.Relation.Reach
import Mathlib.Tactic.Tauto

/-! # Checks decide bounded reachability

A walk follows stored tuples whose relation is a hop. A check allows exactly if a walk that is
short enough leads from the subject to a node that holds a sufficient relation on the object. The
search looks at a node only once. It misses nothing by that: whatever is close to a node that was
seen before has been looked at, or is close to a node of the level that comes next.
-/

namespace Mandate.Relation.Graph

variable {g : Graph} {store : TupleStore} {wanted : String} {object : Node} {a b c : Node}
  {n : Nat}

/-! ## Walks -/

/-- A stored tuple leads from one node to another, and its relation is a hop. -/
def Hop (g : Graph) (store : TupleStore) (a b : Node) : Prop :=
  ∃ t ∈ store.tuples, t.subject = a ∧ t.object = b ∧ t.relation ∈ g.hops

/-- A way of the given number of hops from one node to another. -/
inductive Walk (g : Graph) (store : TupleStore) : Node → Nat → Node → Prop where
  | stay (a : Node) : Walk g store a 0 a
  | hop {a b c : Node} {n : Nat} (hhop : g.Hop store a b) (hrest : Walk g store b n c) :
      Walk g store a (n + 1) c

/-- A node is the subject of a stored tuple on the object whose relation implies the wanted one. -/
def Holds (g : Graph) (store : TupleStore) (wanted : String) (object a : Node) : Prop :=
  ∃ t ∈ store.tuples, t.subject = a ∧ t.object = object ∧
    g.hierarchy.implies t.relation wanted = true

/-- A walk, which may be longer than nothing only if it is shorter than the depth of the graph,
leads from the subject to a node that holds the wanted relation on the object. -/
def Reaches (g : Graph) (store : TupleStore) (subject : Node) (wanted : String) (object : Node) :
    Prop :=
  ∃ n a, (n = 0 ∨ n < g.maxDepth) ∧ g.Walk store subject n a ∧ g.Holds store wanted object a

theorem Hop.mono {more : TupleStore} (hmore : store.tuples ⊆ more.tuples)
    (hhop : g.Hop store a b) : g.Hop more a b := by
  obtain ⟨t, ht, hends⟩ := hhop
  exact ⟨t, hmore ht, hends⟩

theorem Walk.mono {more : TupleStore} (hmore : store.tuples ⊆ more.tuples)
    (hwalk : g.Walk store a n b) : g.Walk more a n b := by
  induction hwalk with
  | stay a => exact .stay a
  | hop hhop _ ih => exact .hop (hhop.mono hmore) ih

theorem Reaches.mono {more : TupleStore} (hmore : store.tuples ⊆ more.tuples)
    (hreaches : g.Reaches store a wanted object) : g.Reaches more a wanted object := by
  obtain ⟨n, b, hlength, hwalk, t, ht, hgrants⟩ := hreaches
  exact ⟨n, b, hlength, hwalk.mono hmore, t, hmore ht, hgrants⟩

/-- Nothing is reached from a node that is the subject of no tuple. -/
theorem not_reaches_of_isolated (hisolated : ∀ t ∈ store.tuples, t.subject ≠ a) :
    ¬ g.Reaches store a wanted object := by
  rintro ⟨n, b, -, hwalk, t, ht, hsubject, -⟩
  cases hwalk with
  | stay => exact hisolated t ht hsubject
  | hop hhop _ =>
      obtain ⟨other, hother, hleads, -⟩ := hhop
      exact hisolated other hother hleads

/-! ## One node -/

theorem mem_outgoing {t : Tuple} : t ∈ store.outgoing a ↔ t ∈ store.tuples ∧ t.subject = a := by
  simp [TupleStore.outgoing]

theorem holds_iff_outgoing :
    g.Holds store wanted object a ↔ ∃ t ∈ store.outgoing a, g.grants wanted object t = true := by
  simp only [Holds, mem_outgoing, grants, Bool.and_eq_true, beq_iff_eq, and_assoc]

theorem hop_iff_outgoing : g.Hop store a b ↔
    ∃ t ∈ store.outgoing a, t.object = b ∧ t.relation ∈ g.hops := by
  simp only [Hop, mem_outgoing, and_assoc]

theorem holds_iff_relationsBetween (g : Graph) (store : TupleStore) (wanted : String)
    (object a : Node) : g.Holds store wanted object a ↔
    (store.relationsBetween a object).any (g.hierarchy.implies · wanted) = true := by
  simp [Holds, TupleStore.relationsBetween, and_assoc]

/-! ## One level -/

/-- What the nodes of a level lead to: a level is extended by the nodes that were not seen yet. -/
structure Level.Extends (level found : Level) (new : Node → Prop) : Prop where
  seen_iff : ∀ b, b ∈ found.seen ↔ b ∈ level.seen ∨ new b
  next_iff : ∀ b, b ∈ found.next ↔ b ∈ level.next ∨ (b ∉ level.seen ∧ new b)

theorem Level.Extends.refl (level : Level) : level.Extends level fun _ => False where
  seen_iff b := by simp
  next_iff b := by simp

theorem Level.Extends.trans {level middle found : Level} {new newer : Node → Prop}
    (hone : level.Extends middle new) (hother : middle.Extends found newer) :
    level.Extends found fun b => new b ∨ newer b where
  seen_iff b := by rw [hother.seen_iff, hone.seen_iff, or_assoc]
  next_iff b := by
    rw [hother.next_iff, hone.next_iff, hone.seen_iff]
    tauto

theorem Level.Extends.congr {level found : Level} {new new' : Node → Prop}
    (hextends : level.Extends found new) (hsame : ∀ b, new b ↔ new' b) :
    level.Extends found new' := by
  obtain rfl : new = new' := funext fun b => propext (hsame b)
  exact hextends

theorem Level.extends_follow (g : Graph) (level : Level) (t : Tuple) :
    level.Extends (level.follow g t) fun b => t.object = b ∧ t.relation ∈ g.hops := by
  unfold follow
  by_cases hhop : t.relation ∈ g.hops
  · by_cases hseen : t.object ∈ level.seen
    · constructor <;> intro b <;> simp only [hhop, hseen, List.contains_eq_mem, decide_true,
        Bool.not_true, Bool.and_false, Bool.false_eq_true, ↓reduceIte, and_true]
      · exact ⟨Or.inl, fun h => h.elim id fun heq => heq ▸ hseen⟩
      · exact ⟨Or.inl, fun h => h.elim id fun ⟨hnew, heq⟩ => absurd (heq ▸ hseen) hnew⟩
    · constructor <;> intro b
      · simp [hhop, hseen, eq_comm]
      · simp only [hhop, hseen, List.contains_eq_mem, decide_true, decide_false, Bool.not_false,
          Bool.and_true, ↓reduceIte, List.mem_append, List.mem_singleton, and_true]
        constructor
        · exact Or.imp_right fun heq => ⟨heq ▸ hseen, heq.symm⟩
        · exact Or.imp_right fun ⟨_, heq⟩ => heq.symm
  · constructor <;> intro b <;> simp [hhop]

variable (g store wanted object) in
/-- The tuples of a node are looked at in vain, or one of them grants. -/
theorem scanEdges_spec (edges : List Tuple) (level : Level) :
    match g.scanEdges wanted object edges level with
    | none => ∃ t ∈ edges, g.grants wanted object t = true
    | some found => (∀ t ∈ edges, g.grants wanted object t = false) ∧
        level.Extends found fun b => ∃ t ∈ edges, t.object = b ∧ t.relation ∈ g.hops := by
  induction edges generalizing level with
  | nil => exact ⟨nofun, (Level.Extends.refl level).congr fun b => by simp⟩
  | cons t rest ih =>
      rw [scanEdges]
      cases hgrants : g.grants wanted object t with
      | true => exact ⟨t, List.mem_cons_self, hgrants⟩
      | false =>
          have hrest := ih (level.follow g t)
          simp only [Bool.false_eq_true, ↓reduceIte]
          cases hscan : g.scanEdges wanted object rest (level.follow g t) with
          | none =>
              rw [hscan] at hrest
              obtain ⟨other, hother, hgrants⟩ := hrest
              exact ⟨other, List.mem_cons_of_mem _ hother, hgrants⟩
          | some found =>
              rw [hscan] at hrest
              refine ⟨List.forall_mem_cons.mpr ⟨hgrants, hrest.1⟩, ?_⟩
              exact ((level.extends_follow g t).trans hrest.2).congr fun b => by simp

theorem scanLevel_cons (a : Node) (rest : List Node) (level : Level) :
    g.scanLevel (.ofStore store) wanted object (a :: rest) level =
      match g.scanEdges wanted object (store.outgoing a) level with
      | none => .ok none
      | some level => g.scanLevel (.ofStore store) wanted object rest level := rfl

variable (g store wanted object) in
/-- A level is looked at in vain, and the next one holds what is new, or one of its nodes holds the
wanted relation. -/
theorem scanLevel_spec (nodes : List Node) (level : Level) :
    ∃ found?, g.scanLevel (.ofStore store) wanted object nodes level = .ok found? ∧
      match found? with
      | none => ∃ a ∈ nodes, g.Holds store wanted object a
      | some found => (∀ a ∈ nodes, ¬ g.Holds store wanted object a) ∧
          level.Extends found fun b => ∃ a ∈ nodes, g.Hop store a b := by
  induction nodes generalizing level with
  | nil => exact ⟨_, rfl, nofun, (Level.Extends.refl level).congr fun b => by simp⟩
  | cons a rest ih =>
      have hedges := scanEdges_spec g wanted object (store.outgoing a) level
      rw [scanLevel_cons]
      cases hscan : g.scanEdges wanted object (store.outgoing a) level with
      | none =>
          rw [hscan] at hedges
          exact ⟨none, rfl, a, List.mem_cons_self, holds_iff_outgoing.mpr hedges⟩
      | some middle =>
          rw [hscan] at hedges
          have ha : ¬ g.Holds store wanted object a := by
            rw [holds_iff_outgoing]
            rintro ⟨t, ht, hgrants⟩
            rw [hedges.1 t ht] at hgrants
            cases hgrants
          obtain ⟨found?, hfound, hspec⟩ := ih middle
          refine ⟨found?, hfound, ?_⟩
          cases found? with
          | none =>
              obtain ⟨b, hb, hholds⟩ := hspec
              exact ⟨b, List.mem_cons_of_mem _ hb, hholds⟩
          | some found =>
              refine ⟨List.forall_mem_cons.mpr ⟨ha, hspec.1⟩, ?_⟩
              refine (hedges.2.trans hspec.2).congr fun b => ?_
              rw [← hop_iff_outgoing]
              simp

/-! ## The search -/

/-- What has been seen and does not belong to the present level has been looked at in vain, and
everything that it leads to has been seen too. -/
structure Explored (g : Graph) (store : TupleStore) (wanted : String) (object : Node)
    (level seen : List Node) : Prop where
  seen_of_mem : ∀ a ∈ level, a ∈ seen
  looked : ∀ a ∈ seen, a ∈ level ∨
    ¬ g.Holds store wanted object a ∧ ∀ b, g.Hop store a b → b ∈ seen

theorem Explored.start (g : Graph) (store : TupleStore) (wanted : String)
    (object subject : Node) :
    g.Explored store wanted object [subject] [subject] where
  seen_of_mem _ ha := ha
  looked _ ha := Or.inl ha

variable {level seen : List Node} {found : Level}

/-- After a level has been looked at in vain, its nodes count among those that have been. -/
theorem Explored.next (hexplored : g.Explored store wanted object level seen)
    (hnone : ∀ a ∈ level, ¬ g.Holds store wanted object a)
    (hextends : Level.Extends ⟨[], seen⟩ found fun b => ∃ a ∈ level, g.Hop store a b) :
    g.Explored store wanted object found.next found.seen ∧
      ∀ a ∈ seen, ¬ g.Holds store wanted object a ∧ ∀ b, g.Hop store a b → b ∈ found.seen := by
  have hlooked : ∀ a ∈ seen, ¬ g.Holds store wanted object a ∧
      ∀ b, g.Hop store a b → b ∈ found.seen := by
    intro a ha
    rcases hexplored.looked a ha with hlevel | ⟨hvain, hclosed⟩
    · exact ⟨hnone a hlevel, fun b hhop =>
        (hextends.seen_iff b).mpr (Or.inr ⟨a, hlevel, hhop⟩)⟩
    · exact ⟨hvain, fun b hhop => (hextends.seen_iff b).mpr (Or.inl (hclosed b hhop))⟩
  refine ⟨⟨fun b hb => ?_, fun b hb => ?_⟩, hlooked⟩
  · rcases (hextends.next_iff b).mp hb with hnil | ⟨-, hnew⟩
    · cases hnil
    · exact (hextends.seen_iff b).mpr (Or.inr hnew)
  · by_cases hold : b ∈ seen
    · exact Or.inr (hlooked b hold)
    · rcases (hextends.seen_iff b).mp hb with hseen | hnew
      · exact absurd hseen hold
      · exact Or.inl ((hextends.next_iff b).mpr (Or.inr ⟨hold, hnew⟩))

/-- The search comes to an end. It finds only what short walks from the present level lead to, and
it finds whatever short walks lead to from any node that has been seen. -/
theorem search_spec (hexplored : g.Explored store wanted object level seen) (depth : Nat) :
    ∃ allowed, g.search (.ofStore store) wanted object depth level seen = .ok allowed ∧
      (allowed = true → ∃ a ∈ level, ∃ n < depth, ∃ b,
        g.Walk store a n b ∧ g.Holds store wanted object b) ∧
      (allowed = false → ∀ a ∈ seen, ∀ n < depth, ∀ b,
        g.Walk store a n b → ¬ g.Holds store wanted object b) := by
  induction depth generalizing level seen with
  | zero => exact ⟨false, rfl, nofun, fun _ a _ n hn => absurd hn (Nat.not_lt_zero n)⟩
  | succ depth ih =>
      obtain ⟨found?, hscan, hspec⟩ :=
        scanLevel_spec g store wanted object level ⟨[], seen⟩
      rw [search, hscan]
      cases found? with
      | none =>
          obtain ⟨a, ha, hholds⟩ := hspec
          exact ⟨true, rfl, fun _ => ⟨a, ha, 0, Nat.succ_pos _, a, .stay a, hholds⟩, nofun⟩
      | some found =>
          obtain ⟨hnone, hextends⟩ := hspec
          obtain ⟨hnext, hlooked⟩ := hexplored.next hnone hextends
          obtain ⟨allowed, hsearch, hsound, hcomplete⟩ := ih hnext
          refine ⟨allowed, hsearch, fun hallowed => ?_, fun hdenied a ha n hn b hwalk => ?_⟩
          · obtain ⟨b, hb, n, hn, c, hwalk, hholds⟩ := hsound hallowed
            rcases (hextends.next_iff b).mp hb with hnil | ⟨-, a, ha, hhop⟩
            · cases hnil
            · exact ⟨a, ha, n + 1, Nat.succ_lt_succ hn, c, .hop hhop hwalk, hholds⟩
          -- a walk from a node that has been looked at goes on from a node that is seen now
          · cases hwalk with
            | stay => exact (hlooked a ha).1
            | hop hhop hrest =>
                exact hcomplete hdenied _ ((hlooked a ha).2 _ hhop) _ (Nat.lt_of_succ_lt_succ hn)
                  b hrest

/-! ## The check -/

theorem check_spec (g : Graph) (store : TupleStore) (subject object : Node) {wanted : String}
    (hwanted : Text.isBlankText wanted = false) :
    ∃ allowed, g.check (.ofStore store) subject wanted object = .ok ⟨allowed, localSource⟩ ∧
      (allowed = true ↔ g.Reaches store subject wanted object) := by
  obtain ⟨found, hsearch, hsound, hcomplete⟩ :=
    search_spec (.start g store wanted object subject) g.maxDepth
  have hdirect := holds_iff_relationsBetween g store wanted object subject
  have hcheck : g.check (.ofStore store) subject wanted object =
      if (store.relationsBetween subject object).any (g.hierarchy.implies · wanted) = true then
        .ok ⟨true, localSource⟩
      else (g.search (.ofStore store) wanted object g.maxDepth [subject] [subject]).map
        (⟨·, localSource⟩) := by
    unfold check
    rw [hwanted]
    rfl
  rw [hcheck]
  by_cases hholds : g.Holds store wanted object subject
  · rw [if_pos (hdirect.mp hholds)]
    exact ⟨true, rfl, fun _ => ⟨0, subject, Or.inl rfl, .stay subject, hholds⟩, fun _ => rfl⟩
  · rw [if_neg (mt hdirect.mpr hholds), hsearch]
    refine ⟨found, rfl, fun hfound => ?_, fun ⟨n, a, hlength, hwalk, ha⟩ => ?_⟩
    · obtain ⟨a, ha, n, hn, b, hwalk, hb⟩ := hsound hfound
      obtain rfl := List.mem_singleton.mp ha
      exact ⟨n, b, Or.inr hn, hwalk, hb⟩
    · cases found with
      | true => rfl
      | false =>
          rcases hlength with rfl | hlength
          · cases hwalk
            exact absurd ha hholds
          · exact absurd ha
              (hcomplete rfl subject (List.mem_singleton_self subject) n hlength a hwalk)

end Mandate.Relation.Graph
