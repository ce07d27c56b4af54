import Mandate.Relation.Reach

/-! # Searches that find nothing

A search comes to nothing if no stored tuple grants what is wanted, and also if it starts at a
node that is the subject of no tuple.
-/

namespace Mandate.Relation.Graph

variable {g : Graph} {store : TupleStore} {wanted : String} {object : Node}

theorem scanEdges_of_no_grant {edges : List Tuple}
    (hedges : ∀ edge ∈ edges, g.grants wanted object edge = false) (level : Level) :
    ∃ found, g.scanEdges wanted object edges level = some found := by
  induction edges generalizing level with
  | nil => exact ⟨level, rfl⟩
  | cons edge rest ih =>
      rw [scanEdges, hedges edge List.mem_cons_self]
      exact ih (fun other hother => hedges other (List.mem_cons_of_mem _ hother)) _

theorem scanLevel_of_no_grant (hstore : ∀ edge ∈ store.tuples, g.grants wanted object edge = false)
    (nodes : List Node) (level : Level) :
    ∃ found, g.scanLevel (.ofStore store) wanted object nodes level = .ok (some found) := by
  induction nodes generalizing level with
  | nil => exact ⟨level, rfl⟩
  | cons node rest ih =>
      have hedges : ∀ edge ∈ store.outgoing node, g.grants wanted object edge = false :=
        fun edge hedge => hstore edge (List.mem_filter.mp hedge).1
      obtain ⟨found, hfound⟩ := scanEdges_of_no_grant hedges level
      obtain ⟨last, hlast⟩ := ih found
      refine ⟨last, ?_⟩
      rw [← hlast]
      simp [scanLevel, TupleSource.ofStore, bind, Except.bind, hfound]

theorem search_of_no_grant (hstore : ∀ edge ∈ store.tuples, g.grants wanted object edge = false)
    (depth : Nat) (level seen : List Node) :
    g.search (.ofStore store) wanted object depth level seen = .ok false := by
  -- the next level may hold any nodes, so the induction is for all levels
  induction depth generalizing level seen with
  | zero => rfl
  | succ depth ih =>
      obtain ⟨found, hfound⟩ := scanLevel_of_no_grant hstore level ⟨[], seen⟩
      rw [search, hfound]
      exact ih found.next found.seen

theorem search_nil (depth : Nat) (seen : List Node) :
    g.search (.ofStore store) wanted object depth [] seen = .ok false := by
  induction depth generalizing seen with
  | zero => rfl
  | succ depth ih => exact ih seen

theorem search_of_isolated {subject : Node} (hisolated : store.outgoing subject = [])
    (depth : Nat) (seen : List Node) :
    g.search (.ofStore store) wanted object depth [subject] seen = .ok false := by
  cases depth with
  | zero => rfl
  | succ depth =>
      have hlevel : g.scanLevel (.ofStore store) wanted object [subject] ⟨[], seen⟩ =
          .ok (some ⟨[], seen⟩) := by
        simp [scanLevel, TupleSource.ofStore, bind, Except.bind, hisolated, scanEdges]
      rw [search, hlevel]
      exact search_nil depth seen

/-- Without a direct relation the search decides. -/
theorem check_of_no_direct {subject : Node} {allowed : Bool}
    (hwanted : Text.isBlankText wanted = false)
    (hdirect : store.relationsBetween subject object = [])
    (hsearch : g.search (.ofStore store) wanted object g.maxDepth [subject] [subject] =
      .ok allowed) :
    g.check (.ofStore store) subject wanted object = .ok ⟨allowed, localSource⟩ := by
  have hanswer : (TupleSource.ofStore store).relationsBetween subject object = .ok [] :=
    congrArg Except.ok hdirect
  simp [check, hwanted, hanswer, hsearch, bind, Except.bind, pure, Except.pure]

end Mandate.Relation.Graph
