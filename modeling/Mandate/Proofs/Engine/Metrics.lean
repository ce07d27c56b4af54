import Mandate.Engine.Metrics
import Mandate.Proofs.Table
import Mathlib.Data.List.Induction

/-! # Counts

Counts under two keys are what a sequence of pairs of keys comes to: under two keys stands how often
they have come together, and the total of an inner key is how often it has come at all.
-/

namespace Mandate

theorem outcomeName_injective : Function.Injective outcomeName := fun allow other heq => by
  revert heq
  cases allow <;> cases other <;> decide

end Mandate

namespace Mandate.Counts

/-- The number under two keys. -/
def count (counts : Counts) (outer inner : String) : Nat :=
  ((counts.get? outer).bind (·.get? inner)).getD 0

/-- The total under an inner key. -/
def total (counts : Counts) (inner : String) : Nat :=
  (counts.rows.map fun row => (row.2.get? inner).getD 0).sum

/-- The counts of pairs of keys that come one after the other. -/
def tally (pairs : List (String × String)) : Counts :=
  pairs.foldl (fun counts pair => counts.bump pair.1 pair.2) {}

theorem tally_concat (pairs : List (String × String)) (outer inner : String) :
    tally (pairs ++ [(outer, inner)]) = (tally pairs).bump outer inner := by
  rw [tally, List.foldl_append]
  rfl

theorem count_eq (counts : Counts) (outer inner : String) :
    counts.count outer inner = (((counts.get? outer).getD {}).get? inner).getD 0 := by
  unfold count
  cases counts.get? outer <;> rfl

/-- What is counted once more under two keys counts for these two and no others. -/
theorem count_bump (counts : Counts) (outer inner outer' inner' : String) :
    (counts.bump outer inner).count outer' inner' =
      counts.count outer' inner' + if (outer, inner) = (outer', inner') then 1 else 0 := by
  rw [count_eq, count_eq, bump]
  by_cases houter : outer' = outer
  · subst houter
    rw [Table.get?_modify_self, Option.getD_some]
    by_cases hinner : inner' = inner
    · subst hinner
      rw [Table.get?_modify_self, Option.getD_some, if_pos rfl]
    · rw [Table.get?_modify_of_ne _ hinner, if_neg fun heq => hinner (Prod.mk.inj heq).2.symm,
        Nat.add_zero]
  · rw [Table.get?_modify_of_ne _ houter, if_neg fun heq => houter (Prod.mk.inj heq).1.symm,
      Nat.add_zero]

theorem count_tally (pairs : List (String × String)) (outer inner : String) :
    (tally pairs).count outer inner = pairs.count (outer, inner) := by
  induction pairs using List.reverseRecOn with
  | nil => rfl
  | append_singleton pairs pair ih =>
      rw [tally_concat, count_bump, ih, List.count_append, List.count_singleton]
      simp only [beq_iff_eq]

theorem ordered_tally (pairs : List (String × String)) : (tally pairs).Ordered := by
  induction pairs using List.reverseRecOn with
  | nil => exact Table.Ordered.empty
  | append_singleton pairs pair ih =>
      rw [tally_concat]
      exact ih.modify _ _ _

theorem total_bump {counts : Counts} (hordered : counts.Ordered) (outer inner inner' : String) :
    (counts.bump outer inner).total inner' =
      counts.total inner' + if inner = inner' then 1 else 0 := by
  have hsum := Table.sum_insertRow hordered outer
    (((counts.get? outer).getD {}).modify inner 0 (· + 1))
    fun row : Table Nat => (row.get? inner').getD 0
  have hnew : (((((counts.get? outer).getD {}).modify inner 0 (· + 1)).get? inner').getD 0) =
      (((counts.get? outer).getD {}).get? inner').getD 0 + if inner = inner' then 1 else 0 := by
    by_cases hinner : inner' = inner
    · subst hinner
      rw [Table.get?_modify_self, Option.getD_some, if_pos rfl]
    · rw [Table.get?_modify_of_ne _ hinner, if_neg (Ne.symm hinner), Nat.add_zero]
  have hold : ((counts.rows.lookup outer).map fun row => (row.get? inner').getD 0).getD 0 =
      (((counts.get? outer).getD {}).get? inner').getD 0 := by
    change (Option.map _ (counts.get? outer)).getD 0 = _
    cases counts.get? outer <;> rfl
  have hrows : (counts.bump outer inner).rows = Table.insertRow outer
      (((counts.get? outer).getD {}).modify inner 0 (· + 1)) counts.rows := rfl
  rw [hnew, hold] at hsum
  unfold total
  rw [hrows]
  omega

theorem total_tally (pairs : List (String × String)) (inner : String) :
    (tally pairs).total inner = pairs.countP (·.2 == inner) := by
  induction pairs using List.reverseRecOn with
  | nil => rfl
  | append_singleton pairs pair ih =>
      rw [tally_concat, total_bump (ordered_tally pairs), ih, List.countP_append,
        List.countP_singleton]
      simp only [beq_iff_eq]

end Mandate.Counts

namespace Mandate.Metrics

theorem total_eq (m : Metrics) (outcome : String) :
    m.total outcome = m.decisionsByOrg.total outcome := by
  rw [Counts.total, List.sum_eq_foldl, List.foldl_map]
  rfl

/-- A token that is asked for counts once, as minted or as a failure. -/
theorem tokens_token (m : Metrics) (minted : Bool) :
    (m.token minted).tokensMinted + (m.token minted).tokenFailures =
      m.tokensMinted + m.tokenFailures + 1 := by
  cases minted with
  | true => exact Nat.add_right_comm _ _ _
  | false => rfl

theorem reasonCount_eq (m : Metrics) (outcome reason : String) :
    m.reasonCount outcome reason = m.reasons.count outcome reason := rfl

end Mandate.Metrics
