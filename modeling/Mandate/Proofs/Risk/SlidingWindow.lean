import Mandate.Proofs.Risk.Tracker
import Mathlib.Data.List.Induction

/-! # Signals over a sliding window

The signals of a caller are a function of the calls before, whatever was forgotten in between: the
score counts its requests in the window, and the flags are those that were raised last without
being taken back and have not ended.

This is shown in two steps. What a tracker forgets, it would not have told again, so it tells the
same as one that never forgets. And what such a tracker keeps is the history of the calls.
-/

namespace Mandate.Risk

/-! ## Calls -/

/-- What can be asked of a tracker. -/
inductive Call where
  | record (org agent : String) (moment : Nat)
  | read (org agent : String) (moment : Nat)
  | raise (org agent flag : String) (ends : Nat)
  | clear (org agent flag : String)
  deriving DecidableEq, Repr

namespace Call

def org : Call → String
  | record org _ _ => org
  | read org _ _ => org
  | raise org _ _ _ => org
  | clear org _ _ => org

/-- The moment of a call. Raising a flag and taking it back do not look at the clock. -/
def moment? : Call → Option Nat
  | record _ _ moment => some moment
  | read _ _ moment => some moment
  | raise _ _ _ _ => none
  | clear _ _ _ => none

/-- Whether a request of a caller is recorded. -/
def records (org agent : String) : Call → Bool
  | record org' agent' _ => org' = org && agent' = agent
  | _ => false

/-- Whether a flag of a caller is raised or taken back. -/
def settles (org agent flag : String) : Call → Prop
  | raise org' agent' flag' _ => org' = org ∧ agent' = agent ∧ flag' = flag
  | clear org' agent' flag' => org' = org ∧ agent' = agent ∧ flag' = flag
  | _ => False

end Call

/-- The moments at which requests of a caller were recorded. -/
def moments (org agent : String) (history : List Call) : List Nat :=
  (history.filter (Call.records org agent)).filterMap Call.moment?

/-- A flag was raised until some moment, and neither raised again nor taken back since. -/
def Raised (org agent flag : String) (ends : Nat) (history : List Call) : Prop :=
  ∃ before after, history = before ++ .raise org agent flag ends :: after ∧
    ∀ call ∈ after, ¬ call.settles org agent flag

namespace Tracker

/-- The tracker after a call. -/
def call (t : Tracker) : Call → Tracker
  | .record org agent moment => t.record org agent moment
  | .read org agent moment => (t.signals org agent moment).2
  | .raise org agent flag ends => t.raiseFlag org agent flag ends
  | .clear org agent flag => t.clearFlag org agent flag

/-- The tracker after a call if it never forgets what is over. -/
def keep (t : Tracker) : Call → Tracker
  | .record org agent moment => t.hit (key org agent) moment
  | .read _ _ _ => t
  | .raise org agent flag ends => t.raiseFlag org agent flag ends
  | .clear org agent flag => t.clearFlag org agent flag

variable {t t' : Tracker} {key org agent flag : String} {now later ends window threshold : Nat}
  {history : List Call}

/-! ## Flags -/

theorem standing_insert {flags : Table Nat} (hordered : flags.Ordered) (flag : String)
    (ends now : Nat) :
    standing now (flags.insert flag ends) =
      if now < ends then (standing now flags).insert flag ends
      else (standing now flags).erase flag := by
  have hleft : (standing now (flags.insert flag ends)).Ordered :=
    (hordered.insert flag ends).filter _
  unfold standing at hleft ⊢
  split
  next hstands =>
    refine hleft.ext ((hordered.filter _).insert flag ends) fun other => ?_
    rw [(hordered.insert flag ends).get?_filter, Table.get?_insert, Table.get?_insert,
      hordered.get?_filter]
    split
    · simp [hstands]
    · rfl
  next hover =>
    refine hleft.ext ((hordered.filter _).erase flag) fun other => ?_
    rw [(hordered.insert flag ends).get?_filter, Table.get?_insert]
    split
    next heq =>
      subst heq
      rw [Table.get?_erase_self, Option.filter_some, if_neg (by simpa using hover)]
    next hne => rw [Table.get?_erase_of_ne _ hne, hordered.get?_filter]

theorem standing_erase (flags : Table Nat) (flag : String) (now : Nat) :
    standing now (flags.erase flag) = (standing now flags).erase flag := by
  unfold standing Table.filter Table.erase
  rw [Table.mk.injEq, List.filter_filter, List.filter_filter]
  exact List.filter_congr fun _ _ => Bool.and_comm _ _

theorem alerts_raiseFlag (t : Tracker) (query org agent flag : String) (ends : Nat) :
    ((t.raiseFlag org agent flag ends).alerts.get? query).getD {} =
      if query = Tracker.key org agent then ((t.alerts.get? query).getD {}).insert flag ends
      else (t.alerts.get? query).getD {} := by
  unfold raiseFlag
  split
  next heq =>
    subst heq
    rw [Table.get?_modify_self, Option.getD_some]
  next hne => rw [Table.get?_modify_of_ne _ hne]

theorem alerts_clearFlag (t : Tracker) (query org agent flag : String) :
    ((t.clearFlag org agent flag).alerts.get? query).getD {} =
      if query = Tracker.key org agent then ((t.alerts.get? query).getD {}).erase flag
      else (t.alerts.get? query).getD {} := by
  unfold clearFlag
  dsimp only
  by_cases hquery : query = Tracker.key org agent
  · subst hquery
    rw [if_pos rfl]
    cases hflags : t.alerts.get? (Tracker.key org agent) with
    | none =>
        dsimp only
        rw [hflags]
        rfl
    | some flags =>
        dsimp only
        split
        next hempty =>
          rw [Table.get?_erase_self]
          exact (eq_empty_of_not_kept (by simp [hempty])).symm
        next => rw [Table.get?_insert_self, Option.getD_some, Option.getD_some]
  · rw [if_neg hquery]
    split
    · rfl
    · dsimp only
      split
      · rw [Table.get?_erase_of_ne _ hquery]
      · rw [Table.get?_insert_of_ne _ hquery]

@[simp] theorem hits_clearFlag (t : Tracker) (org agent flag : String) :
    (t.clearFlag org agent flag).hits = t.hits := by
  unfold clearFlag
  dsimp only
  split <;> rfl

@[simp] theorem window_clearFlag (t : Tracker) (org agent flag : String) :
    (t.clearFlag org agent flag).window = t.window := by
  unfold clearFlag
  dsimp only
  split <;> rfl

@[simp] theorem threshold_clearFlag (t : Tracker) (org agent flag : String) :
    (t.clearFlag org agent flag).threshold = t.threshold := by
  unfold clearFlag
  dsimp only
  split <;> rfl

/-! ## Order -/

/-- The flags of every key stand in order, too. -/
structure WellOrdered (t : Tracker) : Prop extends Ordered t where
  flags : ∀ key, ((t.alerts.get? key).getD {}).Ordered

theorem WellOrdered.start (window threshold : Nat) : (Tracker.start window threshold).WellOrdered :=
  ⟨.start window threshold, fun _ => .empty⟩

theorem WellOrdered.raised (hordered : t.WellOrdered) (key : String) (now : Nat) :
    (t.raised key now).Ordered := (hordered.flags key).filter _

theorem WellOrdered.hit (hordered : t.WellOrdered) (key : String) (now : Nat) :
    (t.hit key now).WellOrdered :=
  ⟨⟨hordered.hits.modify _ _ _, hordered.alerts⟩, hordered.flags⟩

theorem WellOrdered.counted (hordered : t.WellOrdered) (now : Nat) :
    (t.counted now).WellOrdered := by
  refine ⟨hordered.toOrdered.counted now, fun key => ?_⟩
  unfold Tracker.counted
  split
  · rw [alerts_sweep hordered.toOrdered.numbered]
    exact hordered.raised key now
  · exact hordered.flags key

theorem WellOrdered.prune (hordered : t.WellOrdered) (read : String) (now : Nat) :
    (t.prune read now).WellOrdered := by
  refine ⟨hordered.toOrdered.prune read now, fun key => ?_⟩
  rw [alerts_prune]
  split
  · exact hordered.raised key now
  · exact hordered.flags key

theorem WellOrdered.raiseFlag (hordered : t.WellOrdered) (org agent flag : String) (ends : Nat) :
    (t.raiseFlag org agent flag ends).WellOrdered := by
  refine ⟨⟨hordered.hits, hordered.alerts.modify _ _ _⟩, fun key => ?_⟩
  rw [alerts_raiseFlag]
  split
  · exact (hordered.flags key).insert flag ends
  · exact hordered.flags key

theorem WellOrdered.clearFlag (hordered : t.WellOrdered) (org agent flag : String) :
    (t.clearFlag org agent flag).WellOrdered := by
  refine ⟨⟨?_, ?_⟩, fun key => ?_⟩
  · rw [hits_clearFlag]
    exact hordered.hits
  · unfold Tracker.clearFlag
    dsimp only
    split
    · exact hordered.alerts
    · dsimp only
      split
      · exact hordered.alerts.erase _
      · exact hordered.alerts.insert _ _
  · rw [alerts_clearFlag]
    split
    · exact (hordered.flags key).erase flag
    · exact hordered.flags key

theorem WellOrdered.call (hordered : t.WellOrdered) (call : Call) :
    (t.call call).WellOrdered := by
  cases call with
  | record org agent moment => exact (hordered.counted moment).hit _ moment
  | read org agent moment => exact hordered.prune _ moment
  | raise org agent flag ends => exact hordered.raiseFlag org agent flag ends
  | clear org agent flag => exact hordered.clearFlag org agent flag

theorem WellOrdered.keep (hordered : t.WellOrdered) (call : Call) :
    (t.keep call).WellOrdered := by
  cases call with
  | record org agent moment => exact hordered.hit _ moment
  | read org agent moment => exact hordered
  | raise org agent flag ends => exact hordered.raiseFlag org agent flag ends
  | clear org agent flag => exact hordered.clearFlag org agent flag

theorem WellOrdered.foldl_call (hordered : t.WellOrdered) (history : List Call) :
    (history.foldl Tracker.call t).WellOrdered := by
  induction history generalizing t with
  | nil => exact hordered
  | cons head rest ih => exact ih (hordered.call head)

theorem WellOrdered.foldl_keep (hordered : t.WellOrdered) (history : List Call) :
    (history.foldl Tracker.keep t).WellOrdered := by
  induction history generalizing t with
  | nil => exact hordered
  | cons head rest ih => exact ih (hordered.keep head)

/-! ## What is forgotten does not show -/

theorem SameFor.raiseFlag (hsame : SameFor key now t t') (hordered : t.WellOrdered)
    (hordered' : t'.WellOrdered) (org agent flag : String) (ends : Nat) :
    SameFor key now (t.raiseFlag org agent flag ends) (t'.raiseFlag org agent flag ends) where
  window := hsame.window
  threshold := hsame.threshold
  recent later hle := hsame.recent later hle
  raised later hle := by
    have hraised := hsame.raised later hle
    unfold Tracker.raised at hraised ⊢
    rw [alerts_raiseFlag, alerts_raiseFlag]
    split
    · rw [standing_insert (hordered.flags key), standing_insert (hordered'.flags key), hraised]
    · exact hraised

theorem SameFor.clearFlag (hsame : SameFor key now t t') (org agent flag : String) :
    SameFor key now (t.clearFlag org agent flag) (t'.clearFlag org agent flag) where
  window := by simp [hsame.window]
  threshold := by simp [hsame.threshold]
  recent later hle := by
    have hrecent := hsame.recent later hle
    unfold Tracker.recent at hrecent ⊢
    simpa using hrecent
  raised later hle := by
    have hraised := hsame.raised later hle
    unfold Tracker.raised at hraised ⊢
    rw [alerts_clearFlag, alerts_clearFlag]
    split
    · rw [standing_erase, standing_erase, hraised]
    · exact hraised

/-- A call leaves a tracker that forgets and one that does not with the same to tell. -/
theorem SameFor.call (hsame : SameFor key now t t') (hordered : t.WellOrdered)
    (hordered' : t'.WellOrdered) {call : Call} (hmoment : ∀ moment ∈ call.moment?, moment = now) :
    SameFor key now (t.keep call) (t'.call call) := by
  cases call with
  | record org agent moment =>
      obtain rfl := hmoment moment rfl
      have hcounted := hsame.trans (sameFor_counted hordered'.toOrdered key moment)
      by_cases hkey : key = Tracker.key org agent
      · subst hkey
        exact hcounted.hit
      · have hkept := (sameFor_hit_of_ne t hkey moment).symm
        exact (hkept.trans hcounted).trans (sameFor_hit_of_ne _ hkey moment)
  | read org agent moment =>
      obtain rfl := hmoment moment rfl
      exact hsame.trans (sameFor_prune t' key _ moment)
  | raise org agent flag ends => exact hsame.raiseFlag hordered hordered' org agent flag ends
  | clear org agent flag => exact hsame.clearFlag org agent flag

/-- A tracker tells the same as one that never forgets, at the last moment and from then on. -/
theorem sameFor_foldl (hordered : t.WellOrdered)
    (htimes : (history.filterMap Call.moment? ++ [now]).Pairwise (· ≤ ·)) (key : String) :
    SameFor key now (history.foldl keep t) (history.foldl call t) := by
  induction history using List.reverseRecOn generalizing now with
  | nil => exact .refl key now t
  | append_singleton before last ih =>
      rw [List.foldl_append, List.foldl_append]
      have hkept := hordered.foldl_keep before
      have hcalled := hordered.foldl_call before
      rw [List.filterMap_append, List.append_assoc] at htimes
      cases hlast : last.moment? with
      | none =>
          rw [List.filterMap_cons_none hlast, List.filterMap_nil, List.nil_append] at htimes
          exact (ih htimes).call hkept hcalled (by simp [hlast])
      | some moment =>
          -- the tracker is compared when the call is made, and the clock runs on from there
          rw [List.filterMap_cons_some hlast, List.filterMap_nil] at htimes
          have hbefore : (before.filterMap Call.moment? ++ [moment]).Pairwise (· ≤ ·) :=
            htimes.sublist (by simp)
          have hle : moment ≤ now := by
            have hsuffix := htimes.sublist (List.sublist_append_right _ _)
            simpa using hsuffix
          exact ((ih hbefore).call hkept hcalled (by simp [hlast])).mono hle

/-! ## What is kept is the history -/

theorem moments_append (org agent : String) (history more : List Call) :
    moments org agent (history ++ more) = moments org agent history ++ moments org agent more := by
  simp [moments]

theorem raised_append_singleton {last : Call} :
    Raised org agent flag ends (history ++ [last]) ↔
      last = .raise org agent flag ends ∨
        (¬ last.settles org agent flag ∧ Raised org agent flag ends history) := by
  constructor
  · rintro ⟨before, after, heq, huntouched⟩
    cases after using List.reverseRecOn with
    | nil => exact .inl (List.append_inj_right' heq rfl |> List.singleton_inj.mp)
    | append_singleton after other =>
        rw [← List.cons_append, ← List.append_assoc] at heq
        obtain ⟨hhistory, hlast⟩ := List.append_inj' heq rfl
        obtain rfl := List.singleton_inj.mp hlast
        refine .inr ⟨huntouched last (by simp), before, after, hhistory, fun call hcall => ?_⟩
        exact huntouched call (List.mem_append_left _ hcall)
  · rintro (rfl | ⟨hlast, before, after, rfl, huntouched⟩)
    · exact ⟨history, [], rfl, List.forall_mem_nil _⟩
    · refine ⟨before, after ++ [last], by simp, fun call hcall => ?_⟩
      rcases List.mem_append.mp hcall with hcall | hcall
      · exact huntouched call hcall
      · rwa [List.mem_singleton.mp hcall]

section

variable {u : Uuid} (horg : Uuid.ofText? org = some u)

include horg

/-- The key of a call is that of a caller exactly if the call is about this caller. -/
theorem key_eq_iff {org' agent' : String} (horg' : (Uuid.ofText? org').isSome) :
    Tracker.key org agent = Tracker.key org' agent' ↔ org' = org ∧ agent' = agent := by
  obtain ⟨u', hread⟩ := Option.isSome_iff_exists.mp horg'
  constructor
  · intro heq
    exact eq_of_key_eq hread horg heq.symm
  · rintro ⟨rfl, rfl⟩
    rfl

theorem hits_keep {call : Call} (hcall : (Uuid.ofText? call.org).isSome) (t : Tracker) :
    ((t.keep call).hits.get? (Tracker.key org agent)).getD [] =
      (t.hits.get? (Tracker.key org agent)).getD [] ++ moments org agent [call] := by
  cases call with
  | record org' agent' moment =>
      change (Uuid.ofText? org').isSome at hcall
      change ((t.hits.modify (Tracker.key org' agent') [] (· ++ [moment])).get? _).getD [] = _
      by_cases hkey : Tracker.key org agent = Tracker.key org' agent'
      · obtain ⟨rfl, rfl⟩ := (key_eq_iff horg hcall).mp hkey
        rw [Table.get?_modify_self, Option.getD_some]
        simp [moments, Call.records, Call.moment?]
      · have hother : ¬ (org' = org ∧ agent' = agent) := mt (key_eq_iff horg hcall).mpr hkey
        rw [Table.get?_modify_of_ne _ hkey]
        simp [moments, Call.records, hother]
  | read org' agent' moment => simp [keep, moments, Call.records]
  | raise org' agent' flag ends => simp [keep, Tracker.raiseFlag, moments, Call.records]
  | clear org' agent' flag => simp [keep, moments, Call.records]

theorem get?_alerts_keep {call : Call} (hcall : (Uuid.ofText? call.org).isSome) (t : Tracker) :
    ((((t.keep call).alerts.get? (Tracker.key org agent)).getD {}).get? flag = some ends ↔
      call = .raise org agent flag ends ∨
        (¬ call.settles org agent flag ∧
          ((t.alerts.get? (Tracker.key org agent)).getD {}).get? flag = some ends)) := by
  cases call with
  | record org' agent' moment => simp [keep, hit, Call.settles]
  | read org' agent' moment => simp [keep, Call.settles]
  | raise org' agent' flag' ends' =>
      change (Uuid.ofText? org').isSome at hcall
      rw [keep, alerts_raiseFlag]
      by_cases hkey : Tracker.key org agent = Tracker.key org' agent'
      · obtain ⟨rfl, rfl⟩ := (key_eq_iff horg hcall).mp hkey
        rw [if_pos rfl, Table.get?_insert]
        by_cases hflag : flag = flag'
        · simp [hflag, Call.settles]
        · simp [hflag, Ne.symm hflag, Call.settles]
      · have hother : ¬ (org' = org ∧ agent' = agent) := mt (key_eq_iff horg hcall).mpr hkey
        have hsettles : ¬ (Call.raise org' agent' flag' ends').settles org agent flag :=
          fun hsame => hother ⟨hsame.1, hsame.2.1⟩
        have hne : Call.raise org' agent' flag' ends' ≠ .raise org agent flag ends := by
          rintro ⟨⟩
          exact hother ⟨rfl, rfl⟩
        rw [if_neg hkey, or_iff_right hne, and_iff_right hsettles]
  | clear org' agent' flag' =>
      change (Uuid.ofText? org').isSome at hcall
      rw [keep, alerts_clearFlag]
      by_cases hkey : Tracker.key org agent = Tracker.key org' agent'
      · obtain ⟨rfl, rfl⟩ := (key_eq_iff horg hcall).mp hkey
        rw [if_pos rfl]
        by_cases hflag : flag = flag'
        · simp [hflag, Call.settles]
        · rw [Table.get?_erase_of_ne _ hflag]
          simp [Ne.symm hflag, Call.settles]
      · have hother : ¬ (org' = org ∧ agent' = agent) := mt (key_eq_iff horg hcall).mpr hkey
        have hsettles : ¬ (Call.clear org' agent' flag').settles org agent flag :=
          fun hsame => hother ⟨hsame.1, hsame.2.1⟩
        rw [if_neg hkey, or_iff_right Call.noConfusion, and_iff_right hsettles]

/-- A tracker that never forgets keeps the moments of all requests of a caller. -/
theorem hits_foldl_keep (hcalls : ∀ call ∈ history, (Uuid.ofText? call.org).isSome) :
    ((history.foldl keep (start window threshold)).hits.get? (Tracker.key org agent)).getD [] =
      moments org agent history := by
  induction history using List.reverseRecOn with
  | nil => rfl
  | append_singleton before last ih =>
      obtain ⟨hbefore, hlast⟩ := List.forall_mem_append.mp hcalls
      rw [List.foldl_append, moments_append, ← ih hbefore]
      exact hits_keep horg (hlast last List.mem_cons_self) _

/-- It keeps every flag of a caller that was raised last, until it is taken back. -/
theorem get?_alerts_foldl_keep (hcalls : ∀ call ∈ history, (Uuid.ofText? call.org).isSome) :
    (((history.foldl keep (start window threshold)).alerts.get? (Tracker.key org agent)).getD
        {}).get? flag = some ends ↔ Raised org agent flag ends history := by
  induction history using List.reverseRecOn with
  | nil => exact iff_of_false nofun fun ⟨before, after, heq, _⟩ => by simp at heq
  | append_singleton before last ih =>
      obtain ⟨hbefore, hlast⟩ := List.forall_mem_append.mp hcalls
      rw [List.foldl_append, raised_append_singleton, ← ih hbefore]
      exact get?_alerts_keep horg (hlast last List.mem_cons_self) _

end

/-! ## Signals -/

/-- While time passes, the requests in the window are the last ones. -/
theorem within_eq_filter {recorded : List Nat} (hsorted : recorded.Pairwise (· ≤ ·))
    (window now : Nat) :
    within window now recorded = recorded.filter fun moment => now - moment < window := by
  unfold within
  induction recorded with
  | nil => rfl
  | cons moment rest ih =>
      obtain ⟨hfirst, hrest⟩ := List.pairwise_cons.mp hsorted
      by_cases hover : window ≤ now - moment
      · rw [List.dropWhile_cons_of_pos (by simpa using hover), ih hrest,
          List.filter_cons_of_neg (by simpa using hover)]
      · have hall : ∀ other ∈ moment :: rest, decide (now - other < window) = true := by
          intro other hother
          have hle : moment ≤ other := by
            rcases List.mem_cons.mp hother with rfl | hother
            · exact Nat.le_refl _
            · exact hfirst other hother
          rw [decide_eq_true_eq]
          omega
        rw [List.dropWhile_cons_of_neg (by simpa using hover), List.filter_eq_self.mpr hall]

theorem window_foldl_keep (t : Tracker) (history : List Call) :
    (history.foldl keep t).window = t.window ∧ (history.foldl keep t).threshold = t.threshold := by
  induction history generalizing t with
  | nil => exact ⟨rfl, rfl⟩
  | cons head rest ih =>
      obtain ⟨hwindow, hthreshold⟩ := ih (t.keep head)
      rw [List.foldl_cons, hwindow, hthreshold]
      cases head <;> simp [keep, hit, Tracker.raiseFlag]

theorem mem_keys_raised_iff (hordered : t.WellOrdered) : flag ∈ (t.raised key now).keys ↔
    ∃ ends, ((t.alerts.get? key).getD {}).get? flag = some ends ∧ now < ends := by
  rw [(hordered.raised key now).mem_keys_iff, Tracker.raised, standing,
    (hordered.flags key).get?_filter]
  simp only [Option.filter_eq_some_iff, decide_eq_true_eq]

theorem sorted_moments (org agent : String) (htimes : (history.filterMap Call.moment?).Pairwise
    (· ≤ ·)) : (moments org agent history).Pairwise (· ≤ ·) :=
  htimes.sublist (List.filter_sublist.filterMap _)

/-- The signals of a caller count its requests in the window and list its flags that stand, after
any calls that are made as time passes. A tracker that never forgets gives the same. -/
theorem signals_slide (window threshold : Nat)
    (hcalls : ∀ call ∈ history, (Uuid.ofText? call.org).isSome)
    (htimes : (history.filterMap Call.moment? ++ [now]).Pairwise (· ≤ ·))
    (horg : (Uuid.ofText? org).isSome) (agent : String) :
    let length := if window = 0 then 30000 else window
    let limit := if threshold = 0 then 50 else threshold
    let count := ((moments org agent history).filter fun moment => now - moment < length).length
    ∃ flags : List String, flags.Pairwise (· < ·) ∧
      (∀ flag, flag ∈ flags ↔ ∃ ends, Raised org agent flag ends history ∧ now < ends) ∧
      ((history.foldl call (start window threshold)).signals org agent now).1 =
        ⟨min 100 (100 * count / limit),
          if limit ≤ count then rateSpike :: flags.filter (· != rateSpike) else flags⟩ ∧
      ((history.foldl keep (start window threshold)).signals org agent now).1 =
        ((history.foldl call (start window threshold)).signals org agent now).1 := by
  intro length limit count
  obtain ⟨u, horg⟩ := Option.isSome_iff_exists.mp horg
  have hforgets := (sameFor_foldl (WellOrdered.start window threshold) htimes
    (Tracker.key org agent)).signals_eq
  have hordered := (WellOrdered.start window threshold).foldl_keep history
  refine ⟨_, (hordered.raised (Tracker.key org agent) now).sorted_keys, fun flag => ?_, ?_,
    hforgets.symm⟩
  · simp only [mem_keys_raised_iff hordered, get?_alerts_foldl_keep horg hcalls]
  · obtain ⟨hwindow, hthreshold⟩ := window_foldl_keep (start window threshold) history
    have hsorted := sorted_moments org agent (htimes.sublist (List.sublist_append_left _ _))
    have hcount : ((history.foldl keep (start window threshold)).recent
        (Tracker.key org agent) now).length = count := by
      rw [recent, hwindow, hits_foldl_keep horg hcalls, within_eq_filter hsorted]
      rfl
    have hlimit : (history.foldl keep (start window threshold)).threshold = limit := hthreshold
    rw [hforgets, signals]
    dsimp only
    rw [hcount, signalsOf, score, hlimit, Nat.mul_comm count, Nat.min_comm]
    split <;> rfl

/-- Of two requests the first has left the window, and a flag stands that was raised in between. -/
theorem geo_anomaly_stands :
    let org := "00000000-0000-0000-0000-000000000001"
    let history := [.record org "agent" 0, .raise org "agent" "geo_anomaly" 50000,
      .read org "agent" 10000, .record org "agent" 20000]
    let signals := ((history.foldl call (start 0 2)).signals org "agent" 40000).1
    signals.score = 50 ∧ "geo_anomaly" ∈ signals.flags := by
  intro org history
  have horg : (Uuid.ofText? org).isSome := by decide +kernel
  have horgs : ∀ call ∈ history, call.org = org := by simp [history, Call.org]
  have hcalls : ∀ call ∈ history, (Uuid.ofText? call.org).isSome := by
    intro call hcall
    rwa [horgs call hcall]
  have htimes : (history.filterMap Call.moment? ++ [40000]).Pairwise (· ≤ ·) := by decide
  obtain ⟨flags, -, hmem, hsignals, -⟩ := signals_slide 0 2 hcalls htimes horg "agent"
  have hraised : Raised org "agent" "geo_anomaly" 50000 history := by
    refine ⟨[.record org "agent" 0],
      [.read org "agent" 10000, .record org "agent" 20000], rfl, fun call hcall => ?_⟩
    rcases List.mem_pair.mp hcall with rfl | rfl <;> exact id
  have hcount : ((moments org "agent" history).filter fun moment => 40000 - moment < 30000) =
      [20000] := by decide +kernel
  simp only [if_true, hcount] at hsignals
  dsimp only
  rw [hsignals]
  exact ⟨rfl, (hmem "geo_anomaly").mpr ⟨50000, hraised, by decide⟩⟩

end Tracker

end Mandate.Risk
