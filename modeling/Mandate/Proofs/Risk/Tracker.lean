import Mandate.Proofs.Table
import Mandate.Proofs.Text.Identifiers
import Mandate.Risk

/-! # What a tracker tells of a key

What has left the window at some moment, and a flag that has ended, is over at every later moment
too. So forgetting it does not show, whether it is done when a key is read or in a sweep over all
keys, and what is recorded for one caller tells nothing of any other.
-/

namespace Mandate

/-! ## Keys of callers -/

namespace Risk.Tracker

/-- Callers with one key are the same, in whatever form their organisations are written. -/
theorem eq_of_key_eq {org org' agent agent' : String} {u u' : Uuid}
    (horg : Uuid.ofText? org = some u) (horg' : Uuid.ofText? org' = some u')
    (heq : key org agent = key org' agent') : org = org' ∧ agent = agent' := by
  have hchars : org.toList ++ ':' :: agent.toList = org'.toList ++ ':' :: agent'.toList := by
    have htexts := congrArg String.toList heq
    simp only [key, String.toList_append, List.append_assoc] at htexts
    exact htexts
  obtain ⟨horgs, hagents⟩ := Uuid.eq_of_append_colon horg horg' hchars
  exact ⟨horgs, String.toList_injective hagents⟩

theorem key_injective {org org' : Uuid} {agent agent' : String}
    (heq : key org.text agent = key org'.text agent') : org = org' ∧ agent = agent' := by
  obtain ⟨horg, hagent⟩ := eq_of_key_eq (Uuid.ofText?_text org) (Uuid.ofText?_text org') heq
  exact ⟨Uuid.text_injective horg, hagent⟩

/-! ## What is over stays over -/

variable {t t' t'' : Tracker} {now later : Nat}

theorem within_within (window : Nat) (hle : now ≤ later) (moments : List Nat) :
    within window later (within window now moments) = within window later moments := by
  unfold within
  induction moments with
  | nil => rfl
  | cons moment rest ih =>
      by_cases hover : window ≤ now - moment
      · have hstill : window ≤ later - moment := by omega
        rw [List.dropWhile_cons_of_pos (by simpa using hover), ih,
          List.dropWhile_cons_of_pos (by simpa using hstill)]
      · rw [List.dropWhile_cons_of_neg (by simpa using hover)]

/-- What is in the window of a longer list depends on what is in the window of a shorter one. -/
theorem within_append (window now : Nat) (moments more : List Nat) :
    within window now (moments ++ more) =
      if (within window now moments).isEmpty then within window now more
      else within window now moments ++ more :=
  List.dropWhile_append

theorem standing_standing (hle : now ≤ later) (flags : Table Nat) :
    standing later (standing now flags) = standing later flags := by
  unfold standing Table.filter
  rw [Table.mk.injEq, List.filter_filter]
  refine List.filter_congr fun row _ => ?_
  simp only [Bool.and_eq_left_iff_imp, decide_eq_true_eq]
  omega

/-! ## Trackers that tell the same -/

/-- Two trackers tell the same of a key at every moment from now on. -/
structure SameFor (key : String) (now : Nat) (t t' : Tracker) : Prop where
  window : t'.window = t.window
  threshold : t'.threshold = t.threshold
  recent : ∀ later, now ≤ later → t'.recent key later = t.recent key later
  raised : ∀ later, now ≤ later → t'.raised key later = t.raised key later

variable {key : String}

theorem SameFor.refl (key : String) (now : Nat) (t : Tracker) : SameFor key now t t :=
  ⟨rfl, rfl, fun _ _ => rfl, fun _ _ => rfl⟩

theorem SameFor.symm (hsame : SameFor key now t t') : SameFor key now t' t where
  window := hsame.window.symm
  threshold := hsame.threshold.symm
  recent later hle := (hsame.recent later hle).symm
  raised later hle := (hsame.raised later hle).symm

theorem SameFor.trans (hone : SameFor key now t t') (hother : SameFor key now t' t'') :
    SameFor key now t t'' where
  window := hother.window.trans hone.window
  threshold := hother.threshold.trans hone.threshold
  recent later hle := (hother.recent later hle).trans (hone.recent later hle)
  raised later hle := (hother.raised later hle).trans (hone.raised later hle)

theorem SameFor.mono (hsame : SameFor key now t t') (hle : now ≤ later) :
    SameFor key later t t' where
  window := hsame.window
  threshold := hsame.threshold
  recent moment hmoment := hsame.recent moment (hle.trans hmoment)
  raised moment hmoment := hsame.raised moment (hle.trans hmoment)

/-- It does not show if no more is forgotten of a key than what is over. -/
theorem sameFor_of_forgotten (t t' : Tracker) (hwindow : t'.window = t.window)
    (hthreshold : t'.threshold = t.threshold)
    (hhits : (t'.hits.get? key).getD [] = t.recent key now ∨
      (t'.hits.get? key).getD [] = (t.hits.get? key).getD [])
    (halerts : (t'.alerts.get? key).getD {} = t.raised key now ∨
      (t'.alerts.get? key).getD {} = (t.alerts.get? key).getD {}) :
    SameFor key now t t' where
  window := hwindow
  threshold := hthreshold
  recent later hle := by
    rw [recent, hwindow]
    rcases hhits with hforgotten | hsame
    · rw [hforgotten, recent, within_within _ hle]
      rfl
    · rw [hsame]
      rfl
  raised later hle := by
    rw [raised]
    rcases halerts with hforgotten | hsame
    · rw [hforgotten, raised, standing_standing hle]
      rfl
    · rw [hsame]
      rfl

/-- The rows of a tracker stand in the order of their keys. -/
structure Ordered (t : Tracker) : Prop where
  hits : t.hits.Ordered
  alerts : t.alerts.Ordered

theorem Ordered.start (window threshold : Nat) : (Tracker.start window threshold).Ordered :=
  ⟨.empty, .empty⟩

/-- It does not show if what is the same as nothing is dropped. -/
theorem getD_filter {α : Type} {nothing : α} {keep : α → Bool}
    (hdropped : ∀ a, keep a = false → a = nothing) (found : Option α) :
    (found.filter keep).getD nothing = found.getD nothing := by
  cases found with
  | none => rfl
  | some a =>
      rw [Option.filter_some]
      cases hkeep : keep a with
      | true => rfl
      | false => exact (hdropped a hkeep).symm

theorem eq_nil_of_not_kept {moments : List Nat} (hdropped : (!moments.isEmpty) = false) :
    moments = [] := by
  simpa using hdropped

theorem eq_empty_of_not_kept {flags : Table Nat} (hdropped : (!flags.isEmpty) = false) :
    flags = {} := by
  obtain ⟨rows⟩ := flags
  have hrows : rows = [] := by simpa [Table.isEmpty] using hdropped
  rw [hrows]

theorem hits_sweep (hordered : t.Ordered) (key : String) (now : Nat) :
    ((t.sweep now).hits.get? key).getD [] = t.recent key now := by
  rw [sweep, (hordered.hits.mapValues _).get?_filter, Table.get?_mapValues,
    getD_filter fun _ => eq_nil_of_not_kept]
  exact Option.getD_map (within t.window now) [] _

theorem alerts_sweep (hordered : t.Ordered) (key : String) (now : Nat) :
    ((t.sweep now).alerts.get? key).getD {} = t.raised key now := by
  rw [sweep, (hordered.alerts.mapValues _).get?_filter, Table.get?_mapValues,
    getD_filter fun _ => eq_empty_of_not_kept]
  exact Option.getD_map (standing now) {} _

/-- A sweep over all keys does not show. -/
theorem sameFor_sweep (hordered : t.Ordered) (key : String) (now : Nat) :
    SameFor key now t (t.sweep now) :=
  sameFor_of_forgotten t (t.sweep now) rfl rfl (.inl (hits_sweep hordered key now))
    (.inl (alerts_sweep hordered key now))

theorem hits_prune (t : Tracker) (key read : String) (now : Nat) :
    ((t.prune read now).hits.get? key).getD [] =
      if key = read then t.recent key now else (t.hits.get? key).getD [] := by
  unfold prune
  by_cases hread : key = read
  · subst hread
    rw [if_pos rfl]
    dsimp only
    split
    next hempty =>
      rw [Table.get?_erase_self]
      exact (List.isEmpty_iff.mp hempty).symm
    next => rw [Table.get?_insert_self, Option.getD_some]
  · rw [if_neg hread]
    dsimp only
    split
    · rw [Table.get?_erase_of_ne _ hread]
    · rw [Table.get?_insert_of_ne _ hread]

theorem alerts_prune (t : Tracker) (key read : String) (now : Nat) :
    ((t.prune read now).alerts.get? key).getD {} =
      if key = read then t.raised key now else (t.alerts.get? key).getD {} := by
  unfold prune
  by_cases hread : key = read
  · subst hread
    rw [if_pos rfl]
    dsimp only
    split
    next hempty =>
      rw [Table.get?_erase_self]
      exact (eq_empty_of_not_kept (by simp [hempty])).symm
    next => rw [Table.get?_insert_self, Option.getD_some]
  · rw [if_neg hread]
    dsimp only
    split
    · rw [Table.get?_erase_of_ne _ hread]
    · rw [Table.get?_insert_of_ne _ hread]

/-- Neither does it show what is forgotten when a key is read. -/
theorem sameFor_prune (t : Tracker) (key read : String) (now : Nat) :
    SameFor key now t (t.prune read now) := by
  have hhits := hits_prune t key read now
  have halerts := alerts_prune t key read now
  by_cases hread : key = read
  · rw [if_pos hread] at hhits halerts
    exact sameFor_of_forgotten t (t.prune read now) rfl rfl (.inl hhits) (.inl halerts)
  · rw [if_neg hread] at hhits halerts
    exact sameFor_of_forgotten t (t.prune read now) rfl rfl (.inr hhits) (.inr halerts)

theorem Ordered.sweep (hordered : t.Ordered) (now : Nat) : (t.sweep now).Ordered :=
  ⟨(hordered.hits.mapValues _).filter _, (hordered.alerts.mapValues _).filter _⟩

theorem Ordered.prune (hordered : t.Ordered) (key : String) (now : Nat) :
    (t.prune key now).Ordered := by
  unfold Tracker.prune
  constructor
  · dsimp only
    split
    · exact hordered.hits.erase _
    · exact hordered.hits.insert _ _
  · dsimp only
    split
    · exact hordered.alerts.erase _
    · exact hordered.alerts.insert _ _

/-! ## Records -/

/-- A tracker that has counted one more record. -/
def numbered (t : Tracker) : Tracker := { t with records := t.records + 1 }

theorem Ordered.numbered (hordered : t.Ordered) : t.numbered.Ordered :=
  ⟨hordered.hits, hordered.alerts⟩

/-- A tracker that has counted one more record, and has swept if it was time to. -/
def counted (t : Tracker) (now : Nat) : Tracker :=
  if t.numbered.records % sweepEvery = 0 then t.numbered.sweep now else t.numbered

/-- A tracker with one more request of a key. -/
def hit (t : Tracker) (key : String) (now : Nat) : Tracker :=
  { t with hits := t.hits.modify key [] (· ++ [now]) }

theorem record_eq (t : Tracker) (org agent : String) (now : Nat) :
    t.record org agent now = (t.counted now).hit (Tracker.key org agent) now := rfl

theorem sameFor_counted (hordered : t.Ordered) (key : String) (now : Nat) :
    SameFor key now t (t.counted now) := by
  have hnumbered : SameFor key now t t.numbered :=
    ⟨rfl, rfl, fun _ _ => rfl, fun _ _ => rfl⟩
  unfold counted
  split
  · exact hnumbered.trans (sameFor_sweep hordered.numbered key now)
  · exact hnumbered

theorem Ordered.counted (hordered : t.Ordered) (now : Nat) : (t.counted now).Ordered := by
  unfold Tracker.counted
  split
  · exact hordered.numbered.sweep now
  · exact hordered.numbered

theorem sameFor_hit_of_ne (t : Tracker) {key other : String} (hne : key ≠ other) (now : Nat) :
    SameFor key now t (t.hit other now) where
  window := rfl
  threshold := rfl
  recent later _ := by rw [recent, hit, Table.get?_modify_of_ne _ hne]; rfl
  raised _ _ := rfl

theorem recent_hit (t : Tracker) (key : String) (now later : Nat) :
    (t.hit key now).recent key later =
      if (t.recent key later).isEmpty then within t.window later [now]
      else t.recent key later ++ [now] := by
  rw [recent, hit, Table.get?_modify_self, Option.getD_some, within_append]
  rfl

/-- A request of the key itself counts in both alike. -/
theorem SameFor.hit (hsame : SameFor key now t t') :
    SameFor key now (t.hit key now) (t'.hit key now) where
  window := hsame.window
  threshold := hsame.threshold
  recent later hle := by
    rw [recent_hit, recent_hit, hsame.recent later hle, hsame.window]
  raised later hle := hsame.raised later hle

/-- A record of another caller does not show. -/
theorem sameFor_record_of_ne (hordered : t.Ordered) {org agent : String}
    (hne : key ≠ Tracker.key org agent) (now : Nat) :
    SameFor key now t (t.record org agent now) := by
  rw [record_eq]
  exact (sameFor_counted hordered key now).trans (sameFor_hit_of_ne _ hne now)

/-- A record of the caller itself counts in both alike, wherever they are between two sweeps. -/
theorem SameFor.record {org agent : String} (hsame : SameFor (Tracker.key org agent) now t t')
    (hordered : t.Ordered) (hordered' : t'.Ordered) :
    SameFor (Tracker.key org agent) now (t.record org agent now) (t'.record org agent now) := by
  rw [record_eq, record_eq]
  have hcounted := (sameFor_counted hordered (Tracker.key org agent) now).symm
  exact ((hcounted.trans hsame).trans (sameFor_counted hordered' _ now)).hit

theorem Ordered.record (hordered : t.Ordered) (org agent : String) (now : Nat) :
    (t.record org agent now).Ordered := by
  rw [record_eq]
  exact ⟨(hordered.counted now).hits.modify _ _ _, (hordered.counted now).alerts⟩

/-- Trackers that tell the same of a caller give it the same signals. -/
theorem SameFor.signals_eq {org agent : String}
    (hsame : SameFor (Tracker.key org agent) now t t') :
    (t'.signals org agent now).1 = (t.signals org agent now).1 := by
  unfold signals
  dsimp only
  rw [hsame.recent now le_rfl, hsame.raised now le_rfl]
  unfold signalsOf score
  rw [hsame.threshold]

end Risk.Tracker

end Mandate
