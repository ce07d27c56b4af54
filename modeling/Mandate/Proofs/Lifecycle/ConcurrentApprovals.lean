import Mandate.Proofs.Lifecycle.Run

/-! # Signatures under way at once

Several people sign one version at the same time. Each signature is the machine that it is when it
has the policies to itself, and the steps of all of them mix in any order; no step makes more than
one call to the repository.

A signature goes by the status that it found when it looked the version up, and by the count that
it was given after it had signed. Both may be out of date when it decides about the approval. What
saves the quorum is that a signature counts after it has signed: among those who have signed there
is always one that has not counted yet or has counted them all, as long as the version is a draft.
-/

namespace Mandate.Lifecycle

open Mandate.Json Mandate.Time

/-! ## Signatures and their steps -/

/-- The calls that sign one version, each with its user and how far it has come. -/
structure SigningRound where
  lifecycle : Lifecycle
  calls : List (Uuid × Progress Approval ApprovalOutcome)

namespace Approval

/-- Whether a signature has been put down. -/
def Recorded : Progress Approval ApprovalOutcome → Prop
  | .next (.signed ..) | .next (.counted ..) | .next (.settled ..) | .ended (.ok _) => True
  | .next .begun | .next (.policyFound _) | .next (.bodyCompiled ..) | .ended (.error _) => False

/-- Whether a call is going to approve the version if the quorum is reached. -/
def Due (quorum : Nat) : Progress Approval ApprovalOutcome → Prop
  | .next (.signed ..) => True
  | .next (.counted _ _ approvals) => quorum ≤ approvals
  | _ => False

/-- How many steps a call has left at most. -/
def left : Progress Approval ApprovalOutcome → Nat
  | .next stage => stage.remaining
  | .ended _ => 0

theorem left_step_lt (policyId : Uuid) (version : Nat) (user : Uuid) (on : Occasion)
    (l : Lifecycle) (stage : Approval) :
    left (step policyId version user on l stage).1 < stage.remaining := by
  cases hstep : step policyId version user on l stage with
  | mk progress l' =>
      cases progress with
      | next b => exact remaining_lt_of_step hstep
      | ended result => cases stage <;> exact Nat.succ_pos _

end Approval

namespace SigningRound

/-- Everybody calls. -/
def start (l : Lifecycle) (users : List Uuid) : SigningRound :=
  ⟨l, users.map (·, .next .begun)⟩

/-- The call at a place takes a step. One that has returned takes none. -/
def step (policyId : Uuid) (version : Nat) (round : SigningRound) (place : Nat) (on : Occasion) :
    SigningRound :=
  match round.calls[place]? with
  | some (user, .next stage) =>
      let (progress, lifecycle) := Approval.step policyId version user on round.lifecycle stage
      ⟨lifecycle, round.calls.set place (user, progress)⟩
  | some (_, .ended _) | none => round

/-- A schedule says which call takes a step next, and on which occasion. -/
def run (policyId : Uuid) (version : Nat) (round : SigningRound)
    (schedule : List (Nat × Occasion)) : SigningRound :=
  schedule.foldl (fun round (place, on) => round.step policyId version place on) round

/-- Every call has returned. -/
def Over (round : SigningRound) : Prop :=
  ∀ call ∈ round.calls, ∃ result, call.2 = .ended result

variable {round : SigningRound} {policyId : Uuid} {version : Nat} {place : Nat} {on : Occasion}

/-- Nothing happens, or the call at the place takes one step of a signature. -/
theorem step_cases (round : SigningRound) (policyId : Uuid) (version place : Nat)
    (on : Occasion) :
    (round.step policyId version place on = round ∧
      ∀ user stage, round.calls[place]? ≠ some (user, .next stage)) ∨
    ∃ user stage, round.calls[place]? = some (user, .next stage) ∧
      round.step policyId version place on =
        ⟨(Approval.step policyId version user on round.lifecycle stage).2,
          round.calls.set place
            (user, (Approval.step policyId version user on round.lifecycle stage).1)⟩ := by
  unfold step
  split
  next user stage hcall => exact Or.inr ⟨user, stage, hcall, rfl⟩
  next hcall => exact Or.inl ⟨rfl, fun user stage => by simp [hcall]⟩
  next hcall => exact Or.inl ⟨rfl, fun user stage => by simp [hcall]⟩

/-! ## Calls that return -/

/-- How many steps the call at a place has left at most. -/
def leftAt (round : SigningRound) (place : Nat) : Nat :=
  (round.calls[place]?.map fun call => Approval.left call.2).getD 0

theorem leftAt_step (round : SigningRound) (policyId : Uuid) (version place : Nat)
    (on : Occasion) (other : Nat) :
    (round.step policyId version place on).leftAt other ≤
      round.leftAt other - if place = other then 1 else 0 := by
  rcases round.step_cases policyId version place on with
    ⟨hsame, hended⟩ | ⟨user, stage, hcall, hstep⟩
  · rw [hsame]
    split
    next hplace =>
      subst hplace
      have hnone : round.leftAt place = 0 := by
        unfold leftAt
        cases hcall : round.calls[place]? with
        | none => rfl
        | some call =>
            obtain ⟨user, stage | result⟩ := call
            · exact absurd hcall (hended user stage)
            · rfl
      rw [hnone]
    next => exact Nat.le_refl _
  · rw [hstep]
    unfold leftAt
    split
    next hplace =>
      subst hplace
      obtain ⟨hlt, -⟩ := List.getElem?_eq_some_iff.mp hcall
      rw [hcall, List.getElem?_set_self hlt]
      exact Nat.le_sub_one_of_lt (Approval.left_step_lt policyId version user on _ stage)
    next hplace =>
      rw [List.getElem?_set_ne hplace]
      exact Nat.le_refl _

theorem leftAt_run (round : SigningRound) (policyId : Uuid) (version : Nat)
    (schedule : List (Nat × Occasion)) (place : Nat) :
    (round.run policyId version schedule).leftAt place ≤
      round.leftAt place - schedule.countP (·.1 == place) := by
  induction schedule generalizing round with
  | nil => exact Nat.le_refl _
  | cons move rest ih =>
      refine Nat.le_trans (ih (round.step policyId version move.1 move.2)) ?_
      have hstep := round.leftAt_step policyId version move.1 move.2 place
      rw [List.countP_cons]
      by_cases hplace : move.1 = place
      · simp only [hplace, ↓reduceIte, beq_self_eq_true] at hstep ⊢
        omega
      · simp only [hplace, ↓reduceIte, beq_iff_eq] at hstep ⊢
        omega

theorem over_of_leftAt (hleft : ∀ place, round.leftAt place = 0) : round.Over := by
  intro call hcall
  obtain ⟨place, hplace⟩ := List.mem_iff_getElem?.mp hcall
  have hzero := hleft place
  unfold leftAt at hzero
  rw [hplace] at hzero
  obtain ⟨user, stage | result⟩ := call
  · cases stage <;> cases hzero
  · exact ⟨result, rfl⟩

/-- Once every call has been given six steps, all have returned. -/
theorem over_run (l : Lifecycle) (users : List Uuid) (policyId : Uuid) (version : Nat)
    {schedule : List (Nat × Occasion)}
    (hschedule : ∀ place < users.length, 6 ≤ schedule.countP (·.1 == place)) :
    ((start l users).run policyId version schedule).Over := by
  apply over_of_leftAt
  intro place
  have hrun := (start l users).leftAt_run policyId version schedule place
  by_cases hplace : place < users.length
  · have hsix : (start l users).leftAt place = 6 := by
      simp [leftAt, start, hplace, Approval.left, Approval.remaining]
    have := hschedule place hplace
    omega
  · have hzero : (start l users).leftAt place = 0 := by
      simp [leftAt, start, hplace]
    omega

end SigningRound

/-! ## What the calls share -/

/-- The policies while a version is being signed: it can be found and compiled, and it is approved
only if enough people have signed it. -/
structure Signable (policyId : Uuid) (version : Nat) (policy : Policy) (body : Value)
    (quorum : Nat) (l : Lifecycle) : Prop where
  unfailing : l.Unfailing
  wellFormed : l.repository.WellFormed
  quorum_eq : l.quorum = quorum
  policy_eq : l.repository.getPolicy policyId = .ok policy
  compiles : ∃ artifact, l.compile policy body = .ok artifact
  version_eq : ∃ v, l.repository.getVersion policyId version = .ok v ∧ v.body = body ∧
    (v.status = .draft ∨
      v.status = .approved ∧ quorum ≤ l.repository.countApprovals policyId version)

variable {l l' : Lifecycle} {policyId : Uuid} {version : Nat} {policy : Policy} {body : Value}
  {quorum : Nat} {user : Uuid} {on : Occasion}

/-- Nothing that a signature puts down or tells others keeps the version from being signed. -/
theorem Signable.sign (hsignable : Signable policyId version policy body quorum l) (user : Uuid)
    (on : Occasion) :
    Signable policyId version policy body quorum
      { l with repository := l.repository.sign policyId version user on.time } := by
  obtain ⟨v, hv, hbody, hstatus⟩ := hsignable.version_eq
  refine
    { hsignable with
      wellFormed := hsignable.wellFormed.sign
      policy_eq := ?_
      version_eq := ⟨v, by rw [Repository.getVersion_sign, hv], hbody, hstatus.imp_right ?_⟩ }
  · simpa [Repository.getPolicy] using hsignable.policy_eq
  · rintro ⟨happroved, hquorum⟩
    exact ⟨happroved, Nat.le_trans hquorum (Repository.countApprovals_le_sign _ _)⟩

theorem Signable.settle (hsignable : Signable policyId version policy body quorum l)
    (event : AuditRecord) (on : Occasion) :
    Signable policyId version policy body quorum ((l.invalidate policyId).record event on) :=
  { hsignable with }

/-- A version that enough people have signed can be approved, and is approved then. -/
theorem Signable.approve (hsignable : Signable policyId version policy body quorum l)
    (hquorum : quorum ≤ l.repository.countApprovals policyId version) (user : Uuid)
    (on : Occasion) :
    ∃ v repository,
      l.repository.approveVersion policyId version (some user) on.time = .ok (v, repository) ∧
      repository.approvals = l.repository.approvals ∧
      (∃ w, repository.getVersion policyId version = .ok w ∧ w.status = .approved) ∧
      Signable policyId version policy body quorum { l with repository } := by
  obtain ⟨v, hv, hbody, hdraft | ⟨happroved, -⟩⟩ := hsignable.version_eq
  · have hupdated := Repository.getVersion_updateVersion (·.approved (some user) on.time)
      (fun _ => rfl) hv
    exact ⟨_, _, Repository.approveVersion_of_draft hv hdraft, rfl, ⟨_, hupdated, rfl⟩,
      { hsignable with
        wellFormed := hsignable.wellFormed.updateVersion fun _ => rfl
        version_eq := ⟨_, hupdated, hbody, Or.inr ⟨rfl, hquorum⟩⟩ }⟩
  · exact ⟨_, _, Repository.approveVersion_of_approved hv happroved, rfl, ⟨v, hv, happroved⟩,
      hsignable⟩

/-! ## One step among others -/

/-- What a call holds in its hands: the policy that is stored, a status that lets the version be
approved, and a count that the signatures have reached. No call has failed. -/
def Approval.Sound (policy : Policy) (approvals : Nat) : Progress Approval ApprovalOutcome → Prop
  | .next .begun | .next (.settled ..) | .ended (.ok _) => True
  | .next (.policyFound found) => found = policy
  | .next (.bodyCompiled _ current) | .next (.signed _ current) => current.status ≠ .active
  | .next (.counted _ current count) => current.status ≠ .active ∧ count ≤ approvals
  | .ended (.error _) => False

theorem Approval.Sound.mono {fewer more : Nat} {progress : Progress Approval ApprovalOutcome}
    (hsound : Sound policy fewer progress) (hle : fewer ≤ more) : Sound policy more progress := by
  match progress, hsound with
  | .next .begun, _ | .next (.settled ..), _ | .ended (.ok _), _ => trivial
  | .next (.policyFound _), hfound => exact hfound
  | .next (.bodyCompiled ..), hstatus | .next (.signed ..), hstatus => exact hstatus
  | .next (.counted ..), ⟨hstatus, hcounted⟩ => exact ⟨hstatus, Nat.le_trans hcounted hle⟩

/-- The version is approved. -/
def Approved (l : Lifecycle) (policyId : Uuid) (version : Nat) : Prop :=
  ∃ v, l.repository.getVersion policyId version = .ok v ∧ v.status = .approved

/-- What one step of a user's call does to the policies and to the call. If the quorum is reached
after it, then the version is approved, or the call will see to it, or the step has changed
nothing and it had never been up to this call. -/
structure Advance (policyId : Uuid) (version : Nat) (policy : Policy) (body : Value)
    (quorum : Nat) (user : Uuid) (l : Lifecycle) (was : Progress Approval ApprovalOutcome)
    (l' : Lifecycle) (progress : Progress Approval ApprovalOutcome) : Prop where
  signable : Signable policyId version policy body quorum l'
  sound : Approval.Sound policy (l'.repository.countApprovals policyId version) progress
  keeps : l.repository.signers policyId version ⊆ l'.repository.signers policyId version
  adds : l'.repository.signers policyId version ⊆ user :: l.repository.signers policyId version
  recorded : Approval.Recorded progress → user ∈ l'.repository.signers policyId version
  due : quorum ≤ l'.repository.countApprovals policyId version →
    l'.Approved policyId version ∨ Approval.Due quorum progress ∨
      (¬ Approval.Due quorum was ∧ l'.repository = l.repository ∧
        (Approval.Recorded progress → Approval.Recorded was))

/-- A step that neither adds nor loses a signature. -/
theorem Advance.of_signers_eq {was progress : Progress Approval ApprovalOutcome}
    (hsignable : Signable policyId version policy body quorum l')
    (hsame : l'.repository.signers policyId version = l.repository.signers policyId version)
    (hsound : Approval.Sound policy (l'.repository.countApprovals policyId version) progress)
    (hrecorded : Approval.Recorded progress → user ∈ l.repository.signers policyId version)
    (hdue : quorum ≤ l'.repository.countApprovals policyId version →
      l'.Approved policyId version ∨ Approval.Due quorum progress ∨
        (¬ Approval.Due quorum was ∧ l'.repository = l.repository ∧
          (Approval.Recorded progress → Approval.Recorded was))) :
    Advance policyId version policy body quorum user l was l' progress where
  signable := hsignable
  sound := hsound
  keeps := by rw [hsame]; exact List.Subset.refl _
  adds := by rw [hsame]; exact List.subset_cons_self _ _
  recorded := by rwa [hsame]
  due := hdue

/-- A step that leaves the repository alone. -/
theorem Advance.of_same {was progress : Progress Approval ApprovalOutcome}
    (hsignable : Signable policyId version policy body quorum l')
    (hsame : l'.repository = l.repository)
    (hsound : Approval.Sound policy (l'.repository.countApprovals policyId version) progress)
    (hrecorded : Approval.Recorded progress → user ∈ l.repository.signers policyId version)
    (hdue : quorum ≤ l'.repository.countApprovals policyId version →
      Approval.Due quorum progress ∨ (¬ Approval.Due quorum was ∧
        (Approval.Recorded progress → Approval.Recorded was))) :
    Advance policyId version policy body quorum user l was l' progress :=
  .of_signers_eq hsignable (by rw [hsame]) hsound hrecorded fun hquorum =>
    Or.inr ((hdue hquorum).imp_right fun ⟨hnot, hbefore⟩ => ⟨hnot, hsame, hbefore⟩)

/-- The next step of a user's call that has come to a stage is an advance. -/
def Approval.Advances (policyId : Uuid) (version : Nat) (policy : Policy) (body : Value)
    (quorum : Nat) (user : Uuid) (on : Occasion) (l : Lifecycle) (stage : Approval) : Prop :=
  Advance policyId version policy body quorum user l (.next stage)
    (Approval.step policyId version user on l stage).2
    (Approval.step policyId version user on l stage).1

/-! ### Stage by stage -/

/-- To be an advance, a step only has to be looked at in what it comes to. -/
theorem Approval.advances_of_step {stage : Approval} {progress : Progress Approval ApprovalOutcome}
    (hstep : Approval.step policyId version user on l stage = (progress, l'))
    (hadvance : Advance policyId version policy body quorum user l (.next stage) l' progress) :
    Approval.Advances policyId version policy body quorum user on l stage := by
  rwa [Approval.Advances, hstep]

theorem Signable.advances_begun (hsignable : Signable policyId version policy body quorum l) :
    Approval.Advances policyId version policy body quorum user on l .begun := by
  have hstep : Approval.step policyId version user on l .begun =
      (.next (.policyFound policy), l) := by
    simp [Approval.step, hsignable.unfailing.ask, hsignable.policy_eq]
  exact Approval.advances_of_step hstep <|
    .of_same hsignable rfl rfl False.elim fun _ => Or.inr ⟨False.elim, False.elim⟩

theorem Signable.advances_policyFound
    (hsignable : Signable policyId version policy body quorum l) :
    Approval.Advances policyId version policy body quorum user on l (.policyFound policy) := by
  obtain ⟨v, hv, hbody, hstatus⟩ := hsignable.version_eq
  obtain ⟨artifact, hcompile⟩ := hsignable.compiles
  have hinactive : v.status ≠ .active := by
    rcases hstatus with hdraft | ⟨happroved, -⟩
    · rw [hdraft]; decide
    · rw [happroved]; decide
  have hstep : Approval.step policyId version user on l (.policyFound policy) =
      (.next (.bodyCompiled policy v), l) := by
    simp [Approval.step, hsignable.unfailing.ask, hv, hbody, hcompile]
  exact Approval.advances_of_step hstep <|
    .of_same hsignable rfl hinactive False.elim fun _ => Or.inr ⟨False.elim, False.elim⟩

/-- This is the step that signs. -/
theorem Signable.advances_bodyCompiled
    (hsignable : Signable policyId version policy body quorum l) {found : Policy}
    {current : PolicyVersion} (hinactive : current.status ≠ .active) :
    Approval.Advances policyId version policy body quorum user on l
      (.bodyCompiled found current) := by
  obtain ⟨v, hv, -⟩ := hsignable.version_eq
  have hstep : Approval.step policyId version user on l (.bodyCompiled found current) =
      (.next (.signed found current),
        { l with repository := l.repository.sign policyId version user on.time }) := by
    simp [Approval.step, hsignable.unfailing.change, Repository.recordApproval_of_getVersion hv,
      Except.map]
  have hwell := hsignable.wellFormed
  have hsigners : ∀ other,
      other ∈ (l.repository.sign policyId version user on.time).signers policyId version ↔
        other ∈ l.repository.signers policyId version ∨ other = user := by
    intro other
    rw [hwell.sign.mem_signers_iff, hwell.mem_signers_iff, Repository.mem_sign_approvalKeys]
    simp
  exact Approval.advances_of_step hstep
    { signable := hsignable.sign user on
      sound := hinactive
      keeps := fun other hother => (hsigners other).mpr (Or.inl hother)
      adds := fun other hother => List.mem_cons.mpr ((hsigners other).mp hother).symm
      recorded := fun _ => (hsigners user).mpr (Or.inr rfl)
      due := fun _ => Or.inr (Or.inl trivial) }

theorem Signable.advances_signed (hsignable : Signable policyId version policy body quorum l)
    {found : Policy} {current : PolicyVersion} (hinactive : current.status ≠ .active)
    (hsigned : user ∈ l.repository.signers policyId version) :
    Approval.Advances policyId version policy body quorum user on l (.signed found current) := by
  have hstep : Approval.step policyId version user on l (.signed found current) =
      (.next (.counted found current (l.repository.countApprovals policyId version)), l) := by
    simp [Approval.step, hsignable.unfailing.ask]
  exact Approval.advances_of_step hstep <|
    .of_same hsignable rfl ⟨hinactive, Nat.le_refl _⟩ (fun _ => hsigned) Or.inl

/-- The count was right when it was taken, and signatures are never lost. -/
theorem Signable.advances_counted_of_quorum
    (hsignable : Signable policyId version policy body quorum l) {found : Policy}
    {current : PolicyVersion} {counted : Nat} (hinactive : current.status ≠ .active)
    (hcounted : counted ≤ l.repository.countApprovals policyId version)
    (hquorum : quorum ≤ counted) (hsigned : user ∈ l.repository.signers policyId version) :
    Approval.Advances policyId version policy body quorum user on l
      (.counted found current counted) := by
  obtain ⟨w, repository, happrove, happrovals, happroved, hafter⟩ :=
    hsignable.approve (Nat.le_trans hquorum hcounted) user on
  have hstep : Approval.step policyId version user on l (.counted found current counted) =
      (.next (.settled found counted true), { l with repository }) := by
    simp [Approval.step, hinactive, hsignable.quorum_eq, hquorum, hsignable.unfailing.change,
      happrove, Except.map]
  have hsame : repository.signers policyId version = l.repository.signers policyId version := by
    rw [Repository.signers, happrovals, Repository.signers]
  exact Approval.advances_of_step hstep <|
    .of_signers_eq hafter hsame trivial (fun _ => hsigned) fun _ => Or.inl happroved

theorem Signable.advances_counted_of_short
    (hsignable : Signable policyId version policy body quorum l) {found : Policy}
    {current : PolicyVersion} {counted : Nat} (hinactive : current.status ≠ .active)
    (hshort : ¬ quorum ≤ counted) (hsigned : user ∈ l.repository.signers policyId version) :
    Approval.Advances policyId version policy body quorum user on l
      (.counted found current counted) := by
  have hstep : Approval.step policyId version user on l (.counted found current counted) =
      (.next (.settled found counted false), l) := by
    simp [Approval.step, hinactive, hsignable.quorum_eq, hshort]
  exact Approval.advances_of_step hstep <|
    .of_same hsignable rfl trivial (fun _ => hsigned) fun _ => Or.inr ⟨hshort, fun _ => trivial⟩

theorem Signable.advances_settled (hsignable : Signable policyId version policy body quorum l)
    {found : Policy} {approvals : Nat} {approved : Bool}
    (hsigned : user ∈ l.repository.signers policyId version) :
    Approval.Advances policyId version policy body quorum user on l
      (.settled found approvals approved) :=
  Approval.advances_of_step rfl <|
    .of_same (hsignable.settle _ on) rfl trivial (fun _ => hsigned)
      fun _ => Or.inr ⟨False.elim, fun _ => trivial⟩

/-- Every step of a call that holds what it should hold is an advance. -/
theorem Signable.advance (hsignable : Signable policyId version policy body quorum l)
    {stage : Approval}
    (hsound : Approval.Sound policy (l.repository.countApprovals policyId version) (.next stage))
    (hsigned : Approval.Recorded (.next stage) → user ∈ l.repository.signers policyId version)
    (on : Occasion) : Approval.Advances policyId version policy body quorum user on l stage := by
  cases stage with
  | begun => exact hsignable.advances_begun
  | policyFound found =>
      obtain rfl : found = policy := hsound
      exact hsignable.advances_policyFound
  | bodyCompiled found current => exact hsignable.advances_bodyCompiled hsound
  | signed found current => exact hsignable.advances_signed hsound (hsigned trivial)
  | counted found current counted =>
      obtain ⟨hinactive, hcounted⟩ := hsound
      by_cases hquorum : quorum ≤ counted
      · exact hsignable.advances_counted_of_quorum hinactive hcounted hquorum (hsigned trivial)
      · exact hsignable.advances_counted_of_short hinactive hquorum (hsigned trivial)
  | settled found approvals approved => exact hsignable.advances_settled (hsigned trivial)

/-! ## Every interleaving -/

namespace SigningRound

/-- What holds after every part of a schedule. Once somebody has signed and the quorum is reached,
the version is approved or one of the calls is going to approve it. -/
structure Orderly (policyId : Uuid) (version : Nat) (policy : Policy) (body : Value)
    (quorum : Nat) (before users : List Uuid) (round : SigningRound) : Prop where
  signable : Signable policyId version policy body quorum round.lifecycle
  users_eq : round.calls.map Prod.fst = users
  sound : ∀ call ∈ round.calls, Approval.Sound policy
    (round.lifecycle.repository.countApprovals policyId version) call.2
  keeps : before ⊆ round.lifecycle.repository.signers policyId version
  adds : round.lifecycle.repository.signers policyId version ⊆ before ++ users
  recorded : ∀ call ∈ round.calls, Approval.Recorded call.2 →
    call.1 ∈ round.lifecycle.repository.signers policyId version
  due : quorum ≤ round.lifecycle.repository.countApprovals policyId version →
    (∃ call ∈ round.calls, Approval.Recorded call.2) →
    round.lifecycle.Approved policyId version ∨ ∃ call ∈ round.calls, Approval.Due quorum call.2

variable {before users : List Uuid} {round : SigningRound}

theorem Orderly.start (hsignable : Signable policyId version policy body quorum l)
    (users : List Uuid) :
    Orderly policyId version policy body quorum (l.repository.signers policyId version) users
      (start l users) where
  signable := hsignable
  users_eq := by simp [SigningRound.start, Function.comp_def]
  sound := by
    intro call hcall
    obtain ⟨user, -, rfl⟩ := List.mem_map.mp hcall
    trivial
  keeps := List.Subset.refl _
  adds := List.subset_append_left _ _
  recorded := by
    intro call hcall
    obtain ⟨user, -, rfl⟩ := List.mem_map.mp hcall
    exact nofun
  due := by
    rintro - ⟨call, hcall, hrecorded⟩
    obtain ⟨user, -, rfl⟩ := List.mem_map.mp hcall
    cases hrecorded

/-- Whoever keeps its place is still there. -/
theorem mem_set_of_ne {α : Type} {l : List α} {place : Nat} {a old new : α} (ha : a ∈ l)
    (hold : l[place]? = some old) (hne : a ≠ old) : a ∈ l.set place new := by
  obtain ⟨other, hother⟩ := List.mem_iff_getElem?.mp ha
  apply List.mem_iff_getElem?.mpr
  refine ⟨other, ?_⟩
  rw [List.getElem?_set_ne, hother]
  rintro rfl
  exact hne (Option.some.inj (hother.symm.trans hold))

theorem Orderly.advance
    (horderly : Orderly policyId version policy body quorum before users round) {place : Nat}
    {was progress : Progress Approval ApprovalOutcome}
    (hcall : round.calls[place]? = some (user, was))
    (hadvance : Advance policyId version policy body quorum user round.lifecycle was l' progress) :
    Orderly policyId version policy body quorum before users
      ⟨l', round.calls.set place (user, progress)⟩ := by
  obtain ⟨hlt, hplace⟩ := List.getElem?_eq_some_iff.mp hcall
  have huser : user ∈ users := by
    rw [← horderly.users_eq]
    exact List.mem_map.mpr ⟨(user, was), List.mem_of_getElem? hcall, rfl⟩
  have hmore : round.lifecycle.repository.countApprovals policyId version ≤
      l'.repository.countApprovals policyId version := by
    rw [Repository.countApprovals_eq_length, Repository.countApprovals_eq_length]
    exact (horderly.signable.wellFormed.nodup_signers.subperm hadvance.keeps).length_le
  exact
    { signable := hadvance.signable
      users_eq := by
        have hplaced : place < (round.calls.map Prod.fst).length := by rwa [List.length_map]
        have huser : (round.calls.map Prod.fst)[place] = user := by
          rw [List.getElem_map, hplace]
        rw [List.map_set, ← horderly.users_eq, ← huser]
        exact List.set_getElem_self hplaced
      sound := by
        intro call hmem
        rcases List.mem_or_eq_of_mem_set hmem with hold | rfl
        · exact (horderly.sound call hold).mono hmore
        · exact hadvance.sound
      keeps := fun other hother => hadvance.keeps (horderly.keeps hother)
      adds := by
        intro other hother
        rcases List.mem_cons.mp (hadvance.adds hother) with rfl | hold
        · exact List.mem_append_right _ huser
        · exact horderly.adds hold
      recorded := by
        intro call hmem hrecorded
        rcases List.mem_or_eq_of_mem_set hmem with hold | rfl
        · exact hadvance.keeps (horderly.recorded call hold hrecorded)
        · exact hadvance.recorded hrecorded
      due := by
        rintro hquorum ⟨call, hmem, hrecorded⟩
        rcases hadvance.due hquorum with happroved | hdue | ⟨hnot, hsame, hbefore⟩
        · exact Or.inl happroved
        · exact Or.inr ⟨_, List.mem_set hlt _, hdue⟩
        · have hstill : ∃ call ∈ round.calls, Approval.Recorded call.2 := by
            rcases List.mem_or_eq_of_mem_set hmem with hold | rfl
            · exact ⟨call, hold, hrecorded⟩
            · exact ⟨_, List.mem_of_getElem? hcall, hbefore hrecorded⟩
          change quorum ≤ l'.repository.countApprovals policyId version at hquorum
          rw [hsame] at hquorum
          rcases horderly.due hquorum hstill with happroved | ⟨other, hother, hdue⟩
          · left
            rwa [Approved, hsame]
          · right
            refine ⟨other, mem_set_of_ne hother hcall ?_, hdue⟩
            rintro rfl
            exact hnot hdue }

theorem Orderly.step
    (horderly : Orderly policyId version policy body quorum before users round) (place : Nat)
    (on : Occasion) :
    Orderly policyId version policy body quorum before users
      (round.step policyId version place on) := by
  rcases round.step_cases policyId version place on with
    ⟨hsame, -⟩ | ⟨user, stage, hcall, hstep⟩
  · rw [hsame]
    exact horderly
  · rw [hstep]
    have hmem := List.mem_of_getElem? hcall
    exact horderly.advance hcall
      (horderly.signable.advance (horderly.sound _ hmem) (horderly.recorded _ hmem) on)

theorem Orderly.run
    (horderly : Orderly policyId version policy body quorum before users round)
    (schedule : List (Nat × Occasion)) :
    Orderly policyId version policy body quorum before users
      (round.run policyId version schedule) := by
  induction schedule generalizing round with
  | nil => exact horderly
  | cons move rest ih => exact ih (horderly.step move.1 move.2)

/-- A call that has returned has signed. -/
theorem Orderly.recorded_of_over
    (horderly : Orderly policyId version policy body quorum before users round)
    (hover : round.Over) {call : Uuid × Progress Approval ApprovalOutcome}
    (hcall : call ∈ round.calls) : Approval.Recorded call.2 := by
  obtain ⟨result, hresult⟩ := hover call hcall
  have hsound := horderly.sound call hcall
  rw [hresult] at hsound ⊢
  cases result with
  | error e => exact hsound
  | ok outcome => trivial

/-- Once all calls have returned, exactly those have signed who had signed before or have called. -/
theorem Orderly.signers_of_over
    (horderly : Orderly policyId version policy body quorum before users round)
    (hover : round.Over) :
    (round.lifecycle.repository.signers policyId version).toFinset =
      (before ++ users).toFinset := by
  ext user
  rw [List.mem_toFinset, List.mem_toFinset]
  refine ⟨fun hsigned => horderly.adds hsigned, fun hany => ?_⟩
  rcases List.mem_append.mp hany with hbefore | huser
  · exact horderly.keeps hbefore
  · rw [← horderly.users_eq] at huser
    obtain ⟨call, hcall, rfl⟩ := List.mem_map.mp huser
    exact horderly.recorded call hcall (horderly.recorded_of_over hover hcall)

/-- Once all calls have returned, the version is approved. -/
theorem Orderly.approved_of_over
    (horderly : Orderly policyId version policy body quorum before users round)
    (hover : round.Over) (husers : users ≠ [])
    (hquorum : quorum ≤ round.lifecycle.repository.countApprovals policyId version) :
    round.lifecycle.Approved policyId version := by
  obtain ⟨user, huser⟩ := List.exists_mem_of_ne_nil users husers
  rw [← horderly.users_eq] at huser
  obtain ⟨call, hcall, -⟩ := List.mem_map.mp huser
  have hrecorded := horderly.recorded_of_over hover hcall
  refine (horderly.due hquorum ⟨call, hcall, hrecorded⟩).resolve_right ?_
  rintro ⟨other, hother, hdue⟩
  obtain ⟨result, hresult⟩ := hover other hother
  rw [hresult] at hdue
  exact hdue

end SigningRound

/-- However the steps of calls mix that sign one draft whose body compiles, no call fails, and the
version is approved only while enough people have signed it. If those who had signed before and
those who call make the quorum, then once all calls have returned the version is approved, and the
count is the number of these people. All calls have returned at the latest when each has been given
six steps. -/
theorem quorum_survives_interleaving {l : Lifecycle} {policyId : Uuid} {version : Nat}
    {policy : Policy} {draft : PolicyVersion} {artifact : Artifact} {users : List Uuid}
    (hunfailing : l.Unfailing) (hwell : l.repository.WellFormed)
    (hpolicy : l.repository.getPolicy policyId = .ok policy)
    (hdraft : l.repository.getVersion policyId version = .ok draft)
    (hstatus : draft.status = .draft) (hcompile : l.compile policy draft.body = .ok artifact)
    (husers : users ≠ [])
    (hquorum : l.quorum ≤ (l.repository.signers policyId version ++ users).toFinset.card)
    (schedule : List (Nat × Occasion)) :
    let round := (SigningRound.start l users).run policyId version schedule
    let repository := round.lifecycle.repository
    (∀ call ∈ round.calls, ∀ e, call.2 ≠ .ended (.error e)) ∧
    (∃ v, repository.getVersion policyId version = .ok v ∧
      (v.status = .draft ∨ v.status = .approved ∧
        l.quorum ≤ (repository.signers policyId version).toFinset.card) ∧
      (round.Over → v.status = .approved ∧ repository.countApprovals policyId version =
        (l.repository.signers policyId version ++ users).toFinset.card)) ∧
    ((∀ place < users.length, 6 ≤ schedule.countP (·.1 == place)) → round.Over) := by
  intro round repository
  have hsignable : Signable policyId version policy draft.body l.quorum l :=
    ⟨hunfailing, hwell, rfl, hpolicy, ⟨artifact, hcompile⟩, draft, hdraft, rfl, Or.inl hstatus⟩
  have horderly := (SigningRound.Orderly.start hsignable users).run schedule
  have hcount : repository.countApprovals policyId version =
      (repository.signers policyId version).toFinset.card := by
    rw [Repository.countApprovals_eq_length,
      List.toFinset_card_of_nodup horderly.signable.wellFormed.nodup_signers]
  refine ⟨?_, ?_, SigningRound.over_run l users policyId version⟩
  · intro call hcall e herror
    have hsound := horderly.sound call hcall
    rw [herror] at hsound
    exact hsound
  · obtain ⟨v, hv, -, hstatus⟩ := horderly.signable.version_eq
    refine ⟨v, hv, hstatus.imp_right fun ⟨happroved, hreached⟩ => ⟨happroved, hcount ▸ hreached⟩,
      fun hover => ?_⟩
    have hall : repository.countApprovals policyId version =
        (l.repository.signers policyId version ++ users).toFinset.card := by
      rw [hcount, horderly.signers_of_over hover]
    obtain ⟨w, hw, happroved⟩ := horderly.approved_of_over hover husers (hall ▸ hquorum)
    obtain rfl : v = w := Except.ok.inj (hv.symm.trans hw)
    exact ⟨happroved, hall⟩

/-- A policy with one draft, which two people have to sign. -/
def drafted : Lifecycle where
  repository :=
    { policies := [⟨⟨1⟩, ⟨9⟩, "p", Rules.engineName, none, default⟩]
      versions := [.draft ⟨1⟩ 1 (.object [("rules", .array [])]) none default] }

/-- Two people call, one of them twice, and their calls keep in step. -/
theorem calls_in_step_approve :
    let round := (SigningRound.start drafted [⟨7⟩, ⟨8⟩, ⟨7⟩]).run ⟨1⟩ 1
      ((List.range 18).map fun n => (n % 3, default))
    drafted.quorum = 2 ∧ round.Over ∧
    ∃ v, round.lifecycle.repository.getVersion ⟨1⟩ 1 = .ok v ∧ v.status = .approved ∧
      round.lifecycle.repository.countApprovals ⟨1⟩ 1 = 2 := by
  intro round
  have hwell : drafted.repository.WellFormed := ⟨by decide, rfl, by decide⟩
  obtain ⟨artifact, hcompile⟩ : ∃ artifact, drafted.compile
      ⟨⟨1⟩, ⟨9⟩, "p", Rules.engineName, none, default⟩ (.object [("rules", .array [])]) =
        .ok artifact :=
    ⟨_, rfl⟩
  have hdraft : drafted.repository.getVersion ⟨1⟩ 1 = .ok _ := rfl
  have husers : [(⟨7⟩ : Uuid), ⟨8⟩, ⟨7⟩] ≠ [] := List.cons_ne_nil _ _
  obtain ⟨-, ⟨v, hv, -, hover⟩, hreturn⟩ := quorum_survives_interleaving (l := drafted) rfl hwell
    rfl hdraft rfl hcompile husers (by decide) ((List.range 18).map fun n => (n % 3, default))
  have hreturned : round.Over := hreturn (by decide)
  obtain ⟨happroved, hcount⟩ := hover hreturned
  exact ⟨rfl, hreturned, v, hv, happroved, hcount.trans (by decide)⟩

end Mandate.Lifecycle
